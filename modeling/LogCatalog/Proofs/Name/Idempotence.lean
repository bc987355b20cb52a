import LogCatalog.Proofs.Name.Identifier
import LogCatalog.Proofs.Text.Trimming
import LogCatalog.Proofs.Unicode.Boundaries

/-!
# Names stay as they are

A name that was derived from a label is its own name.  It is in NFC, since only whole clusters were
replaced in a text in NFC.  It is cut into clusters anew, and there an underscore may take over the
marks of a replaced neighbour; but a dot stays a cluster by itself, since no character of a name
binds the character after it and since the dot was a cluster before.

* `dotsApart_flatten`: in a name nothing binds a dot to its neighbours.
* `eq_dot_or_not_mem_of_mem_clusters`: in such a text a dot is a cluster by itself.
* `NameShaped`: what the names of labels look like.
* `normalize_name`: a name is in NFC.
* `unchanged_of_nameShaped`: a text in NFC with this shape is its own name.
* `ofLabel?_name`: a name leads to itself, and without changes.
-/

namespace LogCatalog

open Unicode
open ClusterState (bound)

set_option maxRecDepth 16384

/-! ### Characters of names -/

theorem binders_checked : ∀ row ∈ graphemeBreakRows, row.2.2 = .prepend ∨ row.2.2 = .zwj →
    ∀ i < row.2.1 - row.1 + 1, isIdentifierContinue (Char.ofNat (row.1 + i)) = false := by
  decide +kernel

theorem graphemeBreak_dot : graphemeBreak '.' = .other := rfl

theorem graphemeBreak_underscore : graphemeBreak '_' = .other := rfl

theorem isIdentifierContinue_of_binder {c : Char}
    (h : graphemeBreak c = .prepend ∨ graphemeBreak c = .zwj) :
    isIdentifierContinue c = false := by
  rw [graphemeBreak] at h
  split at h
  · split at h <;> rcases h with h | h <;> cases h
  · split at h
    · next i value hf =>
      obtain ⟨first, last, hmem, hn, hle⟩ := RangeMap.find?_ofRows hf
      have hchecked := binders_checked _ hmem h i (by simp only; omega)
      rwa [← hn, Char.ofNat_toNat] at hchecked
    · rcases h with h | h <;> cases h

/-- No character of a name binds whatever comes after it. -/
theorem graphemeBreak_ne_prepend {c : Char} (h : isIdentifierContinue c = true) :
    graphemeBreak c ≠ .prepend :=
  fun hc => Bool.noConfusion (h.symm.trans (isIdentifierContinue_of_binder (.inl hc)))

theorem graphemeBreak_ne_zwj {c : Char} (h : isIdentifierContinue c = true) :
    graphemeBreak c ≠ .zwj :=
  fun hc => Bool.noConfusion (h.symm.trans (isIdentifierContinue_of_binder (.inr hc)))

theorem bound_other {x : GraphemeBreak} (h : x ≠ .prepend) : bound x .other = false := by
  cases x
  all_goals first
    | rfl
    | exact absurd rfl h

def blankRanges : List (Nat × Nat) :=
  [(0x09, 0x0D), (0x20, 0x20), (0x85, 0x85), (0xA0, 0xA0), (0x1680, 0x1680), (0x2000, 0x200A),
    (0x2028, 0x2029), (0x202F, 0x202F), (0x205F, 0x205F), (0x3000, 0x3000)]

theorem blanks_checked : ∀ range ∈ blankRanges, ∀ i < range.2 - range.1 + 1,
    isIdentifierContinue (Char.ofNat (range.1 + i)) = false := by
  decide

theorem isBlank_eq_false {c : Char} (h : c = '.' ∨ isIdentifierContinue c = true) :
    Text.isBlank c = false := by
  rcases h with rfl | h
  · rfl
  cases hc : Text.isBlank c with
  | false => rfl
  | true =>
    obtain ⟨range, hrange, hfirst, hlast⟩ :
        ∃ range ∈ blankRanges, range.1 ≤ c.toNat ∧ c.toNat ≤ range.2 := by
      simp only [Text.isBlank, Bool.or_eq_true, Bool.and_eq_true, decide_eq_true_eq,
        beq_iff_eq] at hc
      simp only [blankRanges, List.mem_cons, List.not_mem_nil, or_false, exists_eq_or_imp,
        exists_eq_left]
      omega
    have hchecked := blanks_checked range hrange (c.toNat - range.1) (by omega)
    rw [Nat.add_sub_cancel' hfirst, Char.ofNat_toNat, h] at hchecked
    cases hchecked

/-! ### Dots as clusters -/

/-- Nothing binds a dot to its neighbours. -/
def DotsApart (t : Text) : Prop :=
  t.IsChain fun c d => c = '.' ∨ d = '.' → bound (graphemeBreak c) (graphemeBreak d) = false

theorem other_ne_indicator : (GraphemeBreak.other == .regionalIndicator) = false := rfl

theorem joins_dot {s : ClusterState} (h : bound s.last (graphemeBreak '.') = false) :
    s.joins '.' = false := by
  have hconsonant : isConjunctConsonant '.' = false := rfl
  have hpictograph : isPictograph '.' = false := rfl
  rw [graphemeBreak_dot] at h
  simp only [ClusterState.joins, graphemeBreak_dot, h, hconsonant, hpictograph, other_ne_indicator,
    Bool.and_false, Bool.or_false]

theorem start_dot_joins {d : Char} (h : bound (graphemeBreak '.') (graphemeBreak d) = false) :
    (ClusterState.start '.').joins d = false := by
  rw [graphemeBreak_dot] at h
  simp only [ClusterState.joins, ClusterState.start, graphemeBreak_dot, h, other_ne_indicator,
    Bool.false_and, Bool.or_false]

/-- The invariant of cutting: what has begun is a dot, or it holds none. -/
theorem eq_dot_or_not_mem_of_mem_clustersFrom {s : ClusterState} {c : Char} {begun t : Text}
    (hlast : s.last = graphemeBreak c) (hdot : c = '.' → begun = [] ∧ s = .start '.')
    (hbegun : '.' ∉ begun) (h : DotsApart (c :: t)) :
    ∀ cluster ∈ clustersFrom s (c :: begun) t, cluster = ['.'] ∨ '.' ∉ cluster := by
  have hdone : (c :: begun).reverse = ['.'] ∨ '.' ∉ (c :: begun).reverse := by
    by_cases hc : c = '.'
    · left
      rw [hc, (hdot hc).1]
      rfl
    · right
      rw [List.mem_reverse]
      exact List.not_mem_cons_of_ne_of_not_mem (Ne.symm hc) hbegun
  induction t generalizing s c begun with
  | nil =>
    intro cluster hcluster
    rw [clustersFrom, List.mem_singleton] at hcluster
    exact hcluster ▸ hdone
  | cons d rest ih =>
    obtain ⟨hbound, hrest⟩ := List.isChain_cons_cons.1 h
    intro cluster hcluster
    rw [clustersFrom] at hcluster
    split at hcluster
    · next hjoins =>
      -- Neither of the two is a dot, since the next character joins.
      have hc : c ≠ '.' := by
        rintro rfl
        rw [(hdot rfl).2, start_dot_joins (hbound (.inl rfl))] at hjoins
        cases hjoins
      have hd : d ≠ '.' := by
        rintro rfl
        rw [joins_dot (hlast ▸ hbound (.inr rfl))] at hjoins
        cases hjoins
      have hbegun' : '.' ∉ c :: begun := List.not_mem_cons_of_ne_of_not_mem (Ne.symm hc) hbegun
      have hdone' : '.' ∉ (d :: c :: begun).reverse := by
        rw [List.mem_reverse]
        exact List.not_mem_cons_of_ne_of_not_mem (Ne.symm hd) hbegun'
      exact ih (s := s.push d) (c := d) rfl (fun heq => absurd heq hd) hbegun' hrest
        (.inr hdone') cluster hcluster
    · rcases List.mem_cons.1 hcluster with rfl | hcluster
      · exact hdone
      refine ih (s := .start d) (c := d) rfl (fun heq => ⟨rfl, by rw [heq]⟩) (by simp) hrest ?_
        cluster hcluster
      by_cases hd : d = '.'
      · exact .inl (by rw [hd]; rfl)
      · exact .inr (by simpa using fun heq => hd heq.symm)

/-- **A dot that nothing binds to its neighbours is a cluster by itself.** -/
theorem eq_dot_or_not_mem_of_mem_clusters {t : Text} (h : DotsApart t) :
    ∀ cluster ∈ clusters t, cluster = ['.'] ∨ '.' ∉ cluster := by
  cases t with
  | nil => intro cluster hcluster; cases hcluster
  | cons c rest =>
    exact eq_dot_or_not_mem_of_mem_clustersFrom (s := .start c) rfl
      (fun heq => ⟨rfl, by rw [heq]⟩) List.not_mem_nil h

/-! ### What becomes of the clusters -/

/-- A dot stays, a cluster of characters of identifiers stays, and any other cluster becomes an
underscore. -/
inductive Becomes : Text → Text → Prop where
  | dot : Becomes ['.'] ['.']
  | kept {cluster : Text} (hne : cluster ≠ [])
      (hcontinue : ∀ c ∈ cluster, isIdentifierContinue c = true) : Becomes cluster cluster
  | replaced {cluster : Text} : Becomes cluster ['_']

theorem becomes_leading (cluster : Text) : Becomes cluster (NamePiece.leading cluster).name := by
  rcases NamePiece.leading_cases cluster with ⟨base, marks, rfl, hbase, hmarks, hpiece⟩ | hpiece
  · rw [hpiece]
    refine .kept (List.cons_ne_nil _ _) ?_
    exact List.forall_mem_cons.2 ⟨isIdentifierContinue_of_nameStart hbase, hmarks⟩
  · rw [hpiece]
    exact .replaced

theorem becomes_inner {cluster : Text} (hne : cluster ≠ []) :
    Becomes cluster (NamePiece.inner cluster).name := by
  rcases NamePiece.inner_cases cluster with ⟨rfl, hpiece⟩ | ⟨hcontinue, hpiece⟩ | hpiece
  · rw [hpiece]
    exact .dot
  · rw [hpiece]
    exact .kept hne hcontinue
  · rw [hpiece]
    exact .replaced

theorem forall₂_becomes {pieces : List Text} (hne : ∀ s ∈ pieces, s ≠ []) :
    List.Forall₂ Becomes pieces ((NamePiece.ofClusters pieces).map NamePiece.name) := by
  cases pieces with
  | nil => exact .nil
  | cons first rest =>
    refine .cons (becomes_leading first) ?_
    rw [List.map_map, List.forall₂_map_right_iff, List.forall₂_same]
    intro s hs
    exact becomes_inner (hne s (List.mem_cons_of_mem first hs))

theorem Becomes.ne_nil {s s' : Text} (h : Becomes s s') : s' ≠ [] := by
  cases h with
  | dot => exact List.cons_ne_nil _ _
  | kept hne _ => exact hne
  | replaced => exact List.cons_ne_nil _ _

theorem Becomes.eq_or {s s' : Text} (h : Becomes s s') : s' = s ∨ s' = ['_'] := by
  cases h with
  | dot => exact .inl rfl
  | kept _ _ => exact .inl rfl
  | replaced => exact .inr rfl

theorem dotsApart_of_continue {t : Text} (h : ∀ c ∈ t, isIdentifierContinue c = true) :
    DotsApart t := by
  refine List.Pairwise.isChain (List.pairwise_of_forall_mem_list fun c hc d hd hdot => ?_)
  rcases hdot with rfl | rfl
  · exact absurd rfl (ne_dot_of_isIdentifierContinue (h _ hc))
  · exact absurd rfl (ne_dot_of_isIdentifierContinue (h _ hd))

theorem Becomes.dotsApart {s s' : Text} (h : Becomes s s') : DotsApart s' := by
  cases h with
  | dot => exact .singleton _
  | kept _ hcontinue => exact dotsApart_of_continue hcontinue
  | replaced => exact .singleton _

/-- The last character of what a cluster becomes binds no dot after it. -/
theorem Becomes.bound_dot {s s' : Text} (h : Becomes s s') {c : Char} (hc : c ∈ s') :
    bound (graphemeBreak c) (graphemeBreak '.') = false := by
  rw [graphemeBreak_dot]
  cases h with
  | dot =>
    obtain rfl := List.mem_singleton.1 hc
    rw [graphemeBreak_dot]
    rfl
  | kept _ hcontinue => exact bound_other (graphemeBreak_ne_prepend (hcontinue c hc))
  | replaced =>
    obtain rfl := List.mem_singleton.1 hc
    rw [graphemeBreak_underscore]
    rfl

theorem Becomes.apart {s s' r r' : Text} (hs : Becomes s s') (hr : Becomes r r')
    (h : Apart s r) : ∀ c ∈ s'.getLast?, ∀ d ∈ r'.head?,
      c = '.' ∨ d = '.' → bound (graphemeBreak c) (graphemeBreak d) = false := by
  intro c hc d hd hdot
  have hlast : c ∈ s' := List.mem_of_getLast? hc
  rcases hdot with rfl | rfl
  · have hs' : s = ['.'] := by
      cases hs with
      | dot => rfl
      | kept _ hcontinue => exact absurd rfl (ne_dot_of_isIdentifierContinue (hcontinue _ hlast))
      | replaced => exact absurd (List.mem_singleton.1 hlast) (by decide)
    cases hr with
    | dot =>
      obtain rfl : '.' = d := Option.some.inj hd
      exact hs.bound_dot hlast
    | kept _ _ => exact h '.' (by rw [hs']; rfl) d hd
    | replaced =>
      obtain rfl : '_' = d := Option.some.inj hd
      rw [graphemeBreak_dot, graphemeBreak_underscore]
      rfl
  · exact hs.bound_dot hlast

theorem exists_becomes_of_mem {pieces pieces' : List Text}
    (h : List.Forall₂ Becomes pieces pieces') {s' : Text} (hs' : s' ∈ pieces') :
    ∃ s, Becomes s s' := by
  induction h with
  | nil => cases hs'
  | cons hs _ ih =>
    rcases List.mem_cons.1 hs' with rfl | hs'
    · exact ⟨_, hs⟩
    · exact ih hs'

/-- **In what apart clusters become, nothing binds a dot to its neighbours.** -/
theorem dotsApart_flatten {pieces pieces' : List Text} (h : List.Forall₂ Becomes pieces pieces')
    (hchain : pieces.IsChain Apart) : DotsApart pieces'.flatten := by
  have hne : [] ∉ pieces' := by
    intro hmem
    obtain ⟨s, hs⟩ := exists_becomes_of_mem h hmem
    exact hs.ne_nil rfl
  refine (List.isChain_flatten hne).2 ⟨fun s' hs' => ?_, ?_⟩
  · obtain ⟨s, hs⟩ := exists_becomes_of_mem h hs'
    exact hs.dotsApart
  · induction h with
    | nil => exact .nil
    | @cons s s' rest rest' hs hrest ih =>
      cases hrest with
      | nil => exact .singleton _
      | cons hr hmore =>
        obtain ⟨hapart, hchain'⟩ := List.isChain_cons_cons.1 hchain
        exact .cons_cons (hs.apart hr hapart)
          (ih hchain' fun hmem => hne (List.mem_cons_of_mem _ hmem))

/-! ### Clusters that stay -/

namespace NamePiece

theorem leading_eq_kept {base : Char} {marks : Text} (hbase : isNameStart base = true)
    (hmarks : ∀ c ∈ marks, isIdentifierContinue c = true) :
    leading (base :: marks) = kept (base :: marks) :=
  if_pos (isNameCluster_iff.2 ⟨base, marks, rfl, hbase, hmarks⟩)

theorem inner_stays {cluster : Text} (hne : cluster ≠ [])
    (h : cluster = ['.'] ∨ ∀ c ∈ cluster, isIdentifierContinue c = true) :
    (inner cluster).name = cluster ∧ (inner cluster).change? = none := by
  rcases h with rfl | h
  · exact ⟨rfl, rfl⟩
  obtain ⟨base, marks, rfl⟩ := List.exists_cons_of_ne_nil hne
  obtain ⟨hbase, hmarks⟩ := List.forall_mem_cons.1 h
  have hdot : base :: marks ≠ ['.'] := by
    intro heq
    exact ne_dot_of_isIdentifierContinue hbase (List.cons.inj heq).1
  have hkept : inner (base :: marks) = kept (base :: marks) := by
    rw [inner, if_neg hdot, if_pos (isNameCluster_iff.2 ⟨base, marks, rfl, hbase, hmarks⟩)]
  rw [hkept]
  exact ⟨rfl, rfl⟩

/-- Clusters that may stand in a name make it up unchanged. -/
theorem ofClusters_stays {base : Char} {marks : Text} {later : List Text}
    (hbase : isNameStart base = true) (hmarks : ∀ c ∈ marks, isIdentifierContinue c = true)
    (hlater : ∀ cluster ∈ later, (inner cluster).name = cluster
      ∧ (inner cluster).change? = none) :
    (ofClusters ((base :: marks) :: later)).map name = (base :: marks) :: later
      ∧ (ofClusters ((base :: marks) :: later)).filterMap change? = [] := by
  have hnames : ∀ cluster ∈ later, (name ∘ inner) cluster = id cluster :=
    fun cluster hcluster => (hlater cluster hcluster).1
  rw [ofClusters, leading_eq_kept hbase hmarks]
  constructor
  · rw [List.map_cons, List.map_map, List.map_congr_left hnames, List.map_id]
    rfl
  · rw [List.filterMap_eq_nil_iff, List.forall_mem_cons]
    refine ⟨rfl, fun piece hpiece => ?_⟩
    obtain ⟨cluster, hcluster, rfl⟩ := List.mem_map.1 hpiece
    exact (hlater cluster hcluster).2

end NamePiece

/-! ### Texts with the shape of a name -/

/-- A text that starts as an identifier does, goes on with dots and characters of identifiers, and
in which nothing binds a dot to its neighbours. -/
structure NameShaped (t : Text) : Prop where
  starts : ∃ c rest, t = c :: rest ∧ isNameStart c = true
  continues : ∀ c ∈ t, c = '.' ∨ isIdentifierContinue c = true
  dotsApart : DotsApart t

theorem NameShaped.ne_nil {t : Text} (h : NameShaped t) : t ≠ [] := by
  obtain ⟨c, rest, rfl, -⟩ := h.starts
  exact List.cons_ne_nil c rest

/-- **The clusters of such a text are dots and clusters of characters of identifiers.** -/
theorem NameShaped.of_mem_clusters {t cluster : Text} (h : NameShaped t)
    (hcluster : cluster ∈ clusters t) :
    cluster = ['.'] ∨ ∀ c ∈ cluster, isIdentifierContinue c = true := by
  refine (eq_dot_or_not_mem_of_mem_clusters h.dotsApart cluster hcluster).imp_right ?_
  intro hdot c hc
  have hmem : c ∈ t := by
    rw [← flatten_clusters t]
    exact List.mem_flatten.2 ⟨cluster, hcluster, hc⟩
  refine (h.continues c hmem).resolve_left ?_
  rintro rfl
  exact hdot hc

theorem NameShaped.ofClusters {t : Text} (h : NameShaped t) :
    (NamePiece.ofClusters (clusters t)).map NamePiece.name = clusters t
      ∧ (NamePiece.ofClusters (clusters t)).filterMap NamePiece.change? = [] := by
  obtain ⟨c, rest, ht, hc⟩ := h.starts
  have hflatten := flatten_clusters t
  have hstays : ∀ cluster ∈ clusters t,
      cluster ≠ [] ∧ (cluster = ['.'] ∨ ∀ d ∈ cluster, isIdentifierContinue d = true) :=
    fun cluster hcluster => ⟨ne_nil_of_mem_clusters hcluster, h.of_mem_clusters hcluster⟩
  rcases hclusters : clusters t with _ | ⟨_ | ⟨base, marks⟩, later⟩
  · rw [hclusters, ht] at hflatten
    cases hflatten
  · rw [hclusters] at hstays
    exact absurd rfl (hstays [] List.mem_cons_self).1
  · rw [hclusters] at hflatten hstays
    -- The first cluster begins with the first character of the text, which is no dot.
    obtain rfl : base = c := by
      rw [ht] at hflatten
      exact (List.cons.inj hflatten).1
    have hmarks : ∀ d ∈ marks, isIdentifierContinue d = true := by
      rcases (hstays _ List.mem_cons_self).2 with heq | hcontinue
      · rw [(List.cons.inj heq).2]
        intro d hd
        cases hd
      · exact (List.forall_mem_cons.1 hcontinue).2
    refine NamePiece.ofClusters_stays hc hmarks fun cluster hcluster => ?_
    obtain ⟨hne, hcharacters⟩ := hstays cluster (List.mem_cons_of_mem _ hcluster)
    exact NamePiece.inner_stays hne hcharacters

/-! ### Names of names -/

attribute [ext] CanonicalName

namespace CanonicalName

theorem name_ofTrimmed (label : Text) :
    (ofTrimmed label).name
      = ((NamePiece.ofClusters (clusters (normalize .nfc label))).map NamePiece.name).flatten :=
  List.flatMap_def

theorem forall₂_becomes_clusters (t : Text) :
    List.Forall₂ Becomes (clusters t) ((NamePiece.ofClusters (clusters t)).map NamePiece.name) :=
  forall₂_becomes fun _ hs => ne_nil_of_mem_clusters hs

/-- **A name is in NFC.** -/
theorem normalize_name (label : Text) :
    normalize .nfc (ofTrimmed label).name = (ofTrimmed label).name := by
  have hreplaced := (forall₂_becomes_clusters (normalize .nfc label)).imp fun _ _ h => h.eq_or
  rw [name_ofTrimmed]
  exact normalize_flatten_replaced (normalize_normalize label) hreplaced

theorem dotsApart_name (label : Text) : DotsApart (ofTrimmed label).name := by
  rw [name_ofTrimmed]
  exact dotsApart_flatten (forall₂_becomes_clusters _) (clusters_isChain _)

theorem nameShaped_name {label : Text} (h : label ≠ []) : NameShaped (ofTrimmed label).name where
  starts := (canonical_ofTrimmed h).starts
  continues := (canonical_ofTrimmed h).continues
  dotsApart := dotsApart_name label

/-- **A text in NFC that is shaped as a name is its own name**, and nothing is changed in it. -/
theorem unchanged_of_nameShaped {t : Text} (hnormal : normalize .nfc t = t) (h : NameShaped t) :
    (ofTrimmed t).name = t ∧ (ofTrimmed t).changes = [] := by
  obtain ⟨hnames, hchanges⟩ := h.ofClusters
  constructor
  · rw [name_ofTrimmed, hnormal, hnames, flatten_clusters]
  · show (if normalize .nfc t = t then [] else _)
      ++ (NamePiece.ofClusters (clusters (normalize .nfc t))).filterMap NamePiece.change? = []
    rw [if_pos hnormal, hnormal, hchanges]
    rfl

theorem ofTrimmed_name {label : Text} (h : label ≠ []) :
    ofTrimmed (ofTrimmed label).name
      = { name := (ofTrimmed label).name
          identifier := (ofTrimmed label).identifier
          changes := [] } := by
  have hshape := nameShaped_name h
  obtain ⟨hsame, hnone⟩ := unchanged_of_nameShaped (normalize_name label) hshape
  have hidentifier :
      (ofTrimmed (ofTrimmed label).name).identifier = (ofTrimmed label).identifier := by
    rw [(canonical_ofTrimmed hshape.ne_nil).identifier, hsame, (canonical_ofTrimmed h).identifier]
  exact CanonicalName.ext hsame hidentifier hnone

theorem trim_name {n : CanonicalName} (h : Canonical n) : Text.trim n.name = n.name :=
  Text.strip_eq_self fun c hc => isBlank_eq_false (h.continues c hc)

/-- **A name that was derived from a label is its own name**, with the same identifier and without
changes. -/
theorem ofLabel?_name {label : Text} {n : CanonicalName} (h : ofLabel? label = some n) :
    ofLabel? n.name = some { name := n.name, identifier := n.identifier, changes := [] } := by
  have hcanonical := canonical_of_ofLabel? h
  obtain ⟨hne, rfl⟩ := ofLabel?_eq_some_iff.1 h
  obtain ⟨c, rest, hname, -⟩ := hcanonical.starts
  refine ofLabel?_eq_some_iff.2 ⟨?_, ?_⟩
  · rw [trim_name hcanonical, hname]
    exact List.cons_ne_nil c rest
  · rw [trim_name hcanonical, ofTrimmed_name hne]

/-- A label with a bell, whose mark passes to the underscore, with an accent to compose, and with a
dot and a blank. -/
def bellLabel : Text := " \u0007\u0903Cafe\u0301.Bar Open"

def bellName : CanonicalName where
  name := "_\u0903Caf\u00E9.Bar_Open"
  identifier := "_\u0903Caf\u00E9_Bar_Open"
  changes :=
    [.respelled "\u0007\u0903Cafe\u0301.Bar Open" "\u0007\u0903Caf\u00E9.Bar Open",
      .replaced "\u0007" true, .replaced " " false]

theorem ofLabel?_name_bell :
    ofLabel? bellLabel = some bellName
      ∧ ofLabel? bellName.name
        = some { name := bellName.name, identifier := bellName.identifier, changes := [] } := by
  have hname : ofLabel? bellLabel = some bellName := by rfl
  exact ⟨hname, ofLabel?_name hname⟩

end CanonicalName

end LogCatalog
