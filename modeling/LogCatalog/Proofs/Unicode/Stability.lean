import LogCatalog.Proofs.Unicode.CanonicalOrder
import LogCatalog.Proofs.Unicode.Parts
import Mathlib.Data.List.Infix

/-!
# Stability of composed text

Composition joins marks to starters but changes no parts, so decomposing what was composed leads
back to where composition began.  From this one equation it follows that NFC stays as it is, and
also where a text in NFC may be cut: a join across the cut would leave a text whose parts cannot be
shared out between the two sides.

* `decompose_composed`: composition keeps the parts.
* `normalize_normalize`: NFC is stable.
* `normalize_append_inert`: an inert character separates what stands on its two sides.
* `normalize_of_append_starter`: the two sides of a starter in a stable text are stable.
-/

namespace LogCatalog.Unicode

/-! ### Parts of texts -/

def partsOf (t : Text) : Text := t.flatMap (decomposition false)

def Plain (t : Text) : Prop := ∀ c ∈ t, decomposition false c = [c]

theorem partsOf_cons (c : Char) (t : Text) : partsOf (c :: t) = decomposition false c ++ partsOf t :=
  List.flatMap_cons

theorem partsOf_append (s t : Text) : partsOf (s ++ t) = partsOf s ++ partsOf t :=
  List.flatMap_append

theorem partsOf_of_plain {t : Text} (h : Plain t) : partsOf t = t := by
  induction t with
  | nil => rfl
  | cons c rest ih =>
    rw [partsOf_cons, h c List.mem_cons_self, ih fun d hd => h d (List.mem_cons_of_mem c hd)]
    rfl

theorem plain_partsOf (t : Text) : Plain (partsOf t) := by
  intro c hc
  obtain ⟨d, -, hcd⟩ := List.mem_flatMap.1 hc
  exact decomposition_of_mem hcd

theorem plain_decompose (t : Text) : Plain (decompose false t) := by
  intro c hc
  exact plain_partsOf t c ((reorder_perm _).mem_iff.1 hc)

theorem normalize_nfc (t : Text) : normalize .nfc t = composed (decompose false t) := rfl

theorem decompose_eq (t : Text) : decompose false t = reorder (partsOf t) := rfl

def partCount (t : Text) : Nat := (partsOf t).length

theorem partCount_append (s t : Text) : partCount (s ++ t) = partCount s + partCount t := by
  rw [partCount, partsOf_append, List.length_append]
  rfl

theorem partCount_singleton (c : Char) : partCount [c] = (decomposition false c).length := by
  rw [partCount, partsOf_cons, List.length_append]
  rfl

theorem eq_nil_of_partCount {t : Text} (h : partCount t = 0) : t = [] := by
  cases t with
  | nil => rfl
  | cons c rest =>
    rw [partCount, List.length_eq_zero_iff, partsOf_cons, List.append_eq_nil_iff] at h
    exact absurd h.1 (decomposition_ne_nil c)

theorem partCount_le_of_prefix {s t : Text} (h : s <+: t) : partCount s ≤ partCount t := by
  obtain ⟨more, rfl⟩ := h
  rw [partCount_append]
  omega

/-- Two beginnings of a text with equally many parts are the same. -/
theorem eq_of_prefix_of_partCount {s s' t : Text} (h : s <+: t) (h' : s' <+: t)
    (hcount : partCount s = partCount s') : s = s' := by
  have key : ∀ {a b : Text}, a <+: b → partCount a = partCount b → a = b := by
    rintro a _ ⟨more, rfl⟩ heq
    rw [partCount_append] at heq
    rw [eq_nil_of_partCount (by omega : partCount more = 0), List.append_nil]
  rcases List.prefix_or_prefix_of_prefix h h' with hle | hle
  · exact key hle hcount
  · exact (key hle hcount.symm).symm

/-! ### Steps of composition -/

/-- What composition does with the next character: it joins it to the starter, begins anew with it,
or holds it back.  Which of these it does is independent of what follows. -/
theorem composeAfter_step (starter : Char) (held : Text) (c : Char) :
    (∃ joined, compose? starter c = some joined
        ∧ (∀ d ∈ held, combiningClass d < combiningClass c)
        ∧ ∀ rest, composeAfter starter held (c :: rest) = composeAfter joined held rest)
      ∨ (isStarter c = true ∧ ∀ rest,
        composeAfter starter held (c :: rest)
          = starter :: (held.reverse ++ composeAfter c [] rest))
      ∨ (isStarter c = false ∧ ∀ rest,
        composeAfter starter held (c :: rest) = composeAfter starter (c :: held) rest) := by
  by_cases hfree : held.all (combiningClass · < combiningClass c) = true
  · cases hj : compose? starter c with
    | some joined =>
      refine .inl ⟨joined, rfl, fun d hd => by simpa using List.all_eq_true.1 hfree d hd, ?_⟩
      intro rest
      simp only [composeAfter, hfree, if_true, hj]
    | none =>
      cases hc : isStarter c with
      | true => exact .inr (.inl ⟨rfl, fun rest => by simp [composeAfter, hfree, hj, hc]⟩)
      | false => exact .inr (.inr ⟨rfl, fun rest => by simp [composeAfter, hfree, hj, hc]⟩)
  · cases hc : isStarter c with
    | true => exact .inr (.inl ⟨rfl, fun rest => by simp [composeAfter, hfree, hc]⟩)
    | false => exact .inr (.inr ⟨rfl, fun rest => by simp [composeAfter, hfree, hc]⟩)

theorem combiningClass_ne_zero {c : Char} (h : isStarter c = false) : combiningClass c ≠ 0 := by
  simpa [isStarter] using h

/-- **Composition keeps the parts.**  A mark that joins the starter moves in front of the marks held
back, which are all of lower classes. -/
theorem reorder_partsOf_composeAfter {starter : Char} {held t : Text} (hplain : Plain held)
    (hmarks : ∀ d ∈ held, isStarter d = false) (ht : Plain t) :
    reorder (partsOf (composeAfter starter held t))
      = reorder (decomposition false starter ++ (held.reverse ++ t)) := by
  induction t generalizing starter held with
  | nil =>
    have hback : Plain held.reverse := fun d hd => hplain d (List.mem_reverse.1 hd)
    rw [composeAfter, partsOf_cons, partsOf_of_plain hback, List.append_nil]
  | cons c rest ih =>
    have hc : decomposition false c = [c] := ht c List.mem_cons_self
    have hrest : Plain rest := fun d hd => ht d (List.mem_cons_of_mem c hd)
    rcases composeAfter_step starter held c with ⟨joined, hj, hlower, hstep⟩ | ⟨-, hstep⟩
      | ⟨hmark, hstep⟩
    -- The mark joins the starter: those held back are of lower classes, and it may pass them.
    · have hmove : ∀ d ∈ held.reverse,
          combiningClass d ≠ 0 ∧ combiningClass d < combiningClass c := by
        intro d hd
        rw [List.mem_reverse] at hd
        exact ⟨combiningClass_ne_zero (hmarks d hd), hlower d hd⟩
      rw [hstep, ih hplain hmarks hrest, decomposition_compose? hj, List.append_assoc]
      exact reorder_append_congr _ (reorder_mark_append hmove rest)
    · have hback : Plain held.reverse := fun d hd => hplain d (List.mem_reverse.1 hd)
      rw [hstep, partsOf_cons, partsOf_append, partsOf_of_plain hback]
      refine reorder_append_congr _ (reorder_append_congr _ ?_)
      rw [ih (fun d hd => by cases hd) (fun d hd => by cases hd) hrest, hc]
      rfl
    · have hheld : Plain (c :: held) := by
        intro d hd
        rcases List.mem_cons.1 hd with rfl | hd
        · exact hc
        · exact hplain d hd
      have hmarks' : ∀ d ∈ c :: held, isStarter d = false := by
        intro d hd
        rcases List.mem_cons.1 hd with rfl | hd
        · exact hmark
        · exact hmarks d hd
      rw [hstep, ih hheld hmarks' hrest, List.reverse_cons, List.append_assoc]
      rfl

theorem decompose_composed {t : Text} (ht : Plain t) : decompose false (composed t) = reorder t := by
  rw [decompose_eq]
  induction t with
  | nil => rfl
  | cons c rest ih =>
    have hc : decomposition false c = [c] := ht c List.mem_cons_self
    have hrest : Plain rest := fun d hd => ht d (List.mem_cons_of_mem c hd)
    rw [composed]
    split
    · rw [reorder_partsOf_composeAfter (fun d hd => by cases hd) (fun d hd => by cases hd) hrest,
        hc]
      rfl
    · rw [partsOf_cons, hc, List.singleton_append, reorder, ih hrest, reorder]

/-- **What is decomposed, composed and decomposed again is as it was after the first time.** -/
theorem decompose_normalize (t : Text) :
    decompose false (normalize .nfc t) = decompose false t := by
  rw [normalize_nfc, decompose_composed (plain_decompose t), decompose_eq, reorder_reorder]

/-- **NFC is stable.** -/
theorem normalize_normalize (t : Text) : normalize .nfc (normalize .nfc t) = normalize .nfc t := by
  rw [normalize_nfc (normalize .nfc t), decompose_normalize, ← normalize_nfc]

theorem partCount_normalize (t : Text) : partCount (normalize .nfc t) = partCount t := by
  have h := congrArg List.length (decompose_normalize t)
  rwa [decompose_eq, decompose_eq, length_reorder, length_reorder] at h

/-! ### The state of composition -/

/-- Composition of a text in front of another one ends in a state, from which it goes on. -/
theorem composeAfter_append (starter : Char) (held s : Text) :
    ∃ done starter' held', ∀ t,
      composeAfter starter held (s ++ t) = done ++ composeAfter starter' held' t := by
  induction s generalizing starter held with
  | nil => exact ⟨[], starter, held, fun t => rfl⟩
  | cons c rest ih =>
    rcases composeAfter_step starter held c with ⟨joined, -, -, hstep⟩ | ⟨-, hstep⟩ | ⟨-, hstep⟩
    · obtain ⟨done, starter', held', hrest⟩ := ih joined held
      exact ⟨done, starter', held', fun t => by rw [List.cons_append, hstep, hrest]⟩
    · obtain ⟨done, starter', held', hrest⟩ := ih c []
      refine ⟨starter :: (held.reverse ++ done), starter', held', fun t => ?_⟩
      rw [List.cons_append, hstep, hrest, List.cons_append, List.append_assoc]
    · obtain ⟨done, starter', held', hrest⟩ := ih starter (c :: held)
      exact ⟨done, starter', held', fun t => by rw [List.cons_append, hstep, hrest]⟩

/-- Composition has met no starter yet, or it is in a state. -/
theorem composed_append (s : Text) :
    (∀ t, composed (s ++ t) = s ++ composed t)
      ∨ ∃ done starter held, ∀ t, composed (s ++ t) = done ++ composeAfter starter held t := by
  induction s with
  | nil => exact .inl fun t => rfl
  | cons c rest ih =>
    cases hc : isStarter c with
    | true =>
      obtain ⟨done, starter, held, hrest⟩ := composeAfter_append c [] rest
      exact .inr ⟨done, starter, held, fun t => by
        rw [List.cons_append, composed, if_pos hc, hrest]⟩
    | false =>
      have hnot : ¬ isStarter c = true := by simp [hc]
      rcases ih with hrest | ⟨done, starter, held, hrest⟩
      · exact .inl fun t => by rw [List.cons_append, composed, if_neg hnot, hrest, List.cons_append]
      · exact .inr ⟨c :: done, starter, held, fun t => by
          rw [List.cons_append, composed, if_neg hnot, hrest, List.cons_append]⟩

/-! ### Inert characters -/

theorem composeAfter_inert {c : Char} (hc : Inert c) (held t : Text) :
    composeAfter c held t = c :: (held.reverse ++ composed t) := by
  induction t generalizing held with
  | nil => rw [composeAfter, composed, List.append_nil]
  | cons d rest ih =>
    rcases composeAfter_step c held d with ⟨joined, hj, -⟩ | ⟨hd, hstep⟩ | ⟨hd, hstep⟩
    · rw [hc.compose?_left d] at hj
      cases hj
    · rw [hstep, composed, if_pos hd]
    · have hnot : ¬ isStarter d = true := by simp [hd]
      rw [hstep, ih, composed, if_neg hnot, List.reverse_cons, List.append_assoc]
      rfl

theorem composed_append_inert {c : Char} (hc : Inert c) (s t : Text) :
    composed (s ++ c :: t) = composed s ++ c :: composed t := by
  have hstart : composed (c :: t) = c :: composed t := by
    rw [composed, if_pos hc.isStarter, composeAfter_inert hc]
    rfl
  rcases composed_append s with happend | ⟨done, starter, held, happend⟩
  · have hs := happend []
    rw [List.append_nil, composed, List.append_nil] at hs
    rw [happend, hstart, hs]
  · have hs := happend []
    rw [List.append_nil, composeAfter] at hs
    rcases composeAfter_step starter held c with ⟨joined, hj, -⟩ | ⟨-, hstep⟩ | ⟨hmark, -⟩
    · rw [hc.compose?_right starter] at hj
      cases hj
    · rw [happend, hstep, hs, composeAfter_inert hc, List.append_assoc]
      rfl
    · rw [hc.isStarter] at hmark
      cases hmark

/-- **An inert character separates what stands on its two sides.** -/
theorem normalize_append_inert {c : Char} (hc : Inert c) (s t : Text) :
    normalize .nfc (s ++ c :: t) = normalize .nfc s ++ c :: normalize .nfc t := by
  have hparts : decompose false (s ++ c :: t) = decompose false s ++ c :: decompose false t := by
    rw [decompose_eq, partsOf_append, partsOf_cons, hc.decomposition, List.singleton_append,
      reorder_append_starter hc.isStarter]
    rfl
  rw [normalize_nfc, hparts, composed_append_inert hc]
  rfl

/-! ### Cutting at a starter -/

/-- The parts of a composed text begin where its characters begin: a starter has a starter as its
first part. -/
def LeadsWithStarter (c : Char) : Prop :=
  isStarter c = true → ∃ d rest, decomposition false c = d :: rest ∧ isStarter d = true

theorem leadsWithStarter_of_plain {c : Char} (h : decomposition false c = [c]) :
    LeadsWithStarter c := fun hc => ⟨c, [], h, hc⟩

theorem leadsWithStarter_of_mem_composeAfter {starter : Char} {held t : Text}
    (hstarter : isStarter starter = true) (hleads : LeadsWithStarter starter) (hheld : Plain held)
    (ht : Plain t) : ∀ c ∈ composeAfter starter held t, LeadsWithStarter c := by
  induction t generalizing starter held with
  | nil =>
    intro c hc
    rw [composeAfter] at hc
    rcases List.mem_cons.1 hc with rfl | hc
    · exact hleads
    · exact leadsWithStarter_of_plain (hheld c (List.mem_reverse.1 hc))
  | cons d rest ih =>
    have hd : decomposition false d = [d] := ht d List.mem_cons_self
    have hrest : Plain rest := fun e he => ht e (List.mem_cons_of_mem d he)
    intro c hc
    rcases composeAfter_step starter held d with ⟨joined, hj, -, hstep⟩ | ⟨hstart, hstep⟩
      | ⟨-, hstep⟩
    · rw [hstep] at hc
      refine ih (isStarter_compose? hj) (fun _ => ?_) hheld hrest c hc
      obtain ⟨first, more, hparts, hfirst⟩ := hleads hstarter
      exact ⟨first, more ++ [d], by rw [decomposition_compose? hj, hparts]; rfl, hfirst⟩
    · rw [hstep] at hc
      rcases List.mem_cons.1 hc with rfl | hc
      · exact hleads
      rcases List.mem_append.1 hc with hc | hc
      · exact leadsWithStarter_of_plain (hheld c (List.mem_reverse.1 hc))
      · exact ih hstart (leadsWithStarter_of_plain hd) (fun e he => by cases he) hrest c hc
    · rw [hstep] at hc
      refine ih hstarter hleads (fun e he => ?_) hrest c hc
      rcases List.mem_cons.1 he with rfl | he
      · exact hd
      · exact hheld e he

theorem leadsWithStarter_of_mem_composed {t : Text} (ht : Plain t) :
    ∀ c ∈ composed t, LeadsWithStarter c := by
  induction t with
  | nil => intro c hc; cases hc
  | cons d rest ih =>
    have hd : decomposition false d = [d] := ht d List.mem_cons_self
    have hrest : Plain rest := fun e he => ht e (List.mem_cons_of_mem d he)
    intro c hc
    rw [composed] at hc
    split at hc
    · next hstart =>
      exact leadsWithStarter_of_mem_composeAfter hstart (leadsWithStarter_of_plain hd)
        (fun e he => by cases he) hrest c hc
    · rcases List.mem_cons.1 hc with rfl | hc
      · exact leadsWithStarter_of_plain hd
      · exact ih hrest c hc

theorem leadsWithStarter_of_mem_normalize {t : Text} {c : Char} (h : c ∈ normalize .nfc t) :
    LeadsWithStarter c :=
  leadsWithStarter_of_mem_composed (plain_decompose t) c h

theorem head_composeAfter (starter : Char) (held t : Text) :
    ∃ c rest, composeAfter starter held t = c :: rest
      ∧ (decomposition false starter).length ≤ (decomposition false c).length := by
  induction t generalizing starter held with
  | nil => exact ⟨starter, held.reverse, rfl, le_rfl⟩
  | cons d rest ih =>
    rcases composeAfter_step starter held d with ⟨joined, hj, -, hstep⟩ | ⟨-, hstep⟩ | ⟨-, hstep⟩
    · obtain ⟨c, more, heq, hle⟩ := ih joined held
      refine ⟨c, more, (hstep rest).trans heq, ?_⟩
      rw [decomposition_compose? hj, List.length_append] at hle
      omega
    · exact ⟨starter, _, hstep rest, le_rfl⟩
    · obtain ⟨c, more, heq, hle⟩ := ih starter (d :: held)
      exact ⟨c, more, (hstep rest).trans heq, hle⟩

/-- Composition parts at a starter, unless the starter joins the character before it. -/
theorem composed_append_starter {b : Char} (hb : isStarter b = true) (s t : Text) :
    composed (s ++ b :: t) = composed s ++ composed (b :: t)
      ∨ ∃ done last c rest, composed s = done ++ [last]
        ∧ composed (s ++ b :: t) = done ++ c :: rest
        ∧ (decomposition false last).length < (decomposition false c).length := by
  have hstart : composed (b :: t) = composeAfter b [] t := by rw [composed, if_pos hb]
  rcases composed_append s with happend | ⟨done, starter, held, happend⟩
  · have hs := happend []
    rw [List.append_nil, composed, List.append_nil] at hs
    exact .inl (by rw [happend, hs])
  have hs := happend []
  rw [List.append_nil, composeAfter] at hs
  rcases composeAfter_step starter held b with ⟨joined, hj, hlower, hstep⟩ | ⟨-, hstep⟩
    | ⟨hmark, -⟩
  -- A starter joins the one before it only if no mark stands between the two.
  · have hheld : held = [] := by
      have hclass : combiningClass b = 0 := by simpa [isStarter] using hb
      refine List.eq_nil_iff_forall_not_mem.2 fun d hd => ?_
      have := hlower d hd
      omega
    obtain ⟨c, rest, heq, hle⟩ := head_composeAfter joined held t
    refine .inr ⟨done, starter, c, rest, ?_, ?_, ?_⟩
    · rw [hs, hheld]
      rfl
    · rw [happend, hstep, heq]
    · rw [decomposition_compose? hj, List.length_append, List.length_singleton] at hle
      omega
  · exact .inl (by rw [happend, hstep, hs, hstart, List.append_assoc]; rfl)
  · rw [hb] at hmark
    cases hmark

/-- **The two sides of a starter in a stable text are stable.**  If composition joined the starter
to what comes before it, one character would have parts from both sides of the cut, and the parts in
front of the cut could not be counted. -/
theorem normalize_of_append_starter {b : Char} {s t : Text} (hb : isStarter b = true)
    (h : normalize .nfc (s ++ b :: t) = s ++ b :: t) :
    normalize .nfc s = s ∧ normalize .nfc (b :: t) = b :: t := by
  have hmem : b ∈ normalize .nfc (s ++ b :: t) := by rw [h]; simp
  obtain ⟨first, more, hparts, hfirst⟩ := leadsWithStarter_of_mem_normalize hmem hb
  have hfront : decompose false (b :: t) = first :: reorder (more ++ partsOf t) := by
    rw [decompose_eq, partsOf_cons, hparts, List.cons_append, reorder,
      insertMark_of_starter hfirst]
  have hwhole : decompose false (s ++ b :: t) = decompose false s ++ decompose false (b :: t) := by
    rw [hfront, decompose_eq, partsOf_append, partsOf_cons, hparts, List.cons_append,
      reorder_append_starter hfirst]
    rfl
  have hprefix : s <+: s ++ b :: t := ⟨_, rfl⟩
  have hcount := partCount_normalize s
  have hcomposed : composed (decompose false s ++ decompose false (b :: t)) = s ++ b :: t := by
    rw [← hwhole, ← normalize_nfc, h]
  rw [hfront] at hcomposed
  rcases composed_append_starter hfirst (decompose false s) (reorder (more ++ partsOf t)) with
    happend | ⟨done, last, c, rest, hdone, hall, hlt⟩
  · -- Nothing is joined across the cut.
    rw [happend, ← hfront, ← normalize_nfc, ← normalize_nfc] at hcomposed
    have hs : normalize .nfc s = s :=
      eq_of_prefix_of_partCount ⟨_, hcomposed⟩ hprefix hcount
    rw [hs] at hcomposed
    exact ⟨hs, List.append_cancel_left hcomposed⟩
  · -- A character `c` would straddle the cut: it has more parts than `last`, and `done` has fewer
    -- parts than `s`.
    exfalso
    rw [← normalize_nfc] at hdone
    have hdone' : done ++ [c] <+: s ++ b :: t := ⟨rest, by rw [← hcomposed, hall]; simp⟩
    have hlast : 0 < (decomposition false last).length :=
      List.length_pos_iff.2 (decomposition_ne_nil last)
    rw [hdone, partCount_append, partCount_singleton] at hcount
    rcases List.prefix_or_prefix_of_prefix hdone' hprefix with hle | hle
    · have hcounts := partCount_le_of_prefix hle
      rw [partCount_append, partCount_singleton] at hcounts
      omega
    · rcases List.prefix_concat_iff.1 hle with heq | hle
      · rw [heq, partCount_append, partCount_singleton] at hcount
        omega
      · have hcounts := partCount_le_of_prefix hle
        omega

end LogCatalog.Unicode
