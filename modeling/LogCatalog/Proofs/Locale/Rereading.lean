import LogCatalog.Proofs.Locale.Configured
import LogCatalog.Proofs.Locale.Tags
import LogCatalog.Proofs.Text.Trimming
import Mathlib.Algebra.GroupWithZero.Nat
import Mathlib.Data.List.Nodup

/-!
# Reading the tag of a locale

Every part of a locale is spelled in such a way that it reads as itself.  But its variants are put
in order, and the order may bring a variant to a place where it is taken for something else: a
variant of four letters behind the language is a script, and blanks that end the last variant end
the tag.  Nothing else goes wrong.

* `length_tag_le`: the tag of a locale is not longer than a tag that names it.
* `Rereadable`, `ofTag_trim_tag_iff`: which locales are read back from their tags.
* `Locales.ofTags_tags_iff`: which lists of locales are.
-/

namespace LogCatalog

namespace Locale

variable {l : Locale}

/-! ### The pieces of a tag -/

theorem splitOnP_intercalate {pieces : List Text} (hne : pieces ≠ [])
    (h : ∀ s ∈ pieces, Undivided s) :
    (['-'].intercalate pieces).splitOnP isTagSeparator = pieces := by
  induction pieces with
  | nil => exact absurd rfl hne
  | cons first rest ih =>
    obtain ⟨hfirst, hrest⟩ := List.forall_mem_cons.1 h
    cases rest with
    | nil =>
      rw [List.intercalate_singleton]
      exact List.splitOnP_eq_singleton hfirst
    | cons second more =>
      rw [List.intercalate_cons_cons, List.append_assoc, List.singleton_append,
        List.splitOnP_append_cons_of_forall_mem hfirst '-' rfl, ih (List.cons_ne_nil _ _) hrest]

theorem Written.splitOnP_tag (h : l.Written) : l.tag.splitOnP isTagSeparator = l.subtags :=
  splitOnP_intercalate (List.cons_ne_nil _ _) h.undivided

/-- How many characters subtags take up, each with a separator behind it. -/
def width (subtags : List Text) : Nat := (subtags.map fun s => s.length + 1).sum

theorem width_cons (s : Text) (subtags : List Text) :
    width (s :: subtags) = s.length + 1 + width subtags := List.sum_cons

theorem width_append (subtags more : List Text) :
    width (subtags ++ more) = width subtags + width more := by
  rw [width, List.map_append, List.sum_append, width, width]

theorem width_splitOnP (separates : Char → Bool) (t : Text) :
    width (t.splitOnP separates) = t.length + 1 := by
  induction t with
  | nil => rfl
  | cons c rest ih =>
    rw [List.splitOnP_cons_eq_if_modifyHead, List.length_cons]
    split
    · rw [width_cons, ih, List.length_nil]
      omega
    · obtain ⟨first, more, hpieces⟩ :=
        List.exists_cons_of_ne_nil (List.splitOnP_ne_nil separates rest)
      rw [hpieces, width_cons] at ih
      rw [hpieces, List.modifyHead_cons, width_cons, List.length_cons]
      omega

theorem width_insertVariant_le (v : Text) (variants : List Text) :
    width (insertVariant v variants) ≤ v.length + 1 + width variants := by
  induction variants with
  | nil => exact Nat.le_refl _
  | cons w rest ih =>
    rw [insertVariant]
    split
    · exact Nat.le_add_left _ _
    · split
      · exact Nat.le_refl _
      · rw [width_cons, width_cons]
        omega

theorem width_foldr_insertVariant_le (variants : List Text) :
    width (variants.foldr insertVariant []) ≤ width variants := by
  induction variants with
  | nil => exact Nat.le_refl _
  | cons v rest ih =>
    have hinsert := width_insertVariant_le v (rest.foldr insertVariant [])
    rw [List.foldr_cons, width_cons]
    omega

/-- Subtags that keep their letters take up as many characters as before. -/
theorem Reads.width_eq {read : Text → Option Text} {subtags spelled : List Text}
    (hread : ∀ {s t}, read s = some t → t.map Char.toLower = s.map Char.toLower)
    (h : Reads read subtags spelled) : width spelled = width subtags := by
  induction h with
  | nil => rfl
  | cons hst _ ih =>
    rw [width_cons, width_cons, ih, length_eq_of_map_toLower (hread hst)]

theorem ReadFrom.width_le {pieces : List Text} (h : l.ReadFrom pieces) :
    width l.subtags ≤ width pieces := by
  cases h with
  | @intro first scripts regions variants spelled language script region variants_read
      variants_eq =>
    have hfirst := length_eq_of_map_toLower (map_toLower_of_language? language)
    have hscript := script.width_eq map_toLower_of_script?
    have hregion := region.width_eq map_toLower_of_region?
    have hvariants := variants_read.width_eq map_toLower_of_variant?
    have hsorted := width_foldr_insertVariant_le spelled
    rw [subtags, variants_eq, width_cons, width_cons, width_append, width_append, width_append,
      width_append]
    omega

/-- **The tag of a locale is not longer than a tag that names it.** -/
theorem length_tag_le {tag : Text} (h : ofTag tag = .ok l) : l.tag.length ≤ tag.length := by
  have hwidth := (readFrom_of_ofTag h).width_le
  rw [← (written_of_ofTag h).splitOnP_tag, width_splitOnP, width_splitOnP] at hwidth
  omega

/-! ### Reading the pieces again -/

theorem Written.readVariants_self (h : l.Written) :
    readVariants l.language l.script l.region l.variants = some l := by
  rw [readVariants, mapM_eq_some_iff.2 (List.forall₂_same.2 h.variants), Option.map_some,
    foldr_insertVariant_self h.increasing]

theorem Written.readRegion_self (h : l.Written) :
    readRegion l.language l.script (l.region.toList ++ l.variants) = some l := by
  have hself := h.readVariants_self
  cases hregion : l.region with
  | some r =>
    rw [hregion] at hself
    rw [Option.toList_some, List.singleton_append, readRegion, h.region r hregion]
    exact hself
  | none =>
    rw [hregion] at hself
    rw [Option.toList_none, List.nil_append]
    cases hvariants : l.variants with
    | nil =>
      rw [hvariants] at hself
      exact hself
    | cons v rest =>
      have hv : v ∈ l.variants := hvariants ▸ List.mem_cons_self ..
      rw [hvariants] at hself
      rw [readRegion, region?_of_variant? (h.variants v hv)]
      exact hself

/-- The parts of a locale are read back, if its first variant is not taken for a script. -/
theorem Written.readScript_self (h : l.Written)
    (hfirst : l.script = none → l.region = none → ∀ v ∈ l.variants.head?, script? v = none) :
    readScript l.language (l.script.toList ++ l.region.toList ++ l.variants) = some l := by
  have hself := h.readRegion_self
  rw [List.append_assoc]
  cases hscript : l.script with
  | some s =>
    rw [hscript] at hself
    rw [Option.toList_some, List.singleton_append, readScript, h.script s hscript]
    exact hself
  | none =>
    rw [hscript] at hself
    rw [Option.toList_none, List.nil_append]
    cases hregion : l.region with
    | some r =>
      rw [hregion] at hself
      rw [Option.toList_some, List.singleton_append, readScript,
        script?_of_region? (h.region r hregion)]
      exact hself
    | none =>
      rw [hregion] at hself
      rw [Option.toList_none, List.nil_append] at hself ⊢
      -- Only here a variant stands behind the language, where a script might stand.
      cases hvariants : l.variants with
      | nil =>
        rw [hvariants] at hself
        exact hself
      | cons v rest =>
        rw [hvariants] at hself hfirst
        rw [readScript, hfirst hscript hregion v rfl]
        exact hself

theorem script_eq_of_readVariants {language : Text} {script region : Option Text}
    {subtags : List Text} (h : readVariants language script region subtags = some l) :
    l.script = script := by
  rw [readVariants] at h
  obtain ⟨variants, -, rfl⟩ := Option.map_eq_some_iff.1 h
  rfl

theorem script_eq_of_readRegion {language : Text} {script : Option Text} {subtags : List Text}
    (h : readRegion language script subtags = some l) : l.script = script := by
  cases subtags with
  | nil => exact script_eq_of_readVariants h
  | cons s rest =>
    rw [readRegion] at h
    split at h
    · exact script_eq_of_readVariants h
    · exact script_eq_of_readVariants h

/-! ### Locales that are read back -/

/-- Nothing in the tag of a locale is taken for something else: no first variant for a script, and
no blank for the end of the tag. -/
structure Rereadable (l : Locale) : Prop where
  noScript : l.script = none → l.region = none →
    ∀ v ∈ l.variants.head?, ¬ (v.length = 4 ∧ v.all Char.isAlpha = true)
  noBlank : ∀ c ∈ l.tag.getLast?, Text.isBlank c = false

theorem isBlank_of_isAlpha {c : Char} (h : c.isAlpha = true) : Text.isBlank c = false := by
  rw [isAlpha_iff] at h
  simp only [Text.isBlank, Bool.or_eq_false_iff, Bool.and_eq_false_iff, decide_eq_false_iff_not,
    beq_eq_false_iff_ne]
  omega

theorem Written.isBlank_of_head? (h : l.Written) : ∀ c ∈ l.tag.head?, Text.isBlank c = false := by
  obtain ⟨hall, hlength, -⟩ := language?_eq_some_iff.1 h.language
  cases hlanguage : l.language with
  | nil =>
    rw [hlanguage] at hlength
    simp at hlength
  | cons d rest =>
    have hhead : l.tag.head? = some d := by
      rw [tag, subtags, hlanguage]
      cases l.script.toList ++ l.region.toList ++ l.variants with
      | nil => rfl
      | cons s more => rw [List.intercalate_cons_cons]; rfl
    intro c hc
    obtain rfl : d = c := Option.some.inj (hhead.symm.trans hc)
    rw [hlanguage] at hall
    exact isBlank_of_isAlpha (List.all_eq_true.1 hall d (List.mem_cons_self ..))

theorem Written.trim_tag (h : l.Written) (hlast : ∀ c ∈ l.tag.getLast?, Text.isBlank c = false) :
    Text.trim l.tag = l.tag :=
  Text.strip_eq_self_of_ends h.isBlank_of_head? hlast

theorem Written.ofTag_eq_ok_iff (h : l.Written) {m : Locale} :
    ofTag l.tag = .ok m
      ↔ readScript l.language (l.script.toList ++ l.region.toList ++ l.variants) = some m := by
  rw [Locale.ofTag_eq_ok_iff, h.splitOnP_tag, subtags]
  constructor
  · rintro ⟨first, rest, language, hsplit, hlanguage, hm⟩
    obtain ⟨rfl, rfl⟩ := List.cons.inj hsplit
    rw [h.language] at hlanguage
    obtain rfl := Option.some.inj hlanguage
    exact hm
  · intro hm
    exact ⟨_, _, _, rfl, h.language, hm⟩

/-- **Which locales are read back from their tags.** -/
theorem ofTag_trim_tag_iff (h : l.Written) :
    ofTag (Text.trim l.tag) = .ok l ↔ l.Rereadable := by
  constructor
  · intro hread
    -- Reading makes a tag no longer, so nothing was trimmed.
    have htrim : Text.trim l.tag = l.tag := Text.strip_eq_self_of_length_le (length_tag_le hread)
    refine ⟨fun hscript hregion v hv hfour => ?_, fun c hc => ?_⟩
    · rw [htrim, h.ofTag_eq_ok_iff, hscript, hregion] at hread
      cases hvariants : l.variants with
      | nil =>
        rw [hvariants] at hv
        cases hv
      | cons w rest =>
        rw [hvariants] at hv hread
        obtain rfl : w = v := Option.some.inj hv
        cases hw : script? w with
        | none => exact script?_eq_none_iff.1 hw hfour
        | some s =>
          rw [Option.toList_none, List.nil_append, List.nil_append, readScript, hw] at hread
          have hsome := script_eq_of_readRegion hread
          rw [hscript] at hsome
          cases hsome
    · rw [← htrim] at hc
      exact Text.getLast?_strip hc
  · intro hl
    rw [h.trim_tag hl.noBlank, h.ofTag_eq_ok_iff]
    exact h.readScript_self fun hscript hregion v hv =>
      script?_eq_none_iff.2 (hl.noScript hscript hregion v hv)

/-- A blank within a tag may come to its end. -/
example : (ofTag "en-1ab -0abc").map tag = .ok "en-0abc-1ab "
    ∧ ofTag (Text.trim "en-0abc-1ab ") = .error .subtag := ⟨by rfl, by rfl⟩

end Locale

namespace Locales

/-- **The tags of configured locales tell them apart, and name them again exactly if every locale
is read back from its tag.** -/
theorem ofTags_tags_iff {tags : List Text} {ls : Locales} (h : ofTags tags = .ok ls) :
    (ofTags ls.tags = .ok ls ↔ ∀ l ∈ ls.toList, l.Rereadable) ∧ ls.tags.Nodup := by
  have hwritten : ∀ l ∈ ls.toList, l.Written := by
    intro l hl
    obtain ⟨cell, -, -, hcell⟩ := exists_names_of_mem h hl
    exact Locale.written_of_ofTag hcell
  constructor
  · rw [ofTags_eq_ok_iff, Locales.tags, List.forall₂_map_left_iff, List.forall₂_same]
    refine forall₂_congr fun l hl => ?_
    rw [names_iff, Locale.ofTag_trim_tag_iff (hwritten l hl)]
  · refine List.Nodup.map_on (fun l hl m hm heq => ?_) ls.nodup
    exact Locale.eq_of_tag_eq (hwritten l hl).spelled (hwritten m hm).spelled heq

/-- Three variants, written out of order in `SL_latn-rozaj-nedis-1994`, and a region. -/
def dialects : Locales :=
  ⟨[⟨"sl", some "Latn", none, ["1994", "nedis", "rozaj"]⟩, ⟨"en", none, some "US", []⟩], by decide⟩

theorem ofTags_tags_iff_dialects :
    ofTags ["SL_latn-rozaj-nedis-1994", " en-us"] = .ok dialects
      ∧ ofTags dialects.tags = .ok dialects ∧ dialects.tags.Nodup := by
  have hread : ofTags ["SL_latn-rozaj-nedis-1994", " en-us"] = .ok dialects := by rfl
  obtain ⟨hiff, hnodup⟩ := ofTags_tags_iff hread
  refine ⟨hread, hiff.2 fun l hl => ?_, hnodup⟩
  simp only [dialects, List.mem_cons, List.not_mem_nil, or_false] at hl
  rcases hl with rfl | rfl
  · refine ⟨fun hscript => (nomatch hscript), fun c hc => ?_⟩
    cases hc
    rfl
  · refine ⟨fun _ hregion => (nomatch hregion), fun c hc => ?_⟩
    cases hc
    rfl

/-- The locale that `en-posix-latn` names has the tag `en-latn-posix`, which names another one. -/
theorem not_ofTags_tags :
    ¬ ∀ (tags : List Text) (ls : Locales), ofTags tags = .ok ls → ofTags ls.tags = .ok ls := by
  intro hall
  have hread : ofTags ["en-posix-latn"]
      = .ok ⟨[⟨"en", none, none, ["latn", "posix"]⟩], List.nodup_singleton _⟩ := by rfl
  have hagain : ofTags ["en-latn-posix"]
      = .ok ⟨[⟨"en", some "Latn", none, ["posix"]⟩], List.nodup_singleton _⟩ := by rfl
  have hsame := hagain.symm.trans (hall _ _ hread)
  cases hsame

end Locales

end LogCatalog
