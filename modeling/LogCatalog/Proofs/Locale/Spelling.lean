import LogCatalog.Proofs.Locale.Subtags
import LogCatalog.Proofs.Text.Pieces
import Mathlib

/-!
# How subtags are spelled

Every kind of subtag has one spelling, which a subtag keeps if it has it: small letters, capitals,
or a capital in front.  So the parts of a locale that a tag names read as themselves.

* `language?_self`, `script?_self`, `region?_self`, `variant?_self`: what a subtag is spelled as
  reads as itself.
* `foldr_insertVariant_self`: variants in order stay as they are.
* `Written`, `written_of_ofTag`: the parts of a locale that a tag names read as themselves.
-/

namespace LogCatalog

namespace Locale

open Char (toLower_toLower_eq_toLower toLower_toUpper_eq_toLower toUpper_toUpper_eq_toUpper
  isAlpha_toLower_eq_isAlpha isAlpha_toUpper_eq_isAlpha)

variable {s t : Text} {l : Locale}

/-! ### Letters -/

theorem isUpper_iff {c : Char} : c.isUpper = true ↔ 65 ≤ c.toNat ∧ c.toNat ≤ 90 := by
  delta Char.isUpper
  rw [decide_eq_true_iff, ge_iff_le, UInt32.le_iff_toNat_le, UInt32.le_iff_toNat_le]
  exact Iff.rfl

theorem isLower_iff {c : Char} : c.isLower = true ↔ 97 ≤ c.toNat ∧ c.toNat ≤ 122 := by
  delta Char.isLower
  rw [Bool.and_eq_true, decide_eq_true_iff, decide_eq_true_iff, ge_iff_le,
    UInt32.le_iff_toNat_le, UInt32.le_iff_toNat_le]
  exact Iff.rfl

theorem toNat_toLower (c : Char) :
    c.toLower.toNat = if 65 ≤ c.toNat ∧ c.toNat ≤ 90 then c.toNat + 32 else c.toNat := by
  delta Char.toLower
  simp only [ge_iff_le, UInt32.le_iff_toNat_le, Char.toNat_val]
  split
  · next h =>
    have h' : 65 ≤ c.toNat ∧ c.toNat ≤ 90 := h
    rw [if_pos h', ← Char.toNat_val, UInt32.toNat_add, Char.toNat_val]
    show (c.toNat + 32) % 2 ^ 32 = c.toNat + 32
    omega
  · next h => exact (if_neg h).symm

theorem isAlpha_iff {c : Char} :
    c.isAlpha = true ↔ (65 ≤ c.toNat ∧ c.toNat ≤ 90) ∨ (97 ≤ c.toNat ∧ c.toNat ≤ 122) :=
  (Bool.or_eq_true ..).to_iff.trans (or_congr isUpper_iff isLower_iff)

theorem isDigit_iff {c : Char} : c.isDigit = true ↔ 48 ≤ c.toNat ∧ c.toNat ≤ 57 := by
  rw [Char.isDigit, Bool.and_eq_true, decide_eq_true_iff, decide_eq_true_iff, ge_iff_le,
    UInt32.le_iff_toNat_le, UInt32.le_iff_toNat_le]
  exact Iff.rfl

theorem isTagSeparator_iff {c : Char} :
    isTagSeparator c = true ↔ c.toNat = 45 ∨ c.toNat = 95 := by
  rw [isTagSeparator, Bool.or_eq_true, beq_iff_eq, beq_iff_eq, ← Char.toNat_inj, ← Char.toNat_inj]
  exact Iff.rfl

theorem isDigit_toLower (c : Char) : c.toLower.isDigit = c.isDigit := by
  rw [Bool.eq_iff_iff, isDigit_iff, isDigit_iff, toNat_toLower]
  split <;> omega

theorem isAlphanum_toLower (c : Char) : c.toLower.isAlphanum = c.isAlphanum := by
  rw [Char.isAlphanum, Char.isAlphanum, isAlpha_toLower_eq_isAlpha, isDigit_toLower]

theorem isTagByte_toLower (c : Char) : isTagByte c.toLower = isTagByte c := by
  rw [Bool.eq_iff_iff, isTagByte, isTagByte, Bool.and_eq_true, Bool.and_eq_true,
    decide_eq_true_iff, decide_eq_true_iff, decide_eq_true_iff, decide_eq_true_iff, toNat_toLower]
  split <;> omega

theorem isTagSeparator_toLower (c : Char) : isTagSeparator c.toLower = isTagSeparator c := by
  rw [Bool.eq_iff_iff, isTagSeparator_iff, isTagSeparator_iff, toNat_toLower]
  split <;> omega

theorem all_map_self {p : Char → Bool} {f : Char → Char} (hf : ∀ c, p (f c) = p c) (s : Text) :
    (s.map f).all p = s.all p := by
  rw [List.all_map]
  exact congrArg (s.all ·) (funext hf)

theorem map_map_self {f g : Char → Char} (hf : ∀ c, g (f c) = g c) (s : Text) :
    (s.map f).map g = s.map g := by
  rw [List.map_map]
  exact List.map_congr_left fun c _ => hf c

/-! ### How subtags are spelled -/

theorem language?_eq_some_iff :
    language? s = some t
      ↔ s.all Char.isAlpha = true ∧ s.length ∈ [2, 3, 5, 6, 7, 8] ∧ t = s.map Char.toLower := by
  rw [language?, Option.ite_none_right_eq_some, Option.some.injEq, eq_comm (b := t), and_assoc]

def capitalized : Text → Text
  | [] => []
  | c :: rest => c.toUpper :: rest.map Char.toLower

theorem script?_eq_some_iff :
    script? s = some t ↔ s.length = 4 ∧ s.all Char.isAlpha = true ∧ t = capitalized s := by
  match s with
  | [a, b, c, d] =>
    rw [script?, Option.ite_none_right_eq_some, Option.some.injEq, eq_comm (b := t)]
    exact ⟨fun h => ⟨rfl, h⟩, And.right⟩
  | [] | [_] | [_, _] | [_, _, _] | _ :: _ :: _ :: _ :: _ :: _ => simp [script?]

theorem region?_eq_some_iff :
    region? s = some t
      ↔ s.length = 2 ∧ s.all Char.isAlpha = true ∧ t = s.map Char.toUpper
        ∨ s.length = 3 ∧ s.all Char.isDigit = true ∧ t = s := by
  rw [region?]
  split
  · next h =>
    rw [Option.some.injEq, eq_comm (b := t)]
    constructor
    · exact fun ht => .inl ⟨h.1, h.2, ht⟩
    · rintro (⟨-, -, ht⟩ | ⟨hlength, -⟩)
      · exact ht
      · omega
  · next h =>
    rw [Option.ite_none_right_eq_some, Option.some.injEq, eq_comm (b := t), and_assoc]
    exact (or_iff_right fun h' => h ⟨h'.1, h'.2.1⟩).symm

def VariantShape (s : Text) : Prop :=
  (5 ≤ s.length ∧ s.length ≤ 8 ∧ s.all Char.isAlphanum = true)
    ∨ s.length = 4 ∧ s.all isTagByte = true
      ∧ (s.head?.any Char.isDigit = true ∨ s.tail.all Char.isAlphanum = true)

theorem variant?_eq_some_iff :
    variant? s = some t ↔ VariantShape s ∧ t = s.map Char.toLower := by
  rw [variant?, VariantShape]
  split
  · next h =>
    rw [Option.some.injEq, eq_comm (b := t)]
    exact ⟨fun ht => ⟨.inl h, ht⟩, And.right⟩
  · next h =>
    rw [Option.ite_none_right_eq_some, Option.some.injEq, eq_comm (b := t), or_iff_right h]

theorem VariantShape.map_toLower (h : VariantShape s) : VariantShape (s.map Char.toLower) := by
  rw [VariantShape] at h ⊢
  rw [List.length_map, all_map_self isAlphanum_toLower, all_map_self isTagByte_toLower,
    List.head?_map, Option.any_map, ← List.map_tail, all_map_self isAlphanum_toLower]
  simp only [isDigit_toLower]
  exact h

/-- A subtag keeps its letters, up to their case. -/
theorem map_toLower_of_language? (h : language? s = some t) :
    t.map Char.toLower = s.map Char.toLower := by
  obtain ⟨-, -, rfl⟩ := language?_eq_some_iff.1 h
  exact map_map_self toLower_toLower_eq_toLower s

theorem map_toLower_of_script? (h : script? s = some t) :
    t.map Char.toLower = s.map Char.toLower := by
  obtain ⟨-, -, rfl⟩ := script?_eq_some_iff.1 h
  cases s with
  | nil => rfl
  | cons c rest =>
    rw [capitalized, List.map_cons, List.map_cons, toLower_toUpper_eq_toLower,
      map_map_self toLower_toLower_eq_toLower]

theorem map_toLower_of_region? (h : region? s = some t) :
    t.map Char.toLower = s.map Char.toLower := by
  rcases region?_eq_some_iff.1 h with ⟨-, -, rfl⟩ | ⟨-, -, rfl⟩
  · exact map_map_self toLower_toUpper_eq_toLower s
  · rfl

theorem map_toLower_of_variant? (h : variant? s = some t) :
    t.map Char.toLower = s.map Char.toLower := by
  obtain ⟨-, rfl⟩ := variant?_eq_some_iff.1 h
  exact map_map_self toLower_toLower_eq_toLower s

theorem length_eq_of_map_toLower (h : t.map Char.toLower = s.map Char.toLower) :
    t.length = s.length := by
  rw [← List.length_map, h, List.length_map]

/-- What a subtag is spelled as reads as itself. -/
theorem language?_self (h : language? s = some t) : language? t = some t := by
  obtain ⟨hall, hlength, rfl⟩ := language?_eq_some_iff.1 h
  refine language?_eq_some_iff.2 ⟨?_, ?_, (map_map_self toLower_toLower_eq_toLower s).symm⟩
  · rwa [all_map_self isAlpha_toLower_eq_isAlpha]
  · rwa [List.length_map]

theorem script?_self (h : script? s = some t) : script? t = some t := by
  obtain ⟨hlength, hall, rfl⟩ := script?_eq_some_iff.1 h
  cases s with
  | nil => cases hlength
  | cons c rest =>
    rw [List.all_cons] at hall
    refine script?_eq_some_iff.2 ⟨?_, ?_, ?_⟩
    · rwa [capitalized, List.length_cons, List.length_map, ← List.length_cons]
    · rwa [capitalized, List.all_cons, isAlpha_toUpper_eq_isAlpha,
        all_map_self isAlpha_toLower_eq_isAlpha]
    · rw [capitalized, capitalized, toUpper_toUpper_eq_toUpper,
        map_map_self toLower_toLower_eq_toLower]

theorem region?_self (h : region? s = some t) : region? t = some t := by
  rcases region?_eq_some_iff.1 h with ⟨hlength, hall, rfl⟩ | ⟨-, -, rfl⟩
  · refine region?_eq_some_iff.2 (.inl ⟨?_, ?_, (map_map_self toUpper_toUpper_eq_toUpper s).symm⟩)
    · rwa [List.length_map]
    · rwa [all_map_self isAlpha_toUpper_eq_isAlpha]
  · exact h

theorem variant?_self (h : variant? s = some t) : variant? t = some t := by
  obtain ⟨hshape, rfl⟩ := variant?_eq_some_iff.1 h
  exact variant?_eq_some_iff.2 ⟨hshape.map_toLower, (map_map_self toLower_toLower_eq_toLower s).symm⟩

/-- A variant is too long for a region. -/
theorem region?_of_variant? (h : variant? s = some t) : region? s = none := by
  obtain ⟨hshape, -⟩ := variant?_eq_some_iff.1 h
  cases hregion : region? s with
  | none => rfl
  | some r =>
    rw [VariantShape] at hshape
    rcases region?_eq_some_iff.1 hregion with ⟨hlength, -⟩ | ⟨hlength, -⟩ <;> omega

/-- A region is too short for a script. -/
theorem script?_of_region? (h : region? s = some t) : script? s = none := by
  cases hscript : script? s with
  | none => rfl
  | some r =>
    have hfour := (script?_eq_some_iff.1 hscript).1
    rcases region?_eq_some_iff.1 h with ⟨hlength, -⟩ | ⟨hlength, -⟩ <;> omega

theorem script?_eq_none_iff : script? s = none ↔ ¬ (s.length = 4 ∧ s.all Char.isAlpha = true) := by
  rw [Option.eq_none_iff_forall_ne_some]
  constructor
  · rintro h ⟨hlength, hall⟩
    exact h _ (script?_eq_some_iff.2 ⟨hlength, hall, rfl⟩)
  · intro h t ht
    obtain ⟨hlength, hall, -⟩ := script?_eq_some_iff.1 ht
    exact h ⟨hlength, hall⟩

/-! ### Variants in order -/

variable {v : Text} {variants : List Text}

theorem mem_of_mem_foldr_insertVariant {v : Text} {variants : List Text}
    (h : v ∈ variants.foldr insertVariant []) : v ∈ variants := by
  induction variants with
  | nil => exact h
  | cons w rest ih =>
    rcases mem_insertVariant.1 h with rfl | h
    · exact List.mem_cons_self ..
    · exact List.mem_cons_of_mem _ (ih h)

theorem pairwise_insertVariant (h : variants.Pairwise (· < ·)) :
    (insertVariant v variants).Pairwise (· < ·) := by
  induction variants with
  | nil => exact List.pairwise_singleton _ _
  | cons w rest ih =>
    obtain ⟨hw, hrest⟩ := List.pairwise_cons.1 h
    rw [insertVariant]
    split
    · exact h
    · next hne =>
      split
      · next hlt =>
        refine List.pairwise_cons.2 ⟨fun u hu => ?_, h⟩
        rcases List.mem_cons.1 hu with rfl | hu
        · exact hlt
        · exact hlt.trans (hw u hu)
      · next hnot =>
        refine List.pairwise_cons.2 ⟨fun u hu => ?_, ih hrest⟩
        rcases mem_insertVariant.1 hu with rfl | hu
        · exact (lt_trichotomy w u).resolve_right (by tauto)
        · exact hw u hu

theorem pairwise_foldr_insertVariant (variants : List Text) :
    (variants.foldr insertVariant []).Pairwise (· < ·) := by
  induction variants with
  | nil => exact List.Pairwise.nil
  | cons w rest ih => exact pairwise_insertVariant ih

theorem foldr_insertVariant_self (h : variants.Pairwise (· < ·)) :
    variants.foldr insertVariant [] = variants := by
  induction variants with
  | nil => rfl
  | cons w rest ih =>
    obtain ⟨hw, hrest⟩ := List.pairwise_cons.1 h
    rw [List.foldr_cons, ih hrest]
    cases rest with
    | nil => rfl
    | cons u more =>
      have hlt : w < u := hw u (List.mem_cons_self ..)
      rw [insertVariant, if_neg hlt.ne, if_pos hlt]

/-! ### What is written -/

def Undivided (s : Text) : Prop := ∀ c ∈ s, isTagSeparator c = false

theorem Undivided.of_map_toLower (hs : Undivided s) (h : t.map Char.toLower = s.map Char.toLower) :
    Undivided t := by
  intro c hc
  have hmem : c.toLower ∈ s.map Char.toLower := h ▸ List.mem_map_of_mem hc
  obtain ⟨d, hd, heq⟩ := List.mem_map.1 hmem
  rw [← isTagSeparator_toLower, ← heq, isTagSeparator_toLower]
  exact hs d hd

/-- The parts of a locale read as themselves, its variants are in order, and no part falls apart. -/
structure Written (l : Locale) : Prop where
  language : language? l.language = some l.language
  script : ∀ s ∈ l.script, script? s = some s
  region : ∀ r ∈ l.region, region? r = some r
  variants : ∀ v ∈ l.variants, variant? v = some v
  increasing : l.variants.Pairwise (· < ·)
  undivided : ∀ s ∈ l.subtags, Undivided s

/-- **What a locale is read from is written as it reads.** -/
theorem ReadFrom.written {pieces : List Text} (h : l.ReadFrom pieces)
    (hpieces : ∀ s ∈ pieces, Undivided s) : l.Written := by
  cases h with
  | @intro first scripts regions variants spelled language script region variants_read
      variants_eq =>
    have hscript : ∀ s ∈ l.script, ∃ t ∈ scripts, script? t = some s := fun s hs =>
      exists_of_forall₂_of_mem script (Option.mem_toList.2 hs)
    have hregion : ∀ r ∈ l.region, ∃ t ∈ regions, region? t = some r := fun r hr =>
      exists_of_forall₂_of_mem region (Option.mem_toList.2 hr)
    have hvariant : ∀ v ∈ l.variants, ∃ t ∈ variants, variant? t = some v := fun v hv =>
      exists_of_forall₂_of_mem variants_read (mem_of_mem_foldr_insertVariant (variants_eq ▸ hv))
    refine ⟨language?_self language, fun s hs => ?_, fun r hr => ?_, fun v hv => ?_, ?_,
      fun s hs => ?_⟩
    · obtain ⟨t, -, ht⟩ := hscript s hs
      exact script?_self ht
    · obtain ⟨t, -, ht⟩ := hregion r hr
      exact region?_self ht
    · obtain ⟨t, -, ht⟩ := hvariant v hv
      exact variant?_self ht
    · rw [variants_eq]
      exact pairwise_foldr_insertVariant spelled
    · rw [subtags, List.mem_cons, List.mem_append, List.mem_append, Option.mem_toList,
        Option.mem_toList] at hs
      rcases hs with rfl | (hs | hs) | hs
      · exact (hpieces first (by simp)).of_map_toLower (map_toLower_of_language? language)
      · obtain ⟨t, hmem, ht⟩ := hscript s hs
        exact (hpieces t (by simp [hmem])).of_map_toLower (map_toLower_of_script? ht)
      · obtain ⟨t, hmem, ht⟩ := hregion s hs
        exact (hpieces t (by simp [hmem])).of_map_toLower (map_toLower_of_region? ht)
      · obtain ⟨t, hmem, ht⟩ := hvariant s hs
        exact (hpieces t (by simp [hmem])).of_map_toLower (map_toLower_of_variant? ht)

theorem written_of_ofTag {tag : Text} (h : ofTag tag = .ok l) : l.Written :=
  (readFrom_of_ofTag h).written fun _ hs => Text.eq_false_of_mem_splitOnP hs

end Locale

end LogCatalog
