import LogCatalog.MessageId
import Mathlib.Data.List.Forall2
import Mathlib.Data.Nat.Digits.Lemmas
import Mathlib.Tactic.Ring

/-!
# Two notations for ids

A cell holds its id in decimal or in hexadecimal.  Digits alone can be read in both notations; then
decimal goes first, and if the number is too great, it is no smaller in hexadecimal.

* `Text.Numeral`: a sequence of digits of a base, and the number that it stands for.
* `Text.readNumber_eq_some_iff`: this is what the reader of numbers accepts.
* `readDecimal_eq_some_iff`, `readHexadecimal_eq_some_iff`: what each notation accepts.
* `Text.Numeral.exists_ge`: a numeral stands for no smaller number in a greater base.
* `id_of_cell`: what a cell holds.
-/

namespace LogCatalog

namespace Text

variable {base n : Nat} {t : Text}

/-- A character is the digit for a value, where letters of either case go on after nine. -/
def IsDigit (base : Nat) (c : Char) (value : Nat) : Prop :=
  value < base ∧ (c = Nat.digitChar value ∨ c = (Nat.digitChar value).toUpper)

/-- A text is a sequence of one or more digits of a base, and stands for a number. -/
def Numeral (base : Nat) (t : Text) (n : Nat) : Prop :=
  t ≠ [] ∧ ∃ values, List.Forall₂ (IsDigit base) t values ∧ n = Nat.ofDigits base values.reverse

/-! ### Digits -/

theorem digitValue?_digitChar :
    ∀ value < 16, digitValue? (Nat.digitChar value) = some value
      ∧ digitValue? (Nat.digitChar value).toUpper = some value := by
  decide

theorem toNat_digitChar_letter :
    ∀ value < 16, 10 ≤ value → (Nat.digitChar value).toNat = value - 10 + 'a'.toNat
      ∧ (Nat.digitChar value).toUpper.toNat = value - 10 + 'A'.toNat := by
  decide

/-- No other characters have a value below sixteen. -/
theorem eq_digitChar_of_digitValue? {c : Char} {value : Nat} (h : digitValue? c = some value)
    (hlt : value < 16) : c = Nat.digitChar value ∨ c = (Nat.digitChar value).toUpper := by
  have hle : ∀ a b : Char, a ≤ b → a.toNat ≤ b.toNat := fun _ _ hab => hab
  rw [digitValue?] at h
  split at h
  · next hc =>
    obtain rfl := Option.some.inj h
    have hlow := hle _ _ hc.1
    have hhigh : c.toNat ≤ 57 := hle _ _ hc.2
    have hten : c.toNat - '0'.toNat < 10 := by
      have : '0'.toNat = 48 := rfl
      omega
    refine .inl (Char.toNat_inj.1 ?_)
    rw [Nat.toNat_digitChar_of_lt_ten hten]
    exact (Nat.add_sub_cancel' hlow).symm
  · split at h
    · next hc =>
      obtain rfl := Option.some.inj h
      refine .inl (Char.toNat_inj.1 ?_)
      rw [(toNat_digitChar_letter _ hlt (Nat.le_add_left _ _)).1, Nat.add_sub_cancel]
      exact (Nat.sub_add_cancel (hle _ _ hc.1)).symm
    · split at h
      · next hc =>
        obtain rfl := Option.some.inj h
        refine .inr (Char.toNat_inj.1 ?_)
        rw [(toNat_digitChar_letter _ hlt (Nat.le_add_left _ _)).2, Nat.add_sub_cancel]
        exact (Nat.sub_add_cancel (hle _ _ hc.1)).symm
      · cases h

theorem digitIn?_eq_some_iff (hbase : base ≤ 16) {c : Char} {value : Nat} :
    digitIn? base c = some value ↔ IsDigit base c value := by
  rw [digitIn?, Option.filter_eq_some_iff, decide_eq_true_eq, IsDigit]
  constructor
  · rintro ⟨hvalue, hlt⟩
    exact ⟨hlt, eq_digitChar_of_digitValue? hvalue (Nat.lt_of_lt_of_le hlt hbase)⟩
  · rintro ⟨hlt, hc⟩
    obtain ⟨hsmall, hcapital⟩ := digitValue?_digitChar value (Nat.lt_of_lt_of_le hlt hbase)
    rcases hc with rfl | rfl
    · exact ⟨hsmall, hlt⟩
    · exact ⟨hcapital, hlt⟩

theorem IsDigit.mono {base' : Nat} (h : base ≤ base') {c : Char} {value : Nat}
    (hc : IsDigit base c value) : IsDigit base' c value :=
  ⟨Nat.lt_of_lt_of_le hc.1 h, hc.2⟩

/-! ### Numbers -/

/-- Digits that follow others multiply the number read so far. -/
theorem readDigits_eq_some_iff (hbase : base ≤ 16) {start : Nat} :
    readDigits base start t = some n ↔
      ∃ values, List.Forall₂ (IsDigit base) t values
        ∧ n = Nat.ofDigits base values.reverse + base ^ values.length * start := by
  induction t generalizing start with
  | nil =>
    simp only [readDigits, List.forall₂_nil_left_iff, exists_eq_left, Option.some.injEq]
    simp [eq_comm]
  | cons c rest ih =>
    have hstep : ∀ (value : Nat) (values : List Nat),
        Nat.ofDigits base (value :: values).reverse + base ^ (value :: values).length * start
          = Nat.ofDigits base values.reverse + base ^ values.length * (start * base + value) := by
      intro value values
      rw [List.reverse_cons, Nat.ofDigits_append, Nat.ofDigits_singleton, List.length_reverse,
        List.length_cons]
      ring
    rw [readDigits, Option.bind_eq_some_iff]
    constructor
    · rintro ⟨value, hvalue, hrest⟩
      obtain ⟨values, hvalues, hn⟩ := ih.1 hrest
      refine ⟨value :: values, .cons ((digitIn?_eq_some_iff hbase).1 hvalue) hvalues, ?_⟩
      rw [hstep, hn]
    · rintro ⟨values, hvalues, hn⟩
      cases hvalues with
      | cons hvalue hvalues =>
        rw [hstep] at hn
        exact ⟨_, (digitIn?_eq_some_iff hbase).2 hvalue, ih.2 ⟨_, hvalues, hn⟩⟩

/-- **What the reader of numbers accepts.** -/
theorem readNumber_eq_some_iff (hbase : base ≤ 16) :
    readNumber base t = some n ↔ Numeral base t n := by
  rw [readNumber, Numeral]
  split
  · next hnil => simp [hnil]
  · next hne =>
    rw [readDigits_eq_some_iff hbase]
    simp [hne]

/-- Digits of a base are digits of any greater base and stand for no smaller number there. -/
theorem Numeral.exists_ge {base' : Nat} (h : base ≤ base') (ht : Numeral base t n) :
    ∃ m, Numeral base' t m ∧ n ≤ m := by
  obtain ⟨hne, values, hvalues, rfl⟩ := ht
  exact ⟨_, ⟨hne, values, hvalues.imp fun _ _ hc => hc.mono h, rfl⟩, Nat.ofDigits_monotone _ h⟩

theorem Numeral.not_mem (hbase : base ≤ 16) (ht : Numeral base t n) {c : Char}
    (hc : digitIn? 16 c = none) : c ∉ t := by
  obtain ⟨-, values, hvalues, -⟩ := ht
  induction hvalues with
  | nil => exact List.not_mem_nil
  | @cons d value rest values hd _ ih =>
    intro hmem
    rcases List.mem_cons.1 hmem with rfl | hmem
    · rw [(digitIn?_eq_some_iff (Nat.le_refl 16)).2 (hd.mono hbase)] at hc
      cases hc
    · exact ih hmem

end Text

namespace MessageId

open Text (Numeral readNumber readNumber_eq_some_iff)

variable {t : Text} {n : Nat}

/-- A text is a number in decimal, with or without a plus sign. -/
def IsDecimal (t : Text) (n : Nat) : Prop :=
  ∃ digits, (t = digits ∨ t = '+' :: digits) ∧ Numeral 10 digits n

/-- A text is a number in hexadecimal, with or without the mark of the notation. -/
def IsHexadecimal (t : Text) (n : Nat) : Prop :=
  ∃ digits, (t = digits ∨ t = '0' :: 'x' :: digits ∨ t = '0' :: 'X' :: digits)
    ∧ Numeral 16 digits n

/-! ### What stands before the digits -/

theorem dropSign_cases (t : Text) : t = dropSign t ∨ t = '+' :: dropSign t := by
  fun_cases dropSign t with
  | case1 rest => exact .inr rfl
  | case2 => exact .inl rfl

theorem dropSign_of_not_mem (h : '+' ∉ t) : dropSign t = t := by
  fun_cases dropSign t with
  | case1 rest => exact absurd List.mem_cons_self h
  | case2 => rfl

theorem dropMark_cases (t : Text) :
    t = dropMark t ∨ t = '0' :: 'x' :: dropMark t ∨ t = '0' :: 'X' :: dropMark t := by
  fun_cases dropMark t with
  | case1 rest => exact .inr (.inl rfl)
  | case2 rest => exact .inr (.inr rfl)
  | case3 => exact .inl rfl

theorem dropMark_of_not_mem (h : 'x' ∉ t) (h' : 'X' ∉ t) : dropMark t = t := by
  fun_cases dropMark t with
  | case1 rest => exact absurd (List.mem_cons_of_mem _ List.mem_cons_self) h
  | case2 rest => exact absurd (List.mem_cons_of_mem _ List.mem_cons_self) h'
  | case3 => rfl

theorem readDecimal_eq_some_iff : readNumber 10 (dropSign t) = some n ↔ IsDecimal t n := by
  rw [readNumber_eq_some_iff (by decide)]
  constructor
  · exact fun h => ⟨dropSign t, dropSign_cases t, h⟩
  · rintro ⟨digits, rfl | rfl, h⟩
    · rwa [dropSign_of_not_mem (h.not_mem (by decide) (by decide))]
    · exact h

theorem readHexadecimal_eq_some_iff :
    readNumber 16 (dropMark t) = some n ↔ IsHexadecimal t n := by
  rw [readNumber_eq_some_iff (by decide)]
  constructor
  · exact fun h => ⟨dropMark t, dropMark_cases t, h⟩
  · rintro ⟨digits, rfl | rfl | rfl, h⟩
    · rwa [dropMark_of_not_mem (h.not_mem (by decide) (by decide))
        (h.not_mem (by decide) (by decide))]
    · exact h
    · exact h

/-! ### Ids -/

theorem ofDecimal?_of_isDecimal (h : IsDecimal t n) :
    ofDecimal? t = if n < bound then some n else none := by
  rw [ofDecimal?, readDecimal_eq_some_iff.2 h, Option.filter_some]
  simp only [decide_eq_true_eq]

theorem ofHexadecimal?_of_isHexadecimal (h : IsHexadecimal t n) :
    ofHexadecimal? t = if n < bound then some n else none := by
  rw [ofHexadecimal?, readHexadecimal_eq_some_iff.2 h, Option.filter_some]
  simp only [decide_eq_true_eq]

theorem ofDecimal?_of_not_isDecimal (h : ¬∃ n, IsDecimal t n) : ofDecimal? t = none := by
  rw [ofDecimal?,
    Option.eq_none_iff_forall_ne_some.2 fun n hn => h ⟨n, readDecimal_eq_some_iff.1 hn⟩]
  rfl

theorem ofHexadecimal?_of_not_isHexadecimal (h : ¬∃ n, IsHexadecimal t n) :
    ofHexadecimal? t = none := by
  rw [ofHexadecimal?,
    Option.eq_none_iff_forall_ne_some.2 fun n hn => h ⟨n, readHexadecimal_eq_some_iff.1 hn⟩]
  rfl

/-- **A decimal number that is too great is too great in hexadecimal**, or has a sign, which
hexadecimal numbers do not have. -/
theorem ofHexadecimal?_of_isDecimal (h : IsDecimal t n) (hn : bound ≤ n) :
    ofHexadecimal? t = none := by
  obtain ⟨digits, rfl | rfl, hdigits⟩ := h
  · obtain ⟨m, hm, hle⟩ := hdigits.exists_ge (show 10 ≤ 16 by decide)
    rw [ofHexadecimal?_of_isHexadecimal ⟨_, .inl rfl, hm⟩, if_neg (Nat.not_lt.2 (hn.trans hle))]
  · refine ofHexadecimal?_of_not_isHexadecimal ?_
    rintro ⟨m, digits', heq, hdigits'⟩
    obtain rfl : '+' :: digits = digits' := by simpa using heq
    exact hdigits'.not_mem (by decide) (by decide) List.mem_cons_self

/-- **What a cell holds.**  A cell that holds a decimal number, with or without a plus sign, holds
its value as an id if that fits in 32 bits, and otherwise no id; it is never read as hexadecimal.  A
cell that holds no decimal number but a hexadecimal one, with or without its mark, holds the value
of that if it fits.  All other cells hold no id. -/
theorem id_of_cell (cell : Text) :
    (∀ n, IsDecimal (Text.trim cell) n → ofCell? cell = if n < 2 ^ 32 then some n else none)
      ∧ ((¬∃ n, IsDecimal (Text.trim cell) n) →
          (∀ n, IsHexadecimal (Text.trim cell) n →
              ofCell? cell = if n < 2 ^ 32 then some n else none)
            ∧ ((¬∃ n, IsHexadecimal (Text.trim cell) n) → ofCell? cell = none)) := by
  have hbound : 2 ^ 32 = bound := rfl
  rw [hbound]
  refine ⟨fun n hn => ?_, fun hdecimal => ⟨fun n hn => ?_, fun hhexadecimal => ?_⟩⟩
  · rw [ofCell?, ofDecimal?_of_isDecimal hn]
    split
    · rfl
    · next hge => exact ofHexadecimal?_of_isDecimal hn (Nat.not_lt.1 hge)
  · rw [ofCell?, ofDecimal?_of_not_isDecimal hdecimal, ofHexadecimal?_of_isHexadecimal hn]
    rfl
  · rw [ofCell?, ofDecimal?_of_not_isDecimal hdecimal,
      ofHexadecimal?_of_not_isHexadecimal hhexadecimal]
    rfl

/-- A number that is one too great in decimal, and the same digits with a mark. -/
example : ofCell? " 4294967296" = none ∧ ofCell? "4294967295" = some 4294967295
    ∧ ofCell? "0X42949672" = some 0x42949672 := by
  decide

end MessageId

end LogCatalog
