import LogCatalog.Unicode.Lowercase

/-!
# Case variants

Two texts are case variants if they become equal when every single character is replaced by its own
small letter.  The lowercase form of a text looks further than that: a capital sigma that ends a
word becomes a final sigma, and a small sigma in the same place stays as it is.

* `isCased_lowercaseChar`, `isCaseIgnorable_lowercaseChar`: a letter and its small letter count
  alike for where a word ends.
* `SigmaApart`: a capital sigma that ends a word faces a small sigma.
* `lowercase_eq_iff`: case variants have the same lowercase form unless they are apart in this way.
-/

namespace LogCatalog.Unicode

set_option maxRecDepth 16384

/-- Two texts that differ at most in the case of single characters. -/
def CaseVariants (s t : Text) : Prop := s.map lowercaseChar = t.map lowercaseChar

instance (s t : Text) : Decidable (CaseVariants s t) := inferInstanceAs (Decidable (_ = _))

/-- A text has a capital sigma at a place, and a word ends there.  The text stands after `before`,
the nearest character first. -/
def FinalSigma (before t : Text) (place : Nat) : Prop :=
  t[place]? = some 'Σ' ∧ meetsCased ((t.take place).reverse ++ before) = true
    ∧ meetsCased (t.drop (place + 1)) = false

def SigmaApartFrom (before s before' t : Text) : Prop :=
  ∃ place, FinalSigma before s place ∧ t[place]? = some 'σ'
    ∨ FinalSigma before' t place ∧ s[place]? = some 'σ'

/-- Two whole texts of which one has a capital sigma that ends a word where the other has a small
sigma. -/
def SigmaApart (s t : Text) : Prop := SigmaApartFrom [] s [] t

/-! ### Single characters -/

theorem lowercaseRows_checked : ∀ row ∈ lowercaseRows, ∀ i < row.2.1 - row.1 + 1,
    i % row.2.2.1 = 0 →
      isCased (Char.ofNat (row.2.2.2 + i)) = casedLetters.contains (row.1 + i)
        ∧ isCaseIgnorable (Char.ofNat (row.2.2.2 + i)) = caseIgnorables.contains (row.1 + i)
        ∧ (Char.ofNat (row.2.2.2 + i) = 'σ' → row.1 + i = 'Σ'.toNat)
        ∧ Char.ofNat (row.2.2.2 + i) ≠ 'İ' := by
  decide +kernel

theorem lowercaseChar_cases (c : Char) :
    lowercaseChar c = c
      ∨ ∃ row ∈ lowercaseRows, ∃ i < row.2.1 - row.1 + 1, i % row.2.2.1 = 0
          ∧ c.toNat = row.1 + i ∧ lowercaseChar c = Char.ofNat (row.2.2.2 + i) :=
  RangeMap.shift_ofRows_cases lowercaseRows c

theorem isCased_lowercaseChar (c : Char) : isCased (lowercaseChar c) = isCased c := by
  rcases lowercaseChar_cases c with hself | ⟨row, hrow, i, hi, hstep, hn, hsmall⟩
  · rw [hself]
  · rw [hsmall, isCased.eq_1 c, hn]
    exact (lowercaseRows_checked row hrow i hi hstep).1

theorem isCaseIgnorable_lowercaseChar (c : Char) :
    isCaseIgnorable (lowercaseChar c) = isCaseIgnorable c := by
  rcases lowercaseChar_cases c with hself | ⟨row, hrow, i, hi, hstep, hn, hsmall⟩
  · rw [hself]
  · rw [hsmall, isCaseIgnorable.eq_1 c, hn]
    exact (lowercaseRows_checked row hrow i hi hstep).2.1

theorem lowercaseChar_sigma : lowercaseChar 'Σ' = 'σ' := rfl

theorem lowercaseChar_smallSigma : lowercaseChar 'σ' = 'σ' := rfl

/-- Only the two sigmas have the small sigma as their small letter. -/
theorem eq_sigma_of_lowercaseChar {c : Char} (h : lowercaseChar c = 'σ') : c = 'Σ' ∨ c = 'σ' := by
  rcases lowercaseChar_cases c with hself | ⟨row, hrow, i, hi, hstep, hn, hsmall⟩
  · exact .inr (hself.symm.trans h)
  · have hsigma := (lowercaseRows_checked row hrow i hi hstep).2.2.1 (hsmall.symm.trans h)
    exact .inl (Char.toNat_inj.1 (hn.trans hsigma))

theorem lowercaseChar_dottedCapital : lowercaseChar 'İ' = 'İ' := rfl

theorem lowercaseChar_eq_dottedCapital_iff {c : Char} : lowercaseChar c = 'İ' ↔ c = 'İ' := by
  constructor
  · intro h
    rcases lowercaseChar_cases c with hself | ⟨row, hrow, i, hi, hstep, -, hsmall⟩
    · exact hself.symm.trans h
    · exact absurd (hsmall.symm.trans h) (lowercaseRows_checked row hrow i hi hstep).2.2.2
  · rintro rfl
    exact lowercaseChar_dottedCapital

/-! ### Where a word ends -/

theorem meetsCased_map (t : Text) : meetsCased (t.map lowercaseChar) = meetsCased t := by
  have hignored : isCaseIgnorable ∘ lowercaseChar = isCaseIgnorable :=
    funext isCaseIgnorable_lowercaseChar
  rw [meetsCased, meetsCased, List.dropWhile_map, hignored]
  cases t.dropWhile isCaseIgnorable with
  | nil => rfl
  | cons c rest => exact isCased_lowercaseChar c

/-- Words end at the same places of case variants. -/
theorem meetsCased_congr {s t : Text} (h : CaseVariants s t) : meetsCased s = meetsCased t := by
  rw [← meetsCased_map s, ← meetsCased_map t, h]

/-! ### The lowercase form -/

theorem length_lowercaseAt (before : Text) (c : Char) (after : Text) :
    (lowercaseAt before c after).length = if c = 'İ' then 2 else 1 := by
  rw [lowercaseAt]
  split
  · next h =>
    subst h
    rfl
  · split
    · rfl
    · rfl

theorem length_lowercaseAt_congr {c d : Char} (h : lowercaseChar c = lowercaseChar d)
    (before before' after after' : Text) :
    (lowercaseAt before c after).length = (lowercaseAt before' d after').length := by
  have hdotted : c = 'İ' ↔ d = 'İ' := by
    rw [← lowercaseChar_eq_dottedCapital_iff, h, lowercaseChar_eq_dottedCapital_iff]
  simp only [length_lowercaseAt, hdotted]

theorem lowercaseAt_of_ne {c : Char} (h : c ≠ 'Σ') (before after : Text) :
    lowercaseAt before c after
      = if lowercaseChar c = 'İ' then ['i', Char.ofNat 0x307] else [lowercaseChar c] := by
  rw [lowercaseAt, if_neg h]
  simp only [lowercaseChar_eq_dottedCapital_iff]

/-- A capital sigma and a small one have the same lowercase form unless a word ends there. -/
theorem lowercaseAt_sigma_eq_iff {before before' after after' : Text} :
    lowercaseAt before 'Σ' after = lowercaseAt before' 'σ' after' ↔
      ¬ (meetsCased before = true ∧ meetsCased after = false) := by
  rw [lowercaseAt_of_ne (c := 'σ') (by decide), lowercaseChar_smallSigma, lowercaseAt, if_pos rfl,
    if_neg (c := 'σ' = 'İ') (by decide)]
  cases meetsCased before <;> cases meetsCased after <;> decide

/-- Two characters with the same small letter, in places where words end alike, have the same
lowercase form unless a capital sigma that ends a word faces a small one. -/
theorem lowercaseAt_eq_iff {c d : Char} (hcd : lowercaseChar c = lowercaseChar d)
    {before before' after after' : Text} (hbefore : meetsCased before = meetsCased before')
    (hafter : meetsCased after = meetsCased after') :
    lowercaseAt before c after = lowercaseAt before' d after' ↔
      ¬ (meetsCased before = true ∧ meetsCased after = false
        ∧ (c = 'Σ' ∧ d = 'σ' ∨ d = 'Σ' ∧ c = 'σ')) := by
  by_cases hc : c = 'Σ'
  · subst hc
    rw [lowercaseChar_sigma] at hcd
    rcases eq_sigma_of_lowercaseChar hcd.symm with rfl | rfl
    · simp [lowercaseAt, hbefore, hafter]
    · rw [lowercaseAt_sigma_eq_iff]
      simp
  · by_cases hd : d = 'Σ'
    · subst hd
      rw [lowercaseChar_sigma] at hcd
      obtain rfl := (eq_sigma_of_lowercaseChar hcd).resolve_left hc
      rw [eq_comm, lowercaseAt_sigma_eq_iff, hbefore, hafter]
      simp
    · rw [lowercaseAt_of_ne hc, lowercaseAt_of_ne hd, hcd]
      simp [hc, hd]

theorem finalSigma_zero {before t : Text} {c : Char} :
    FinalSigma before (c :: t) 0 ↔
      c = 'Σ' ∧ meetsCased before = true ∧ meetsCased t = false := by
  simp [FinalSigma]

theorem finalSigma_succ {before t : Text} {c : Char} {place : Nat} :
    FinalSigma before (c :: t) (place + 1) ↔ FinalSigma (c :: before) t place := by
  simp [FinalSigma]

theorem sigmaApartFrom_cons {before before' s t : Text} {c d : Char} :
    SigmaApartFrom before (c :: s) before' (d :: t) ↔
      (c = 'Σ' ∧ meetsCased before = true ∧ meetsCased s = false) ∧ d = 'σ'
        ∨ (d = 'Σ' ∧ meetsCased before' = true ∧ meetsCased t = false) ∧ c = 'σ'
        ∨ SigmaApartFrom (c :: before) s (d :: before') t := by
  rw [SigmaApartFrom, ← Nat.or_exists_add_one]
  simp only [finalSigma_zero, finalSigma_succ, List.getElem?_cons_zero, List.getElem?_cons_succ,
    Option.some.injEq, or_assoc]
  rfl

/-- The induction is on the two texts together; `before` and `before'` are what was passed. -/
theorem lowercaseFrom_eq_iff {before before' s t : Text} (hbefore : CaseVariants before before')
    (h : CaseVariants s t) :
    lowercaseFrom before s = lowercaseFrom before' t ↔ ¬ SigmaApartFrom before s before' t := by
  induction s generalizing before before' t with
  | nil =>
    obtain rfl : t = [] := List.map_eq_nil_iff.1 h.symm
    simp [lowercaseFrom, SigmaApartFrom, FinalSigma]
  | cons c s ih =>
    cases t with
    | nil => cases h
    | cons d t =>
      obtain ⟨hcd, hst⟩ := List.cons.inj h
      have hpassed : CaseVariants (c :: before) (d :: before') := by
        rw [CaseVariants, List.map_cons, List.map_cons, hcd, hbefore]
      have hb := meetsCased_congr hbefore
      have ha : meetsCased s = meetsCased t := meetsCased_congr hst
      -- The forms of the two characters are equally long, so the two texts part at the same place.
      have happend : lowercaseAt before c s ++ lowercaseFrom (c :: before) s
            = lowercaseAt before' d t ++ lowercaseFrom (d :: before') t ↔
          lowercaseAt before c s = lowercaseAt before' d t
            ∧ lowercaseFrom (c :: before) s = lowercaseFrom (d :: before') t :=
        ⟨fun heq => List.append_inj heq (length_lowercaseAt_congr hcd ..),
          fun ⟨hhead, htail⟩ => by rw [hhead, htail]⟩
      rw [lowercaseFrom, lowercaseFrom, happend, lowercaseAt_eq_iff hcd hb ha, ih hpassed hst,
        sigmaApartFrom_cons, ← hb, ← ha]
      grind

/-- **Case variants have the same lowercase form unless a sigma sets them apart**: a capital sigma
that ends a word, against a small sigma in the same place. -/
theorem lowercase_eq_iff {s t : Text} (h : CaseVariants s t) :
    lowercase s = lowercase t ↔ ¬ SigmaApart s t :=
  lowercaseFrom_eq_iff rfl h

end LogCatalog.Unicode
