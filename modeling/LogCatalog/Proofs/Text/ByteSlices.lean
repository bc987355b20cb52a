import LogCatalog.Proofs.Text.Utf8

/-!
# Slices by byte positions

A text can be cut at the byte positions that lie between two of its characters, and at no others.

* `splitAtByte?_eq_some_iff`: where a text can be cut, and into what.
* `byteSlice?_eq_some_iff`: what stands from one byte position up to another one.
* `length_encode`: a text has as many bytes as its encoding.
-/

namespace LogCatalog.Text

/-- What stands before a byte position and what stands behind it, unless the position is inside a
character or beyond the end of the text. -/
def splitAtByte? : Nat → Text → Option (Text × Text)
  | 0, t => some ([], t)
  | _ + 1, [] => none
  | position + 1, c :: rest =>
    if c.utf8Size ≤ position + 1 then
      (splitAtByte? (position + 1 - c.utf8Size) rest).map fun (before, behind) =>
        (c :: before, behind)
    else none

/-- What stands from one byte position up to another one, unless the two are in the wrong order or
the text cannot be cut at one of them. -/
def byteSlice? (t : Text) (first last : Nat) : Option Text :=
  if first ≤ last then
    (splitAtByte? first t).bind fun cut => (splitAtByte? (last - first) cut.2).map Prod.fst
  else none

variable {t before piece behind : Text} {position first last : Nat}

theorem splitAtByte?_byteLength (before behind : Text) :
    splitAtByte? (byteLength before) (before ++ behind) = some (before, behind) := by
  induction before with
  | nil => rw [byteLength, List.nil_append, splitAtByte?]
  | cons c rest ih =>
    have hpos := c.utf8Size_pos
    obtain ⟨p, hp⟩ : ∃ p, c.utf8Size + byteLength rest = p + 1 :=
      ⟨c.utf8Size + byteLength rest - 1, by omega⟩
    have hrest : p + 1 - c.utf8Size = byteLength rest := by omega
    rw [byteLength, hp, List.cons_append, splitAtByte?, if_pos (by omega), hrest, ih]
    rfl

/-- **A text is cut at a byte position exactly if so many bytes of it are whole characters.** -/
theorem splitAtByte?_eq_some_iff :
    splitAtByte? position t = some (before, behind) ↔
      t = before ++ behind ∧ byteLength before = position := by
  refine ⟨fun h => ?_, fun ⟨ht, hposition⟩ => ?_⟩
  · induction t generalizing position before with
    | nil =>
      cases position with
      | zero =>
        cases h
        exact ⟨rfl, rfl⟩
      | succ position => cases h
    | cons c rest ih =>
      cases position with
      | zero =>
        cases h
        exact ⟨rfl, rfl⟩
      | succ position =>
        rw [splitAtByte?] at h
        split at h
        · next hle =>
          obtain ⟨⟨before', behind'⟩, hrest, heq⟩ := Option.map_eq_some_iff.1 h
          cases heq
          obtain ⟨rfl, hlength⟩ := ih hrest
          refine ⟨rfl, ?_⟩
          rw [byteLength]
          omega
        · cases h
  · rw [ht, ← hposition]
    exact splitAtByte?_byteLength before behind

/-- **A slice is what stands between two places at which the text can be cut.** -/
theorem byteSlice?_eq_some_iff :
    byteSlice? t first last = some piece ↔
      ∃ before behind, t = before ++ piece ++ behind ∧ byteLength before = first
        ∧ byteLength before + byteLength piece = last := by
  rw [byteSlice?]
  constructor
  · intro h
    split at h
    · next hle =>
      obtain ⟨⟨before, rest⟩, hfirst, h⟩ := Option.bind_eq_some_iff.1 h
      obtain ⟨⟨cut, behind⟩, hlast, hcut⟩ := Option.map_eq_some_iff.1 h
      obtain rfl : cut = piece := hcut
      obtain ⟨rfl, hbefore⟩ := splitAtByte?_eq_some_iff.1 hfirst
      obtain ⟨rfl, hpiece⟩ := splitAtByte?_eq_some_iff.1 hlast
      exact ⟨before, behind, (List.append_assoc ..).symm, hbefore, by omega⟩
    · cases h
  · rintro ⟨before, behind, rfl, hbefore, hlast⟩
    have hfirst : splitAtByte? first (before ++ piece ++ behind) = some (before, piece ++ behind) :=
      splitAtByte?_eq_some_iff.2 ⟨List.append_assoc .., hbefore⟩
    have hpiece : splitAtByte? (last - first) (piece ++ behind) = some (piece, behind) :=
      splitAtByte?_eq_some_iff.2 ⟨rfl, by omega⟩
    rw [if_pos (by omega), hfirst, Option.bind_some, hpiece]
    rfl

/-! ### Bytes of a text -/

namespace Utf8

theorem length_encodeChar (c : Char) : (encodeChar c).length = c.utf8Size := by
  have hone : c.val ≤ 0x7F ↔ c.toNat < 0x80 := UInt32.le_iff_toNat_le.trans Nat.lt_succ_iff.symm
  have htwo : c.val ≤ 0x7FF ↔ c.toNat < 0x800 := UInt32.le_iff_toNat_le.trans Nat.lt_succ_iff.symm
  have hthree : c.val ≤ 0xFFFF ↔ c.toNat < 0x10000 :=
    UInt32.le_iff_toNat_le.trans Nat.lt_succ_iff.symm
  show _ = if c.val ≤ 0x7F then 1 else if c.val ≤ 0x7FF then 2 else if c.val ≤ 0xFFFF then 3 else 4
  rw [encodeChar]
  simp only [hone, htwo, hthree]
  split
  · rfl
  split
  · rfl
  split
  · rfl
  · rfl

theorem length_encode (t : Text) : (encode t).length = byteLength t := by
  induction t with
  | nil => rfl
  | cons c rest ih => rw [encode_cons, List.length_append, length_encodeChar, ih, byteLength]

end Utf8

end LogCatalog.Text
