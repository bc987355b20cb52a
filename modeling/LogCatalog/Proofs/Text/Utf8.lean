import LogCatalog.Text.Utf8

/-!
# Valid UTF-8

A stream of bytes is valid exactly if it is the encoding of a text, and no byte below 0x80 is a part
of a longer character.

* `decode_eq_some_iff`: bytes decode to a text exactly if they are its encoding.
* `mem_encodeChar_iff`: a byte below 0x80 occurs only in the encoding of its own character.
-/

namespace LogCatalog.Text.Utf8

@[simp] theorem encode_nil : encode [] = [] := rfl

theorem encode_cons (c : Char) (t : Text) : encode (c :: t) = encodeChar c ++ encode t :=
  List.flatMap_cons

theorem encode_append (s t : Text) : encode (s ++ t) = encode s ++ encode t :=
  List.flatMap_append

/-! ### What decodes is an encoding -/

theorem ofNat_of_toNat {b : UInt8} {n : Nat} (h : b.toNat = n) : UInt8.ofNat n = b := by
  rw [← h, UInt8.ofNat_toNat]

theorem continuation?_eq_some {b : UInt8} {bits : Nat} (h : continuation? b = some bits) :
    b.toNat = 0x80 + bits ∧ bits < 0x40 := by
  rw [continuation?] at h
  split at h
  · obtain rfl := Option.some.inj h
    omega
  · cases h

theorem charFrom?_eq_some {least n : Nat} {c : Char} (h : charFrom? least n = some c) :
    c.toNat = n ∧ least ≤ n := by
  rw [charFrom?] at h
  split at h
  · next hn =>
    obtain rfl := Option.some.inj h
    refine ⟨?_, hn.2⟩
    rw [Char.ofNat, dif_pos hn.1]
    rfl
  · cases h

theorem decodeFrom_one {least value : Nat} {bytes : List UInt8} {t : Text}
    (h : decodeFrom 1 least value bytes = some t) :
    ∃ b rest c t', bytes = b :: rest ∧ t = c :: t' ∧ decodeFrom 0 0 0 rest = some t'
      ∧ least ≤ c.toNat ∧ 0x80 ≤ b.toNat ∧ b.toNat < 0xC0
      ∧ c.toNat = value * 0x40 + (b.toNat - 0x80) := by
  cases bytes with
  | nil => cases h
  | cons b rest =>
    rw [decodeFrom] at h
    cases hbits : continuation? b with
    | none =>
      rw [hbits] at h
      cases h
    | some bits =>
      simp only [hbits, if_true] at h
      cases hchar : charFrom? least (value * 0x40 + bits) with
      | none =>
        rw [hchar] at h
        cases h
      | some c =>
        simp only [hchar] at h
        obtain ⟨t', hrest, rfl⟩ := Option.map_eq_some_iff.1 h
        obtain ⟨hb, hlt⟩ := continuation?_eq_some hbits
        obtain ⟨hc, hle⟩ := charFrom?_eq_some hchar
        exact ⟨b, rest, c, t', rfl, rfl, hrest, by omega, by omega, by omega, by omega⟩

/-- A byte before the last one adds six bits. -/
theorem decodeFrom_more {owed least value : Nat} {bytes : List UInt8} {t : Text}
    (h : decodeFrom (owed + 2) least value bytes = some t) :
    ∃ b rest, bytes = b :: rest ∧ 0x80 ≤ b.toNat ∧ b.toNat < 0xC0
      ∧ decodeFrom (owed + 1) least (value * 0x40 + (b.toNat - 0x80)) rest = some t := by
  cases bytes with
  | nil => cases h
  | cons b rest =>
    rw [decodeFrom] at h
    cases hbits : continuation? b with
    | none =>
      rw [hbits] at h
      cases h
    | some bits =>
      simp only [hbits, Nat.succ_ne_zero, if_false] at h
      obtain ⟨hb, hlt⟩ := continuation?_eq_some hbits
      refine ⟨b, rest, rfl, by omega, by omega, ?_⟩
      rwa [show b.toNat - 0x80 = bits by omega]

theorem encodeChar_of_lt {c : Char} (h : c.toNat < 0x80) : encodeChar c = [.ofNat c.toNat] := by
  rw [encodeChar, if_pos h]

theorem encodeChar_two {c : Char} {a b : UInt8} (hlow : 0x80 ≤ c.toNat) (hhigh : c.toNat < 0x800)
    (ha : a.toNat = 0xC0 + c.toNat / 0x40) (hb : b.toNat = 0x80 + c.toNat % 0x40) :
    encodeChar c = [a, b] := by
  rw [encodeChar, if_neg (by omega), if_pos hhigh, ofNat_of_toNat ha, ofNat_of_toNat hb]

theorem encodeChar_three {c : Char} {a b d : UInt8} (hlow : 0x800 ≤ c.toNat)
    (hhigh : c.toNat < 0x10000) (ha : a.toNat = 0xE0 + c.toNat / 0x1000)
    (hb : b.toNat = 0x80 + c.toNat / 0x40 % 0x40) (hd : d.toNat = 0x80 + c.toNat % 0x40) :
    encodeChar c = [a, b, d] := by
  rw [encodeChar, if_neg (by omega), if_neg (by omega), if_pos hhigh, ofNat_of_toNat ha,
    ofNat_of_toNat hb, ofNat_of_toNat hd]

theorem encodeChar_four {c : Char} {a b d e : UInt8} (hlow : 0x10000 ≤ c.toNat)
    (ha : a.toNat = 0xF0 + c.toNat / 0x40000) (hb : b.toNat = 0x80 + c.toNat / 0x1000 % 0x40)
    (hd : d.toNat = 0x80 + c.toNat / 0x40 % 0x40) (he : e.toNat = 0x80 + c.toNat % 0x40) :
    encodeChar c = [a, b, d, e] := by
  rw [encodeChar, if_neg (by omega), if_neg (by omega), if_neg (by omega), ofNat_of_toNat ha,
    ofNat_of_toNat hb, ofNat_of_toNat hd, ofNat_of_toNat he]

/-- Bytes that decode begin with the encoding of the first character.  The cases are those of its
first byte. -/
theorem decodeFrom_cons {a : UInt8} {bytes : List UInt8} {t : Text}
    (h : decodeFrom 0 0 0 (a :: bytes) = some t) :
    ∃ c t' rest, t = c :: t' ∧ a :: bytes = encodeChar c ++ rest
      ∧ decodeFrom 0 0 0 rest = some t' := by
  -- The first byte tells of how many bytes the character is: one, two, three or four.
  rw [decodeFrom] at h
  split at h
  · next ha =>
    obtain ⟨t', hrest, rfl⟩ := Option.map_eq_some_iff.1 h
    have hc : (Char.ofNat a.toNat).toNat = a.toNat := by
      rw [Char.ofNat, dif_pos (.inl (by omega))]
      rfl
    refine ⟨_, t', bytes, rfl, ?_, hrest⟩
    rw [encodeChar_of_lt (by omega), hc, UInt8.ofNat_toNat]
    rfl
  split at h
  · cases h
  split at h
  · next ha =>
    obtain ⟨b, rest, c, t', rfl, rfl, hrest, hleast, hb, hb', hc⟩ := decodeFrom_one h
    have hchar : encodeChar c = [a, b] :=
      encodeChar_two hleast (by omega) (by omega) (by omega)
    exact ⟨c, t', rest, rfl, by rw [hchar]; rfl, hrest⟩
  split at h
  · next ha =>
    obtain ⟨b, rest, rfl, hb, hb', h⟩ := decodeFrom_more h
    obtain ⟨d, rest, c, t', rfl, rfl, hrest, hleast, hd, hd', hc⟩ := decodeFrom_one h
    have hchar : encodeChar c = [a, b, d] :=
      encodeChar_three hleast (by omega) (by omega) (by omega) (by omega)
    exact ⟨c, t', rest, rfl, by rw [hchar]; rfl, hrest⟩
  split at h
  · next ha =>
    obtain ⟨b, rest, rfl, hb, hb', h⟩ := decodeFrom_more h
    obtain ⟨d, rest, rfl, hd, hd', h⟩ := decodeFrom_more h
    obtain ⟨e, rest, c, t', rfl, rfl, hrest, hleast, he, he', hc⟩ := decodeFrom_one h
    have hchar : encodeChar c = [a, b, d, e] :=
      encodeChar_four hleast (by omega) (by omega) (by omega) (by omega)
    exact ⟨c, t', rest, rfl, by rw [hchar]; rfl, hrest⟩
  · cases h

theorem encodeChar_ne_nil (c : Char) : encodeChar c ≠ [] := by
  rw [encodeChar]
  split
  · exact List.cons_ne_nil _ _
  split
  · exact List.cons_ne_nil _ _
  split
  · exact List.cons_ne_nil _ _
  · exact List.cons_ne_nil _ _

theorem encode_eq_nil_iff {t : Text} : encode t = [] ↔ t = [] := by
  rw [encode, List.flatMap_eq_nil_iff]
  constructor
  · intro h
    apply List.eq_nil_iff_forall_not_mem.2
    intro c hc
    exact encodeChar_ne_nil c (h c hc)
  · rintro rfl c hc
    cases hc

theorem eq_encode_of_decode {bytes : List UInt8} {t : Text} (h : decode bytes = some t) :
    bytes = encode t := by
  induction hn : bytes.length using Nat.strongRecOn generalizing bytes t with
  | ind n ih =>
    cases bytes with
    | nil =>
      cases h
      rfl
    | cons b rest =>
      obtain ⟨c, t', rest', rfl, hbytes, hrest⟩ := decodeFrom_cons h
      have hshorter : rest'.length < n := by
        have hpos := List.length_pos_iff.2 (encodeChar_ne_nil c)
        rw [← hn, hbytes, List.length_append]
        omega
      rw [hbytes, encode_cons, ih _ hshorter hrest rfl]

/-- **Bytes decode to a text exactly if they are its encoding.** -/
theorem decode_eq_some_iff {bytes : List UInt8} {t : Text} :
    decode bytes = some t ↔ bytes = encode t := by
  constructor
  · exact eq_encode_of_decode
  · rintro rfl
    exact decode_encode t

/-! ### Bytes of single characters -/

/-- The bytes of a character that is not of seven bits all have the eighth. -/
theorem le_of_mem_encodeChar {c : Char} {b : UInt8} (hc : 0x80 ≤ c.toNat) (h : b ∈ encodeChar c) :
    0x80 ≤ b.toNat := by
  have hvalid := c.valid
  rw [UInt32.isValidChar, Nat.isValidChar] at hvalid
  have hval : c.val.toNat = c.toNat := rfl
  rw [encodeChar, if_neg (by omega)] at h
  split at h
  · simp only [List.mem_cons, List.not_mem_nil, or_false] at h
    rcases h with rfl | rfl <;> rw [toNat_ofNat_lt (by omega)] <;> omega
  split at h
  · simp only [List.mem_cons, List.not_mem_nil, or_false] at h
    rcases h with rfl | rfl | rfl <;> rw [toNat_ofNat_lt (by omega)] <;> omega
  · simp only [List.mem_cons, List.not_mem_nil, or_false] at h
    rcases h with rfl | rfl | rfl | rfl <;> rw [toNat_ofNat_lt (by omega)] <;> omega

/-- A byte below 0x80 stands for its own character and is no part of another one. -/
theorem mem_encodeChar_iff {c : Char} {b : UInt8} (hb : b.toNat < 0x80) :
    b ∈ encodeChar c ↔ c.toNat = b.toNat := by
  by_cases hc : c.toNat < 0x80
  · rw [encodeChar_of_lt hc, List.mem_singleton]
    constructor
    · rintro rfl
      rw [toNat_ofNat_lt (by omega)]
    · intro h
      rw [h, UInt8.ofNat_toNat]
  · constructor
    · intro h
      have := le_of_mem_encodeChar (by omega) h
      omega
    · intro h
      omega

end LogCatalog.Text.Utf8
