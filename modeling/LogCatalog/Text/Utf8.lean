import LogCatalog.Text.Basic

/-!
# UTF-8

The encoding of texts as bytes.

* `decode_encode`: what is encoded is decoded to the same text.
-/

namespace LogCatalog.Text.Utf8

def encodeChar (c : Char) : List UInt8 :=
  let n := c.toNat
  if n < 0x80 then [.ofNat n]
  else if n < 0x800 then [.ofNat (0xC0 + n / 0x40), .ofNat (0x80 + n % 0x40)]
  else if n < 0x10000 then
    [.ofNat (0xE0 + n / 0x1000), .ofNat (0x80 + n / 0x40 % 0x40), .ofNat (0x80 + n % 0x40)]
  else
    [.ofNat (0xF0 + n / 0x40000), .ofNat (0x80 + n / 0x1000 % 0x40),
      .ofNat (0x80 + n / 0x40 % 0x40), .ofNat (0x80 + n % 0x40)]

def encode (t : Text) : List UInt8 := t.flatMap encodeChar

/-- The six bits that a byte adds to a character, if it is one that continues a character. -/
def continuation? (b : UInt8) : Option Nat :=
  let n := b.toNat
  if 0x80 ≤ n ∧ n < 0xC0 then some (n - 0x80) else none

/-- The character with a code point, unless fewer bytes than were read would do for it. -/
def charFrom? (least n : Nat) : Option Char :=
  if n.isValidChar ∧ least ≤ n then some (Char.ofNat n) else none

/-- Decodes bytes.  `owed` bytes are still to come for a character, `value` are its bits so far, and
`least` is the least code point that needs so many bytes. -/
def decodeFrom : Nat → Nat → Nat → List UInt8 → Option Text
  | 0, _, _, [] => some []
  | _ + 1, _, _, [] => none
  | 0, _, _, b :: rest =>
    let n := b.toNat
    if n < 0x80 then (decodeFrom 0 0 0 rest).map (Char.ofNat n :: ·)
    else if n < 0xC0 then none
    else if n < 0xE0 then decodeFrom 1 0x80 (n - 0xC0) rest
    else if n < 0xF0 then decodeFrom 2 0x800 (n - 0xE0) rest
    else if n < 0xF8 then decodeFrom 3 0x10000 (n - 0xF0) rest
    else none
  | owed + 1, least, value, b :: rest =>
    match continuation? b with
    | none => none
    | some bits =>
      if owed = 0 then
        match charFrom? least (value * 0x40 + bits) with
        | none => none
        | some c => (decodeFrom 0 0 0 rest).map (c :: ·)
      else decodeFrom owed least (value * 0x40 + bits) rest

def decode (bytes : List UInt8) : Option Text := decodeFrom 0 0 0 bytes

theorem toNat_ofNat_lt {n : Nat} (h : n < 256) : (UInt8.ofNat n).toNat = n :=
  UInt8.toNat_ofNat_of_lt' h

theorem continuation?_ofNat {n : Nat} (h : n < 0x40) :
    continuation? (.ofNat (0x80 + n)) = some n := by
  rw [continuation?, toNat_ofNat_lt (by omega), if_pos (by omega)]
  exact congrArg some (by omega)

theorem charFrom?_toNat {c : Char} {least : Nat} (h : least ≤ c.toNat) :
    charFrom? least c.toNat = some c := by
  rw [charFrom?, if_pos ⟨c.valid, h⟩, Char.ofNat_toNat]

/-- The bytes of a character decode to it, whatever follows. -/
theorem decodeFrom_encodeChar (c : Char) (rest : List UInt8) :
    decodeFrom 0 0 0 (encodeChar c ++ rest) = (decodeFrom 0 0 0 rest).map (c :: ·) := by
  have hc : c.toNat < 0x110000 := by
    have := c.valid
    rw [UInt32.isValidChar, Nat.isValidChar] at this
    have : c.val.toNat = c.toNat := rfl
    omega
  have last (value : Nat) (least : Nat) (h : value * 0x40 + c.toNat % 0x40 = c.toNat)
      (hl : least ≤ c.toNat) :
      decodeFrom 1 least value (.ofNat (0x80 + c.toNat % 0x40) :: rest)
        = (decodeFrom 0 0 0 rest).map (c :: ·) := by
    rw [decodeFrom, continuation?_ofNat (by omega)]
    simp only [if_true, h, charFrom?_toNat hl]
  rw [encodeChar]
  split
  · rw [List.cons_append, List.nil_append, decodeFrom, toNat_ofNat_lt (by omega),
      if_pos (by assumption), Char.ofNat_toNat]
  split
  · simp only [List.cons_append, List.nil_append]
    rw [decodeFrom, toNat_ofNat_lt (by omega), if_neg (by omega), if_neg (by omega),
      if_pos (by omega)]
    exact last _ _ (by omega) (by omega)
  split
  · simp only [List.cons_append, List.nil_append]
    rw [decodeFrom, toNat_ofNat_lt (by omega), if_neg (by omega), if_neg (by omega),
      if_neg (by omega), if_pos (by omega), decodeFrom, continuation?_ofNat (by omega)]
    exact last _ _ (by omega) (by omega)
  · simp only [List.cons_append, List.nil_append]
    rw [decodeFrom, toNat_ofNat_lt (by omega), if_neg (by omega), if_neg (by omega),
      if_neg (by omega), if_neg (by omega), if_pos (by omega), decodeFrom,
      continuation?_ofNat (by omega)]
    simp only [Nat.succ_ne_zero, if_false]
    rw [decodeFrom, continuation?_ofNat (by omega)]
    exact last _ _ (by omega) (by omega)

theorem decode_encode (t : Text) : decode (encode t) = some t := by
  rw [decode]
  induction t with
  | nil => rfl
  | cons c rest ih =>
    rw [encode, List.flatMap_cons, decodeFrom_encodeChar, ← encode, ih]
    rfl

end LogCatalog.Text.Utf8
