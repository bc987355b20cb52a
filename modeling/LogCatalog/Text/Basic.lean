/-!
# Text

A text is a list of characters: every rule of this library looks at texts character by character.
Literal texts are written as strings.
-/

namespace LogCatalog

/-- A sequence of characters. -/
abbrev Text := List Char

scoped instance : Coe String Text := ⟨String.toList⟩

namespace Text

def ofNat (n : Nat) : Text := Nat.toDigits 10 n

/-- The hexadecimal digits of a number in capitals, at least four of them. -/
def codePoint (n : Nat) : Text :=
  let digits := (Nat.toDigits 16 n).map Char.toUpper
  List.replicate (4 - digits.length) '0' ++ digits

/-- A text without the characters of a class at its two ends. -/
def strip (p : Char → Bool) (t : Text) : Text :=
  ((t.dropWhile p).reverse.dropWhile p).reverse

def byteLength : Text → Nat
  | [] => 0
  | c :: rest => c.utf8Size + byteLength rest

theorem byteLength_append (s t : Text) :
    byteLength (s ++ t) = byteLength s + byteLength t := by
  induction s with
  | nil => simp [byteLength]
  | cons c rest ih => simp only [List.cons_append, byteLength, ih]; omega

end Text

end LogCatalog
