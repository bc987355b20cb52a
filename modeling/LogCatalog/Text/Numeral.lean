import LogCatalog.Text.Basic

/-!
# Numerals

The value of a sequence of digits in a base of at most 36.
-/

namespace LogCatalog.Text

/-- The value of a digit, where the letters of either case go on after nine. -/
def digitValue? (c : Char) : Option Nat :=
  if '0' ≤ c ∧ c ≤ '9' then some (c.toNat - '0'.toNat)
  else if 'a' ≤ c ∧ c ≤ 'z' then some (c.toNat - 'a'.toNat + 10)
  else if 'A' ≤ c ∧ c ≤ 'Z' then some (c.toNat - 'A'.toNat + 10)
  else none

def digitIn? (base : Nat) (c : Char) : Option Nat := (digitValue? c).filter (· < base)

/-- Goes on reading digits after those that make `value`. -/
def readDigits (base value : Nat) : Text → Option Nat
  | [] => some value
  | c :: rest => (digitIn? base c).bind fun digit => readDigits base (value * base + digit) rest

def readNumber (base : Nat) (t : Text) : Option Nat :=
  if t = [] then none else readDigits base 0 t

end LogCatalog.Text
