import LogCatalog.Text.Basic

/-!
# Shortest decimal text of a number

A binary floating-point number stands for all reals that round to it.  Its shortest text has the
fewest digits with which a decimal number is one of these; of two such numbers the nearer one is
taken, and of two equally near ones the even one.
-/

namespace LogCatalog.Text.Shortest

/-- A positive number `mantissa * 2 ^ exponent` with the reals that round to it: those from
`below` to two quarters of a unit of the mantissa around it, where `below` is counted in quarters
too. -/
structure Binary where
  mantissa : Nat
  exponent : Int
  below : Nat

def Binary.ofFloat (f : Float) : Binary :=
  let bits := f.toBits.toNat
  let fraction := bits % 0x10000000000000
  let level : Nat := bits / 0x10000000000000 % 0x800
  if level = 0 then { mantissa := fraction, exponent := -1074, below := 2 }
  else
    { mantissa := 0x10000000000000 + fraction
      exponent := (level : Int) - 1075
      below := if fraction = 0 ∧ 1 < level then 1 else 2 }

/-- A digit sequence, read as a number, and the power of ten that it counts. -/
structure Decimal where
  digits : Nat
  exponent : Int

/-- A multiple of a power of ten among the reals that round to a number. -/
def Binary.multiple? (b : Binary) (exponent : Int) : Option Decimal :=
  -- A real of `x` quarters is compared with `n` tens as `x * quarter` with `n * ten`.
  let quarter := Nat.pow 2 (b.exponent - 2).toNat * Nat.pow 10 (-exponent).toNat
  let ten := Nat.pow 10 exponent.toNat * Nat.pow 2 (2 - b.exponent).toNat
  let value := 4 * b.mantissa * quarter
  let least := (4 * b.mantissa - b.below) * quarter
  let greatest := (4 * b.mantissa + 2) * quarter
  let holds (n : Nat) : Bool :=
    n != 0 && if b.mantissa % 2 = 0 then least ≤ n * ten && n * ten ≤ greatest
      else least < n * ten && n * ten < greatest
  let low := value / ten
  let high := low + 1
  match holds low, holds high with
  | true, true =>
    let toLow := value - low * ten
    let toHigh := high * ten - value
    some ⟨if toLow < toHigh ∨ toLow = toHigh ∧ low % 2 = 0 then low else high, exponent⟩
  | true, false => some ⟨low, exponent⟩
  | false, true => some ⟨high, exponent⟩
  | false, false => none

def Binary.shortest (b : Binary) : Decimal :=
  ((List.range 660).findSome? fun (i : Nat) => b.multiple? (320 - (i : Int))).getD ⟨0, 0⟩

/-- The text of a decimal: positional, with a digit after the point, from 0.00001 to below ten to
the sixteenth, and otherwise with an exponent. -/
def Decimal.text (d : Decimal) : Text :=
  let digits := Text.ofNat d.digits
  let point := digits.length + d.exponent
  if 0 ≤ d.exponent ∧ point ≤ 16 then digits ++ List.replicate d.exponent.toNat '0' ++ ".0"
  else if 0 < point ∧ point ≤ 16 then
    digits.take point.toNat ++ '.' :: digits.drop point.toNat
  else if -5 < point ∧ point ≤ 0 then
    "0." ++ List.replicate (-point).toNat '0' ++ digits
  else
    let power := point - 1
    digits.take 1 ++ (if digits.length = 1 then [] else '.' :: digits.drop 1)
      ++ 'e' :: (if power < 0 then '-' else '+') :: Text.ofNat power.natAbs

def ofFloat (f : Float) : Text :=
  let sign : Text := if f.toBits.toNat < 0x8000000000000000 then [] else ['-']
  let size := f.abs
  sign ++ (if size == 0 then ['0', '.', '0'] else (Binary.ofFloat size).shortest.text)

end LogCatalog.Text.Shortest
