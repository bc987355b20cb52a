import LogCatalog.Json.Reading
import LogCatalog.Text.Shortest

/-!
# Numbers in JSON

A number without fraction and exponent is an integer as long as it fits in 64 bits.  Every other
number is a floating-point one: its leading digits, as many as fit in 64 bits, are scaled by a power
of ten.
-/

namespace LogCatalog.Json

inductive Number where
  | natural (n : Nat)
  | negative (n : Nat)
  | float (value : Float)

namespace Number

def describe : Number → Text
  | natural n => "integer `" ++ Text.ofNat n ++ "`"
  | negative n => "integer `-" ++ Text.ofNat n ++ "`"
  | float value => "floating point `" ++ Text.Shortest.ofFloat value ++ "`"

def greatest : Nat := 0xFFFFFFFFFFFFFFFF

/-- Takes in digits as long as the significand fits, and counts them. -/
def absorb (significand count : Nat) : Text → Nat × Nat × Text
  | [] => (significand, count, [])
  | c :: rest =>
    match Text.digitIn? 10 c with
    | none => (significand, count, c :: rest)
    | some digit =>
      if greatest < significand * 10 + digit then (significand, count, c :: rest)
      else absorb (significand * 10 + digit) (count + 1) rest

def tenTo (n : Nat) : Float := Float.ofScientific 1 false n

/-- Scales a number by a power of ten, in steps that a floating-point number can express.  Three
steps down leave nothing of a significand. -/
def scale : Nat → Float → Int → Option Float
  | 0, f, _ => some f
  | steps + 1, f, exponent =>
    if exponent.natAbs ≤ 308 then
      if 0 ≤ exponent then
        let g := f * tenTo exponent.natAbs
        if g.isInf then none else some g
      else some (f / tenTo exponent.natAbs)
    else if f == 0 then some f
    else if 0 ≤ exponent then none
    else scale steps (f / tenTo 308) (exponent + 308)

/-- The number of a sign, a significand and a power of ten; `rest` is what follows it. -/
def ofParts (negative : Bool) (significand : Nat) (exponent : Int) (rest : Text) :
    Except Halt (Number × Text) :=
  match scale 4 (Float.ofScientific significand false 0) exponent with
  | none => .error (.before .numberOutOfRange rest)
  | some f => .ok (float (if negative then -f else f), rest)

/-- The exponent up to which digits are counted. -/
def greatestExponent : Nat := 0x7FFFFFFF

def readPower (negative : Bool) (significand : Nat) (exponent : Int) (down : Bool) (power : Nat) :
    Text → Except Halt (Number × Text)
  | [] => ofParts negative significand (if down then exponent - power else exponent + power) []
  | c :: rest =>
    match Text.digitIn? 10 c with
    | none =>
      ofParts negative significand (if down then exponent - power else exponent + power) (c :: rest)
    | some digit =>
      if greatestExponent < power * 10 + digit then
        if significand ≠ 0 ∧ down = false then .error (.before .numberOutOfRange rest)
        else .ok (float (if negative then -0 else 0), rest.dropWhile Char.isDigit)
      else readPower negative significand exponent down (power * 10 + digit) rest

def readExponent (negative : Bool) (significand : Nat) (exponent : Int) (t : Text) :
    Except Halt (Number × Text) :=
  let (down, digits) : Bool × Text :=
    match t with
    | '+' :: rest => (false, rest)
    | '-' :: rest => (true, rest)
    | rest => (false, rest)
  match digits with
  | [] => .error (.before .endInValue [])
  | c :: _ =>
    if c.isDigit then readPower negative significand exponent down 0 digits
    else .error (.within .badNumber digits)

def readScale (negative : Bool) (significand : Nat) (exponent : Int) :
    Text → Except Halt (Number × Text)
  | 'e' :: rest | 'E' :: rest => readExponent negative significand exponent rest
  | rest => ofParts negative significand exponent rest

def readFraction (negative : Bool) (significand : Nat) (exponent : Int) (t : Text) :
    Except Halt (Number × Text) :=
  match t with
  | [] => .error (.before .endInValue [])
  | c :: _ =>
    if c.isDigit then
      let (significand, count, rest) := absorb significand 0 t
      readScale negative significand (exponent - count) (rest.dropWhile Char.isDigit)
    else .error (.within .badNumber t)

/-- Reads what follows the digits of an integer; `dropped` of them did not fit. -/
def readTail (negative : Bool) (significand dropped : Nat) :
    Text → Except Halt (Number × Text)
  | '.' :: rest => readFraction negative significand dropped rest
  | rest =>
    match rest with
    | 'e' :: _ | 'E' :: _ => readScale negative significand dropped rest
    | _ =>
      if dropped ≠ 0 then ofParts negative significand dropped rest
      else if negative = false then .ok (natural significand, rest)
      else if significand = 0 ∨ 0x8000000000000000 < significand then
        -- Minus zero and what lies below the least integer of 64 bits are floating-point numbers.
        ofParts true significand 0 rest
      else .ok (Number.negative significand, rest)

def read (negative : Bool) (t : Text) : Except Halt (Number × Text) :=
  match t with
  | [] => .error (.before .endInValue [])
  | '0' :: rest =>
    if rest.head?.any Char.isDigit then .error (.within .badNumber rest)
    else readTail negative 0 0 rest
  | c :: _ =>
    if c.isDigit then
      let (significand, _, rest) := absorb 0 0 t
      let dropped := rest.takeWhile Char.isDigit
      readTail negative significand dropped.length (rest.dropWhile Char.isDigit)
    else .error (.within .badNumber t)

end Number

end LogCatalog.Json
