import LogCatalog.Text.Numeral

/-!
# Reading JSON

The steps that read a JSON text from left to right.  Each step gives what it read and what is left,
or stops with a fault and the place of the fault.

* `skipBlanks`: passes over the blanks between tokens.
* `readString`: reads a string after its opening quotation mark.
-/

namespace LogCatalog.Json

inductive Fault where
  | endInValue | endInList | endInObject | endInString
  | expectedColon | expectedListEnd | expectedObjectEnd | expectedWord | expectedValue
  | badEscape | badNumber | numberOutOfRange | controlCharacter | keyNotString
  | loneSurrogate | unfinishedSurrogate | trailingComma | trailingCharacters
  /-- A value of another type than expected. -/
  | wrongType (found expected : Text)
  | unknownField (name expected : Text)
  | repeatedField (name : Text)
  deriving DecidableEq, Repr

def Fault.message : Fault → Text
  | endInValue => "EOF while parsing a value"
  | endInList => "EOF while parsing a list"
  | endInObject => "EOF while parsing an object"
  | endInString => "EOF while parsing a string"
  | expectedColon => "expected `:`"
  | expectedListEnd => "expected `,` or `]`"
  | expectedObjectEnd => "expected `,` or `\x7d`"
  | expectedWord => "expected ident"
  | expectedValue => "expected value"
  | badEscape => "invalid escape"
  | badNumber => "invalid number"
  | numberOutOfRange => "number out of range"
  | controlCharacter => "control character (\\u0000-\\u001F) found while parsing a string"
  | keyNotString => "key must be a string"
  | loneSurrogate => "lone leading surrogate in hex escape"
  | unfinishedSurrogate => "unexpected end of hex escape"
  | trailingComma => "trailing comma"
  | trailingCharacters => "trailing characters"
  | wrongType found expected => "invalid type: " ++ found ++ ", expected " ++ expected
  | unknownField name expected => "unknown field `" ++ name ++ "`, expected `" ++ expected ++ "`"
  | repeatedField name => "duplicate field `" ++ name ++ "`"

/-- A fault and the number of bytes of the text that are left at its place. -/
structure Halt where
  fault : Fault
  left : Nat
  deriving DecidableEq, Repr

namespace Halt

def before (fault : Fault) (rest : Text) : Halt := ⟨fault, Text.byteLength rest⟩

/-- A fault at the first byte of what is left of the text, or at its end. -/
def within (fault : Fault) (rest : Text) : Halt := ⟨fault, Text.byteLength rest - 1⟩

end Halt

/-- The line and the column that are reached after a number of bytes of a text. -/
def positionAfter (line column : Nat) : Nat → Text → Nat × Nat
  | 0, _ => (line, column)
  | _, [] => (line, column)
  | bytes + 1, c :: rest =>
    if c = '\n' then positionAfter (line + 1) 0 bytes rest
    else
      let step := min c.utf8Size (bytes + 1)
      positionAfter line (column + step) (bytes + 1 - step) rest

/-- The report of a fault in a text.  Lines are counted from one, and columns in bytes. -/
def Halt.report (halt : Halt) (document : Text) : Text :=
  let (line, column) := positionAfter 1 0 (Text.byteLength document - halt.left) document
  halt.fault.message ++ " at line " ++ Text.ofNat line ++ " column " ++ Text.ofNat column

/-- A value read from a text, and what is left of the text: less than there was. -/
abbrev Read (α : Type) (t : Text) := { r : α × Text // r.2.length < t.length }

def isJsonBlank (c : Char) : Bool := c == ' ' || c == '\n' || c == '\t' || c == '\r'

def skipBlanks (t : Text) : Text := t.dropWhile isJsonBlank

theorem length_skipBlanks_le (t : Text) : (skipBlanks t).length ≤ t.length :=
  (List.dropWhile_sublist isJsonBlank).length_le

def readFourDigits (t : Text) : Except Halt (Read Nat t) :=
  match t with
  | a :: b :: c :: d :: rest =>
    match Text.readNumber 16 [a, b, c, d] with
    | some n => .ok ⟨(n, rest), by simp only [List.length_cons]; omega⟩
    | none => .error ⟨.badEscape, Text.byteLength (a :: b :: c :: d :: rest) - 4⟩
  | short =>
    if Text.byteLength short < 4 then .error ⟨.endInString, 0⟩
    else .error ⟨.badEscape, Text.byteLength short - 4⟩

def isHighSurrogate (n : Nat) : Bool := 0xD800 ≤ n && n < 0xDC00

def isLowSurrogate (n : Nat) : Bool := 0xDC00 ≤ n && n < 0xE000

/-- Reads the digits of an escape `\u`, and after a high surrogate the low one. -/
def readCodePoint (t : Text) : Except Halt (Read Char t) := do
  let ⟨(high, rest), h⟩ ← readFourDigits t
  if isLowSurrogate high then .error (.before .loneSurrogate rest)
  else if isHighSurrogate high = false then .ok ⟨(Char.ofNat high, rest), h⟩
  else
    match rest, h with
    | '\\' :: 'u' :: rest, h => do
      let ⟨(low, rest'), h'⟩ ← readFourDigits rest
      if isLowSurrogate low then
        .ok ⟨(Char.ofNat ((high - 0xD800) * 0x400 + (low - 0xDC00) + 0x10000), rest'),
          by simp only [List.length_cons] at h h' ⊢; omega⟩
      else .error (.before .loneSurrogate rest')
    | ['\\'], _ => .error (.before .endInString [])
    | '\\' :: rest, _ => .error (.within .unfinishedSurrogate rest)
    | [], _ => .error (.before .endInString [])
    | rest, _ => .error (.within .unfinishedSurrogate rest)

def escaped? : Char → Option Char
  | '"' => some '"'
  | '\\' => some '\\'
  | '/' => some '/'
  | 'b' => some '\x08'
  | 'f' => some '\x0c'
  | 'n' => some '\n'
  | 'r' => some '\r'
  | 't' => some '\t'
  | _ => none

def readEscape (t : Text) : Except Halt (Read Char t) :=
  match t with
  | [] => .error (.before .endInString [])
  | 'u' :: rest => do
    let ⟨(c, rest'), h⟩ ← readCodePoint rest
    .ok ⟨(c, rest'), by simp only [List.length_cons] at h ⊢; omega⟩
  | e :: rest =>
    match escaped? e with
    | some c => .ok ⟨(c, rest), by simp⟩
    | none => .error (.within .badEscape (e :: rest))

def readString (t : Text) : Except Halt (Read Text t) :=
  match t with
  | [] => .error (.before .endInString [])
  | '"' :: rest => .ok ⟨([], rest), by simp⟩
  | '\\' :: rest => do
    let ⟨(c, rest'), h⟩ ← readEscape rest
    have shorter : rest'.length < rest.length + 1 := Nat.lt_succ_of_lt h
    let ⟨(s, rest''), h'⟩ ← readString rest'
    .ok ⟨(c :: s, rest''), by simp only [List.length_cons] at h h' ⊢; omega⟩
  | c :: rest =>
    if c.toNat < 0x20 then .error (.before .controlCharacter rest)
    else do
      let ⟨(s, rest'), h⟩ ← readString rest
      .ok ⟨(c :: s, rest'), by simp only [List.length_cons] at h ⊢; omega⟩
  termination_by t.length
  decreasing_by
    · exact shorter
    · exact Nat.lt_succ_self rest.length

/-- Reads the letters of a word that remain after its first letter. -/
def readWord : Text → Text → Except Halt Text
  | [], rest => .ok rest
  | _ :: _, [] => .error (.before .endInValue [])
  | expected :: word, c :: rest =>
    if c = expected then readWord word rest else .error (.within .expectedWord (c :: rest))

end LogCatalog.Json
