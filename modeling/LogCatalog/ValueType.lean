import LogCatalog.Text.Blank

/-!
# Value types

The type of a placeholder's value.  A cell names a type by its own name or by an alias, in any
case of ASCII letters; every other word is kept as it is.
-/

namespace LogCatalog

/-- The types that the catalog knows, and the words that it passes on. -/
inductive ValueType where
  | boolean | char | string | decimal | byte | int16 | int32 | int64 | sbyte | uint16 | uint32
  | uint64 | single | double | dateTimeOffset | timeSpan | exception
  | other (name : Text)
  deriving DecidableEq, Repr

namespace ValueType

def known : List ValueType :=
  [boolean, char, string, decimal, byte, int16, int32, int64, sbyte, uint16, uint32, uint64, single,
    double, dateTimeOffset, timeSpan, exception]

def label : ValueType → Text
  | boolean => "Boolean"
  | char => "Char"
  | string => "String"
  | decimal => "Decimal"
  | byte => "Byte"
  | int16 => "Int16"
  | int32 => "Int32"
  | int64 => "Int64"
  | sbyte => "SByte"
  | uint16 => "UInt16"
  | uint32 => "UInt32"
  | uint64 => "UInt64"
  | single => "Single"
  | double => "Double"
  | dateTimeOffset => "DateTimeOffset"
  | timeSpan => "TimeSpan"
  | exception => "Exception"
  | other name => name

/-- Other words for known types, in small letters.  Some of them are also names. -/
def aliases : List (Text × ValueType) :=
  [("bool", boolean), ("char", char), ("string", string), ("decimal", decimal), ("byte", byte),
    ("short", int16), ("int", int32), ("long", int64), ("sbyte", sbyte), ("ushort", uint16),
    ("uint", uint32), ("ulong", uint64), ("float", single), ("double", double),
    ("datetime", dateTimeOffset), ("date", dateTimeOffset), ("time", dateTimeOffset),
    ("timespan", timeSpan), ("duration", timeSpan), ("interval", timeSpan),
    ("exception", exception)]

def asciiLower (t : Text) : Text := t.map Char.toLower

/-- Every word for a known type, in small letters: the names first, then the aliases. -/
def words : List (Text × ValueType) :=
  known.map (fun type => (asciiLower type.label, type)) ++ aliases

/-- The type that a word without surrounding blanks names. -/
def ofWord (word : Text) : ValueType := (words.lookup (asciiLower word)).getD (other word)

def ofCell? (cell : Text) : Option ValueType :=
  let word := Text.trim cell
  if word = [] then none else some (ofWord word)

def isOther : ValueType → Bool
  | other _ => true
  | _ => false

end ValueType

end LogCatalog
