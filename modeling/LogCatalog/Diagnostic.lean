import LogCatalog.Text.Basic

/-!
# Diagnostics

What is wrong with one line of a table, or was changed in it.  A diagnostic of a fatal kind rejects
the line.
-/

namespace LogCatalog

namespace Diagnostic

inductive Kind where
  | blankName | nameNormalized | nameCharacterReplaced | fieldCount | idFormat | levelFormat
  | tooManyPlaceholders | reservedPlaceholderName | placeholderLabelMissing | placeholderLabelExtra
  | placeholderLabelMismatch | duplicateName | duplicateIdentifier | missingLocalization
  | localizationPlaceholderMismatch | localizationPlaceholderPosition
  deriving DecidableEq, Repr

namespace Kind

def all : List Kind :=
  [blankName, nameNormalized, nameCharacterReplaced, fieldCount, idFormat, levelFormat,
    tooManyPlaceholders, reservedPlaceholderName, placeholderLabelMissing, placeholderLabelExtra,
    placeholderLabelMismatch, duplicateName, duplicateIdentifier, missingLocalization,
    localizationPlaceholderMismatch, localizationPlaceholderPosition]

def label : Kind → Text
  | blankName => "BlankName"
  | nameNormalized => "NameNormalized"
  | nameCharacterReplaced => "NameCharacterReplaced"
  | fieldCount => "FieldCount"
  | idFormat => "IdFormat"
  | levelFormat => "LevelFormat"
  | tooManyPlaceholders => "TooManyPlaceholders"
  | reservedPlaceholderName => "ReservedPlaceholderName"
  | placeholderLabelMissing => "PlaceholderLabelMissing"
  | placeholderLabelExtra => "PlaceholderLabelExtra"
  | placeholderLabelMismatch => "PlaceholderLabelMismatch"
  | duplicateName => "DuplicateName"
  | duplicateIdentifier => "DuplicateIdentifier"
  | missingLocalization => "MissingLocalization"
  | localizationPlaceholderMismatch => "LocalizationPlaceholderMismatch"
  | localizationPlaceholderPosition => "LocalizationPlaceholderPosition"

def ofLabel? (label : Text) : Option Kind := all.find? (·.label == label)

/-- Whether a diagnostic of this kind rejects the line. -/
def isFatal : Kind → Bool
  | nameNormalized | nameCharacterReplaced | placeholderLabelExtra | placeholderLabelMismatch
  | localizationPlaceholderMismatch => false
  | _ => true

theorem mem_all (k : Kind) : k ∈ all := by cases k <;> decide

end Kind

end Diagnostic

/-- One remark on one line. -/
structure Diagnostic where
  /-- The number of the line; the first line has number one. -/
  line : Nat
  /-- The number of the column, from zero on, where the remark is about one column. -/
  field : Option Nat
  kind : Diagnostic.Kind
  message : Text
  deriving DecidableEq, Repr

namespace Diagnostic

def isFatal (d : Diagnostic) : Bool := d.kind.isFatal

def render (d : Diagnostic) : Text :=
  match d.field with
  | some field =>
    "Line " ++ Text.ofNat d.line ++ ": Field " ++ Text.ofNat field ++ ": " ++ d.message
  | none => "Line " ++ Text.ofNat d.line ++ ": " ++ d.message

end Diagnostic

end LogCatalog
