import LogCatalog.Diagnostic
import LogCatalog.Locale
import LogCatalog.Name
import LogCatalog.Row.Layout
import LogCatalog.Template.Comparison

/-!
# Findings

Everything that can be found in a row: what was found, the column that it is about, and the words
that tell of it.
-/

namespace LogCatalog.Row

/-- Something found in a row. -/
inductive Finding where
  | tooFewColumns (count : Nat)
  | malformedId
  | blankName
  | changedName (change : NameChange)
  | takenName (name : Text) (line : Nat)
  | takenIdentifier (identifier : Text) (line : Nat)
  | unknownLevel (cell : Text)
  | tooManyPlaceholders (count : Nat)
  | reservedPlaceholder (name : Text) (place : Nat)
  | missingSlotName (slot : Nat) (expected : Text)
  | missingSlotType (slot : Nat) (expected : Text)
  | extraSlotName (slot : Nat) (label : Text)
  | extraSlotType (slot : Nat) (label : Text)
  | mislabelledSlot (slot : Nat) (expected label : Text)
  | absentLocalization (place : Nat) (locale : Locale)
  | missingInLocalization (place : Nat) (locale : Locale) (name : Text)
  | extraInLocalization (place : Nat) (locale : Locale) (name : Text)
  | misplacedInLocalization (place : Nat) (locale : Locale) (misplaced : Template.Misplaced)
  deriving DecidableEq, Repr

namespace Finding

def kind : Finding → Diagnostic.Kind
  | tooFewColumns _ => .fieldCount
  | malformedId => .idFormat
  | blankName => .blankName
  | changedName (.respelled ..) => .nameNormalized
  | changedName (.replaced ..) => .nameCharacterReplaced
  | takenName .. => .duplicateName
  | takenIdentifier .. => .duplicateIdentifier
  | unknownLevel _ => .levelFormat
  | tooManyPlaceholders _ => .tooManyPlaceholders
  | reservedPlaceholder .. => .reservedPlaceholderName
  | missingSlotName .. | missingSlotType .. => .placeholderLabelMissing
  | extraSlotName .. | extraSlotType .. => .placeholderLabelExtra
  | mislabelledSlot .. => .placeholderLabelMismatch
  | absentLocalization .. => .missingLocalization
  | missingInLocalization .. | extraInLocalization .. => .localizationPlaceholderMismatch
  | misplacedInLocalization .. => .localizationPlaceholderPosition

def column : Finding → Option Nat
  | tooFewColumns _ => none
  | malformedId => some idColumn
  | blankName | changedName _ | takenName .. | takenIdentifier .. => some nameColumn
  | unknownLevel _ => some levelColumn
  | tooManyPlaceholders _ | reservedPlaceholder .. => some messageColumn
  | missingSlotName slot _ | extraSlotName slot _ | mislabelledSlot slot .. =>
    some (slotNameColumn slot)
  | missingSlotType slot _ | extraSlotType slot _ => some (slotTypeColumn slot)
  | absentLocalization place _ | missingInLocalization place .. | extraInLocalization place ..
  | misplacedInLocalization place .. => some (localizationColumn place)

def braced (name : Text) : Text := '\x7b' :: name ++ ['\x7d']

def ofSlot (quoted : Text) (slot : Nat) : Text :=
  "of placeholder '" ++ quoted ++ "'(index " ++ Text.ofNat slot ++ ")"

def localizationFor (locale : Locale) : Text := "Localization for '" ++ locale.tag ++ "' "

def message : Finding → Text
  | tooFewColumns count =>
    "This line only contains " ++ Text.ofNat count ++ " fields. " ++ Text.ofNat minimumColumns
      ++ " fields are required."
  | malformedId => "ID format is not valid. It must be decimal or hexa-decimal integer."
  | blankName => "Name cannot be blank."
  | changedName change => change.message
  | takenName name line =>
    "Normalized name '" ++ name ++ "' already exists at line " ++ Text.ofNat line ++ "."
  | takenIdentifier identifier line =>
    "Escaped name '" ++ identifier ++ "' already exists at line " ++ Text.ofNat line ++ "."
  | unknownLevel cell => "Unknown level '" ++ cell ++ "'."
  | tooManyPlaceholders count =>
    "Too many placeholders. Maximum allowed count is " ++ Text.ofNat slotCount
      ++ ", but there are " ++ Text.ofNat count ++ " placeholders."
  | reservedPlaceholder name place =>
    "Placeholder name '" ++ name ++ "' at index " ++ Text.ofNat place ++ " is reserved."
  | missingSlotName slot expected =>
    "Name label " ++ ofSlot (braced expected) slot ++ " may be missing."
  | missingSlotType slot expected =>
    "Type information " ++ ofSlot (braced expected) slot ++ " may be missing."
  | extraSlotName slot label => "Name label " ++ ofSlot label slot ++ " may be extra."
  | extraSlotType slot label => "Type information " ++ ofSlot label slot ++ " may be extra."
  | mislabelledSlot slot expected label =>
    "Name label " ++ ofSlot (braced expected) slot ++ " should not be '" ++ label ++ "'."
  | absentLocalization _ locale => localizationFor locale ++ "is missing."
  | missingInLocalization _ locale name =>
    localizationFor locale ++ "does not contain placeholder '" ++ braced name ++ "'."
  | extraInLocalization _ locale name =>
    localizationFor locale ++ "has extra placeholder '" ++ braced name ++ "'."
  | misplacedInLocalization _ locale misplaced =>
    localizationFor locale ++ "has placeholder position error. A placeholder '"
      ++ braced misplaced.name ++ "' must be at index " ++ Text.ofNat misplaced.expected
      ++ " but placed at index " ++ Text.ofNat misplaced.actual ++ "."

def onLine (f : Finding) (line : Nat) : Diagnostic where
  line := line
  field := f.column
  kind := f.kind
  message := f.message

end Finding

end LogCatalog.Row
