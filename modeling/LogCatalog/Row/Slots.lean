import LogCatalog.Definition
import LogCatalog.Row.Finding
import LogCatalog.Text.Blank
import LogCatalog.Unicode.Lowercase

/-!
# Placeholder slots

Each of the six slots of a row names and types the placeholder of the template at the same place.
A slot is checked by itself, against the name that the template has there, if it has one.
-/

namespace LogCatalog.Row

structure Slot where
  /-- The placeholder name, without surrounding blanks. -/
  label : Text
  /-- The placeholder type, where there is one. -/
  type : Option ValueType
  deriving DecidableEq, Repr

namespace Slot

def ofCells (nameCell typeCell : Text) : Slot where
  label := Text.trim nameCell
  type := ValueType.ofCell? typeCell

/-- What is found in a slot for which the template has a placeholder.  A label may differ from the
name in case. -/
def findingsFor (s : Slot) (slot : Nat) (expected : Text) : List Finding :=
  (if s.label = [] then [.missingSlotName slot expected] else [])
    ++ (if s.type = none then [.missingSlotType slot expected] else [])
    ++ (if s.label ≠ [] ∧ Unicode.sameIgnoringCase expected s.label = false then
        [.mislabelledSlot slot expected s.label] else [])

/-- What is found in a slot for which the template has no placeholder.  A type without a label is
passed over. -/
def findingsBeyond (s : Slot) (slot : Nat) : List Finding :=
  if s.label = [] then []
  else .extraSlotName slot s.label
    :: (if s.type = none then [] else [.extraSlotType slot s.label])

def findings (s : Slot) (slot : Nat) : Option Text → List Finding
  | some expected => s.findingsFor slot expected
  | none => s.findingsBeyond slot

/-- The placeholder that a slot declares: the name is that of the template. -/
def placeholder? (s : Slot) : Option Text → Option Placeholder
  | some expected =>
    if s.label = [] then none else s.type.map fun type => { name := expected, type }
  | none => none

end Slot

def slotAt (cell : Nat → Text) (slot : Nat) : Slot :=
  .ofCells (cell (slotNameColumn slot)) (cell (slotTypeColumn slot))

def slotFindings (cell : Nat → Text) (names : List Text) : List Finding :=
  (List.range slotCount).flatMap fun slot => (slotAt cell slot).findings slot names[slot]?

def slotPlaceholders (cell : Nat → Text) (names : List Text) : List Placeholder :=
  (List.range slotCount).filterMap fun slot => (slotAt cell slot).placeholder? names[slot]?

end LogCatalog.Row
