/-!
# Columns of a row

A row has an id, a name, a level, a mark for exceptions, a template and six pairs of a placeholder
name and a placeholder type.  A comment may follow, and then one translation for each configured
locale.  Columns are counted from zero.
-/

namespace LogCatalog.Row

/-- The columns that every row has. -/
def minimumColumns : Nat := 17

/-- The pairs of a placeholder name and a placeholder type. -/
def slotCount : Nat := 6

def idColumn : Nat := 0
def nameColumn : Nat := 1
def levelColumn : Nat := 2
def exceptionColumn : Nat := 3
def messageColumn : Nat := 4

def firstSlotColumn : Nat := 5

def commentColumn : Nat := 17

def firstLocalizationColumn : Nat := 18

def slotNameColumn (slot : Nat) : Nat := firstSlotColumn + slot * 2

def slotTypeColumn (slot : Nat) : Nat := slotNameColumn slot + 1

/-- The column of the translation for the locale at a place. -/
def localizationColumn (place : Nat) : Nat := firstLocalizationColumn + place

end LogCatalog.Row
