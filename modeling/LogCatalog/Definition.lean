import LogCatalog.Diagnostic
import LogCatalog.Level
import LogCatalog.Locale
import LogCatalog.ValueType

/-!
# Definitions

A definition describes one log message: its id and name, its template with the types of its
placeholders, and the translations of the template.
-/

namespace LogCatalog

structure Placeholder where
  name : Text
  type : ValueType
  deriving DecidableEq, Repr

/-- One log message of a catalog. -/
structure Definition where
  id : Nat
  name : Text
  /-- The name with underscores for dots. -/
  identifier : Text
  level : Level
  hasException : Bool
  /-- The template. -/
  message : Text
  /-- The placeholders of the template, in the order of their first holes. -/
  placeholders : List Placeholder
  comment : Option Text
  /-- The translations that were kept, in the order of the configured locales. -/
  localizations : List (Locale × Text)
  /-- What was remarked on the line of the definition. -/
  warnings : List Diagnostic
  deriving DecidableEq, Repr

namespace Definition

def localizedMessage? (d : Definition) (locale : Locale) : Option Text :=
  d.localizations.lookup locale

/-- The template for a locale: its translation or, without one, the template itself. -/
def messageFor (d : Definition) (locale : Option Locale) : Text :=
  (locale.bind d.localizedMessage?).getD d.message

end Definition

end LogCatalog
