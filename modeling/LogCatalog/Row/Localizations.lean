import LogCatalog.Locale.Configured
import LogCatalog.Row.Finding
import LogCatalog.Template

/-!
# Translations of a row

The row has a column for each configured locale.  A translation is kept if it has exactly the
placeholders of the template, in the same order; one with other placeholders is left out, and one
that only reorders them rejects the row.
-/

namespace LogCatalog.Row

/-- What is found in the translation for one locale; `cell` is its column, where the row has it. -/
def localizationFindings (names : List Text) (place : Nat) (locale : Locale) :
    Option Text → List Finding
  | none => [.absentLocalization place locale]
  | some cell =>
    let comparison := Template.compare names (Template.names cell)
    comparison.missing.map (.missingInLocalization place locale)
      ++ comparison.extra.map (.extraInLocalization place locale)
      ++ comparison.misplaced.map (.misplacedInLocalization place locale)

/-- The translation for one locale, if it is kept. -/
def localization? (names : List Text) (locale : Locale) : Option Text → Option (Locale × Text)
  | none => none
  | some cell =>
    if (Template.compare names (Template.names cell)).isMatch then some (locale, cell) else none

/-- The configured locales with their columns of a row. -/
def localizationCells (columns : List Text) (locales : Locales) :
    List (Nat × Locale × Option Text) :=
  locales.toList.mapIdx fun place locale => (place, locale, columns[localizationColumn place]?)

def allLocalizationFindings (columns : List Text) (names : List Text) (locales : Locales) :
    List Finding :=
  (localizationCells columns locales).flatMap fun (place, locale, cell) =>
    localizationFindings names place locale cell

def localizations (columns : List Text) (names : List Text) (locales : Locales) :
    List (Locale × Text) :=
  (localizationCells columns locales).filterMap fun (_, locale, cell) =>
    localization? names locale cell

end LogCatalog.Row
