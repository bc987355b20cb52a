import LogCatalog.Locale.Configured
import LogCatalog.Text.Utf8

/-!
# Settings

The settings of a run name the locales of the table.  They come as a list of tags between commas,
from an environment variable that holds such a list, or as JSON (`LogCatalog.Settings.Document`).
-/

namespace LogCatalog

/-- The tags of the configured locales, in the order of their columns. -/
structure Settings where
  locales : List Text
  deriving DecidableEq, Repr

namespace Settings

def environmentVariable : Text := "MSGDEF_LOCALES"

def empty : Settings := ⟨[]⟩

/-- Reads tags between commas; blank ones are left out. -/
def ofTagList (list : Text) : Settings where
  locales := ((list.splitOn ',').map Text.trim).filter (· ≠ [])

/-- Reads the value of the environment variable.  A value that is not UTF-8 counts as none. -/
def ofEnvironment (value : Option (List UInt8)) : Settings :=
  match value.bind Text.Utf8.decode with
  | some list => ofTagList list
  | none => empty

def localeSet (s : Settings) : Except LocalesFault Locales := Locales.ofTags s.locales

end Settings

end LogCatalog
