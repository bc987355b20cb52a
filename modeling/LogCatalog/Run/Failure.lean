import LogCatalog.Locale.Configured

/-!
# Failures of a run

Why a run gives no definitions.  What is wrong with a single row is a diagnostic and stops no run.
-/

namespace LogCatalog.Run

inductive Failure where
  /-- No row was accepted; the warnings are the reports of the rejected rows. -/
  | nothingValid (warnings : List Text)
  | locales (fault : LocalesFault)
  | unreadable (reason : Text)
  | settings (reason : Text)
  /-- The run was cancelled before the given line. -/
  | cancelled (line : Nat)
  deriving DecidableEq, Repr

namespace Failure

def label : Failure → Text
  | nothingValid _ => "NoValidDefinitions"
  | locales _ => "Locale"
  | unreadable _ => "Io"
  | settings _ => "Config"
  | cancelled _ => "Cancelled"

/-- The reports of the rejected rows. -/
def warnings : Failure → List Text
  | nothingValid warnings => warnings
  | _ => []

def message : Failure → Text
  | nothingValid warnings => "There are no valid messages." ++ warnings.flatMap ('\n' :: ·)
  | locales fault => "locale configuration error: " ++ fault.message
  | unreadable reason => "I/O error: " ++ reason
  | settings reason => "invalid reader configuration: " ++ reason
  | cancelled line => "definition read cancelled before line " ++ Text.ofNat line

end Failure

end LogCatalog.Run
