import LogCatalog.Text.Basic

/-!
# Events of a run

A run reports what it does as a sequence of events: that it began, what became of each row, and,
if it came to its end, how many rows it took.
-/

namespace LogCatalog.Run

inductive Mode where
  /-- One line after the other. -/
  | sequential
  /-- All rows are read before the first one is judged. -/
  | parallel
  /-- A stream of bytes. -/
  | reader
  deriving DecidableEq, Repr

def Mode.label : Mode → Text
  | sequential => "sequential"
  | parallel => "parallel"
  | reader => "reader"

inductive Event where
  | began (locales : Nat) (mode : Mode)
  | accepted (line : Nat) (name : Text) (id : Nat)
  | rejected (line diagnostics : Nat)
  | finished (accepted rejected skipped : Nat)
  | nothingValid (rejected : Nat)
  deriving DecidableEq, Repr

inductive Severity where
  | trace | debug | info | warn
  deriving DecidableEq, Repr

def Severity.label : Severity → Text
  | trace => "TRACE"
  | debug => "DEBUG"
  | info => "INFO"
  | warn => "WARN"

inductive Field where
  | number (n : Nat)
  | text (t : Text)
  deriving DecidableEq, Repr

namespace Event

/-- The name of a run, within which its events happen. -/
def runName : Text := "msgdef.build"

/-- Whether the event opens the run, so that the others happen within it. -/
def opensRun : Event → Bool
  | began .. => true
  | _ => false

def title : Event → Text
  | began .. => runName
  | accepted .. => "definition accepted"
  | rejected .. => "definition rejected"
  | finished .. => "definition build finished"
  | nothingValid _ => "no valid definitions"

def severity : Event → Severity
  | began .. | finished .. => .info
  | accepted .. => .trace
  | rejected .. => .debug
  | nothingValid _ => .warn

def fields : Event → List (Text × Field)
  | began locales mode => [("locales", .number locales), ("mode", .text mode.label)]
  | accepted line name id => [("line", .number line), ("name", .text name), ("id", .number id)]
  | rejected line diagnostics => [("line", .number line), ("diagnostics", .number diagnostics)]
  | finished taken refused passed =>
    [("accepted", .number taken), ("rejected", .number refused), ("skipped", .number passed)]
  | nothingValid refused => [("rejected", .number refused)]

end Event

end LogCatalog.Run
