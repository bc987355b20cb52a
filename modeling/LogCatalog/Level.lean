import LogCatalog.Text.Blank
import LogCatalog.Unicode.Normalization
import LogCatalog.Unicode.Uppercase

/-!
# Levels

The severity of a log message.  A table names a level by any word with the right first letter:
`crit` and `Fatal` are critical, `verbose` is a trace.
-/

namespace LogCatalog

open Unicode

/-- The levels, from the least severe to the most severe. -/
inductive Level where
  | trace | debug | information | warning | error | critical
  deriving DecidableEq, Repr

namespace Level

def all : List Level := [trace, debug, information, warning, error, critical]

def label : Level → Text
  | trace => "Trace"
  | debug => "Debug"
  | information => "Information"
  | warning => "Warning"
  | error => "Error"
  | critical => "Critical"

def rank : Level → Nat
  | trace => 0
  | debug => 1
  | information => 2
  | warning => 3
  | error => 4
  | critical => 5

def sort (levels : List Level) : List Level := levels.mergeSort fun a b => a.rank ≤ b.rank

def ofCapital? : Char → Option Level
  | 'C' | 'F' => some critical
  | 'E' => some error
  | 'W' => some warning
  | 'I' => some information
  | 'D' => some debug
  | 'T' | 'V' => some trace
  | _ => none

/-- The level that a first letter stands for, in either case. -/
def ofInitial? (c : Char) : Option Level := (uppercaseChar c).head?.bind ofCapital?

/-- The first character of a text, with accents and styles taken off. -/
def initial? (t : Text) : Option Char := (normalize .nfkd t).head?

def ofCell? (cell : Text) : Option Level := (initial? (Text.trim cell)).bind ofInitial?

end Level

end LogCatalog
