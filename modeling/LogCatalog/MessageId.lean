import LogCatalog.Text.Blank
import LogCatalog.Text.Numeral

/-!
# Message ids

An id is a number below 2³², written in decimal or, where that fails, in hexadecimal.
-/

namespace LogCatalog

namespace MessageId

/-- One more than the greatest id. -/
def bound : Nat := 0x100000000

def dropSign : Text → Text
  | '+' :: rest => rest
  | t => t

def dropMark : Text → Text
  | '0' :: 'x' :: rest => rest
  | '0' :: 'X' :: rest => rest
  | t => t

def ofDecimal? (t : Text) : Option Nat := (Text.readNumber 10 (dropSign t)).filter (· < bound)

def ofHexadecimal? (t : Text) : Option Nat := (Text.readNumber 16 (dropMark t)).filter (· < bound)

def ofCell? (cell : Text) : Option Nat :=
  let word := Text.trim cell
  (ofDecimal? word).or (ofHexadecimal? word)

end MessageId

end LogCatalog
