import LogCatalog.Text.Basic

/-!
# Blank characters

The characters that count as white space, and texts without them at their ends.
-/

namespace LogCatalog.Text

/-- White space: the blanks of every width, the line and paragraph separators, the tab and the
control characters that end a line or a page. -/
def isBlank (c : Char) : Bool :=
  let n := c.toNat
  (0x09 ≤ n && n ≤ 0x0D) || n == 0x20 || n == 0x85 || n == 0xA0 || n == 0x1680
    || (0x2000 ≤ n && n ≤ 0x200A) || n == 0x2028 || n == 0x2029 || n == 0x202F || n == 0x205F
    || n == 0x3000

/-- A blank that does not separate columns. -/
def isPadding (c : Char) : Bool := isBlank c && c != '\t'

def trimStart (t : Text) : Text := t.dropWhile isBlank

def trim (t : Text) : Text := strip isBlank t

def hasContent (t : Text) : Bool := trim t != []

end LogCatalog.Text
