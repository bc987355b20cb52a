import LogCatalog.Text.Blank

/-!
# Lines and columns

A line of a table is skipped if it is blank or begins with `#` or `/`.  Any other line is a row, and
tabs separate its columns.
-/

namespace LogCatalog.Row

def isCommentSign (c : Char) : Bool := c == '#' || c == '/'

def isSkipped (line : Text) : Bool :=
  match Text.trimStart line with
  | [] => true
  | c :: _ => isCommentSign c

/-- The columns of a line, unless it is skipped.  Blanks around the line do not belong to it, except
for tabs. -/
def columns? (line : Text) : Option (List Text) :=
  if isSkipped line then none
  else some ((Text.strip Text.isPadding line).splitOn '\t')

end LogCatalog.Row
