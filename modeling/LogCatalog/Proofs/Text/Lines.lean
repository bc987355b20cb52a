import LogCatalog.Text.Basic
import Mathlib.Data.List.Basic

/-!
# Lines of a text

A line ends in a line feed, and a carriage return before the line feed belongs to the end of the
line as well.  What follows the last line feed is a line too, unless it is empty.

* `lines`: the lines of a text, without their ends.
* `lines_of_not_mem`, `lines_append_cons`: the lines of a text, one line at a time.
* `withReturns`: the text in which every line ends in a carriage return and a line feed.
-/

namespace LogCatalog.Text

/-- A line without one carriage return at its end. -/
def withoutReturn (line : Text) : Text :=
  if line.getLast? = some '\r' then line.dropLast else line

/-- The lines of a text: the pieces between the line feeds, each without one carriage return at its
end, and at last what follows the last line feed, as it is and only if there is something. -/
def lines (t : Text) : List Text :=
  let pieces := t.splitOn '\n'
  pieces.dropLast.map withoutReturn ++ pieces.getLast?.toList.filter (· ≠ [])

/-- A sequence with a second element put before every occurrence of a first one. -/
def insertBefore {α : Type} [DecidableEq α] (target inserted : α) (s : List α) : List α :=
  s.flatMap fun a => if a = target then [inserted, a] else [a]

/-- A text with a carriage return before every line feed. -/
def withReturns (t : Text) : Text := insertBefore '\n' '\r' t

/-! ### One line after the other -/

theorem lines_of_not_mem {line : Text} (h : '\n' ∉ line) :
    lines line = if line = [] then [] else [line] := by
  rw [lines, List.splitOn_eq_singleton h]
  by_cases hnil : line = []
  · subst hnil
    rfl
  · simp [hnil]

theorem lines_append_cons {line : Text} (h : '\n' ∉ line) (rest : Text) :
    lines (line ++ '\n' :: rest) = withoutReturn line :: lines rest := by
  obtain ⟨piece, pieces, hpieces⟩ := List.exists_cons_of_ne_nil (List.splitOn_ne_nil '\n' rest)
  rw [lines, lines, List.splitOn_append_cons_self_of_not_mem h, hpieces]
  rfl

/-! ### Carriage returns -/

theorem withoutReturn_concat (line : Text) (c : Char) :
    withoutReturn (line ++ [c]) = if c = '\r' then line else line ++ [c] := by
  rw [withoutReturn, List.getLast?_concat, List.dropLast_concat]
  simp only [Option.some.injEq]

section InsertBefore

variable {α : Type} [DecidableEq α] {target inserted : α}

theorem insertBefore_append (s t : List α) :
    insertBefore target inserted (s ++ t)
      = insertBefore target inserted s ++ insertBefore target inserted t :=
  List.flatMap_append

theorem insertBefore_cons (a : α) (s : List α) :
    insertBefore target inserted (a :: s)
      = (if a = target then [inserted, a] else [a]) ++ insertBefore target inserted s :=
  List.flatMap_cons

theorem insertBefore_of_not_mem {s : List α} (h : target ∉ s) :
    insertBefore target inserted s = s := by
  induction s with
  | nil => rfl
  | cons a rest ih =>
    obtain ⟨ha, hrest⟩ := List.ne_and_not_mem_of_not_mem_cons h
    rw [insertBefore_cons, if_neg (Ne.symm ha), ih hrest]
    rfl

end InsertBefore

theorem lines_withReturns_append_cons {line : Text} (h : '\n' ∉ line) (rest : Text) :
    lines (withReturns (line ++ '\n' :: rest)) = line :: lines (withReturns rest) := by
  have hline : '\n' ∉ line ++ ['\r'] := by
    intro hmem
    rcases List.mem_append.1 hmem with hmem | hmem
    · exact h hmem
    · exact absurd (List.mem_singleton.1 hmem) (by decide)
  have happend : withReturns (line ++ '\n' :: rest)
      = (line ++ ['\r']) ++ '\n' :: withReturns rest := by
    rw [withReturns, insertBefore_append, insertBefore_of_not_mem h, insertBefore_cons, if_pos rfl,
      List.append_assoc]
    rfl
  rw [happend, lines_append_cons hline, withoutReturn_concat, if_pos rfl]

end LogCatalog.Text
