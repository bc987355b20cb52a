import LogCatalog.Proofs.Text.Trimming
import LogCatalog.Row.Split

/-!
# Cells of a line

Tabs cut a line into cells, and the columns of its row are these cells: only the first one loses the
blanks before it, and only the last one those behind it.  A tab is a blank as well, but it is never
taken away.

* `isSkipped_iff`: the lines without a row.
* `splitOn_strip`: what taking the blanks off a line does to its cells.
* `columns?_padded`: blanks around a line that are no tabs change nothing.
* `columns_of_line`: the columns of every line.
-/

namespace LogCatalog.Row

open Text (isBlank isPadding trimStart trimEnd)

/-! ### Lines without a row -/

/-- A line that is blank, or in which a comment sign comes first but for blanks. -/
def HoldsNoRow (line : Text) : Prop :=
  (∀ c ∈ line, isBlank c = true)
    ∨ ∃ margin sign rest, line = margin ++ sign :: rest ∧ (∀ c ∈ margin, isBlank c = true)
        ∧ (sign = '#' ∨ sign = '/')

theorem isCommentSign_iff {c : Char} : isCommentSign c = true ↔ c = '#' ∨ c = '/' := by
  rw [isCommentSign, Bool.or_eq_true, beq_iff_eq, beq_iff_eq]

theorem isBlank_commentSign {c : Char} (h : c = '#' ∨ c = '/') : isBlank c = false := by
  rcases h with rfl | rfl
  · decide
  · decide

theorem isSkipped_iff {line : Text} : isSkipped line = true ↔ HoldsNoRow line := by
  have hparts := List.takeWhile_append_dropWhile (p := isBlank) (l := line)
  rw [isSkipped, trimStart]
  cases hrest : line.dropWhile isBlank with
  | nil =>
    refine iff_of_true rfl (.inl ?_)
    exact List.dropWhile_eq_nil_iff.1 hrest
  | cons first rest =>
    show isCommentSign first = true ↔ _
    rw [isCommentSign_iff]
    constructor
    · intro hsign
      rw [hrest] at hparts
      exact .inr ⟨line.takeWhile isBlank, first, rest, hparts.symm,
        fun c hc => List.mem_takeWhile_imp hc, hsign⟩
    · rintro (hblank | ⟨margin, sign, more, rfl, hmargin, hsign⟩)
      · rw [List.dropWhile_eq_nil_iff.2 hblank] at hrest
        cases hrest
      · rw [List.dropWhile_append_of_pos hmargin, List.dropWhile_cons_of_neg
          (Bool.eq_false_iff.1 (isBlank_commentSign hsign))] at hrest
        cases hrest
        exact hsign

theorem isSkipped_padded {before after line : Text} (hbefore : ∀ c ∈ before, isBlank c = true)
    (hafter : ∀ c ∈ after, isBlank c = true) :
    isSkipped (before ++ line ++ after) = isSkipped line := by
  rw [isSkipped, isSkipped, trimStart, trimStart, List.append_assoc,
    List.dropWhile_append_of_pos hbefore, List.dropWhile_append]
  cases hrest : line.dropWhile isBlank with
  | nil =>
    rw [List.isEmpty_nil, if_pos rfl, List.dropWhile_eq_nil_iff.2 hafter]
  | cons c rest => rfl

theorem columns?_eq_none_iff {line : Text} : columns? line = none ↔ HoldsNoRow line := by
  rw [columns?, ← isSkipped_iff]
  split
  · next h => exact iff_of_true rfl h
  · next h => exact iff_of_false (Option.some_ne_none _) h

/-! ### Rows -/

theorem isBlank_of_isPadding {c : Char} (h : isPadding c = true) : isBlank c = true :=
  (Bool.and_eq_true_iff.1 h).1

theorem not_mem_of_padding {t : Text} (h : ∀ c ∈ t, isPadding c = true) : '\t' ∉ t := fun hmem =>
  absurd (h '\t' hmem) (by decide)

/-- **Blanks around a line that are no tabs change nothing.** -/
theorem columns?_padded {before after : Text} (hbefore : ∀ c ∈ before, isPadding c = true)
    (hafter : ∀ c ∈ after, isPadding c = true) (line : Text) :
    columns? (before ++ line ++ after) = columns? line := by
  rw [columns?, columns?, Text.strip_padded hbefore hafter,
    isSkipped_padded (fun c hc => isBlank_of_isPadding (hbefore c hc))
      fun c hc => isBlank_of_isPadding (hafter c hc)]

/-- **The cells of a line without the blanks around it.**  Within a cell all blanks may be taken
away, since none of them is a tab. -/
theorem splitOn_strip (line : Text) :
    (Text.strip isPadding line).splitOn '\t'
      = ((line.splitOn '\t').modifyHead trimStart).modifyLast trimEnd := by
  have htab : isPadding '\t' = false := by decide
  have hother : ∀ c : Char, c ≠ '\t' → isPadding c = isBlank c := by
    intro c hc
    rw [isPadding, bne_iff_ne.2 hc, Bool.and_true]
  rw [Text.strip_eq, Text.splitOn_rdropWhile htab hother, Text.splitOn_dropWhile htab hother]
  rfl

theorem columns?_eq_some_iff {line : Text} {columns : List Text} :
    columns? line = some columns ↔
      ¬ HoldsNoRow line ∧ columns = (Text.strip isPadding line).splitOn '\t' := by
  rw [columns?, ← isSkipped_iff]
  split
  · next h => exact iff_of_false (Option.some_ne_none _ ∘ Eq.symm) fun hc => hc.1 h
  · next h => rw [Option.some.injEq, eq_comm, and_iff_right h]

/-- The columns of a row are those of the line that they make. -/
theorem columns?_intercalate {line : Text} {columns : List Text}
    (h : columns? line = some columns) : columns? (['\t'].intercalate columns) = some columns := by
  obtain ⟨-, rfl⟩ := columns?_eq_some_iff.1 h
  obtain ⟨before, after, hline, hbefore, hafter⟩ := Text.exists_eq_padded_strip isPadding line
  have hsame : columns? line = columns? (Text.strip isPadding line) := by
    conv_lhs => rw [hline]
    exact columns?_padded hbefore hafter _
  rw [List.intercalate_splitOn, ← hsame]
  exact h

theorem length_of_columns? {line : Text} {columns : List Text}
    (h : columns? line = some columns) : columns.length = line.count '\t' + 1 := by
  obtain ⟨-, rfl⟩ := columns?_eq_some_iff.1 h
  obtain ⟨before, after, hline, hbefore, hafter⟩ := Text.exists_eq_padded_strip isPadding line
  have hcount : line.count '\t' = (Text.strip isPadding line).count '\t' := by
    conv_lhs => rw [hline]
    rw [List.count_append, List.count_append, List.count_eq_zero.2 (not_mem_of_padding hbefore),
      List.count_eq_zero.2 (not_mem_of_padding hafter), Nat.zero_add, Nat.add_zero]
  rw [Text.length_splitOn, hcount]

/-- **The columns of a line.**  A line has no row exactly if it is blank or a comment sign comes
first in it, but for blanks.  The columns of any other line are its cells, one more than the line
has tabs, where the first cell loses the blanks at its start and the last one those at its end.  So
blanks around the line that are no tabs change nothing, and the line that the columns make has the
same columns. -/
theorem columns_of_line (line : Text) :
    (columns? line = none ↔ HoldsNoRow line)
      ∧ (∀ columns, columns? line = some columns →
          columns.length = line.count '\t' + 1
            ∧ (∃ cells, ['\t'].intercalate cells = line ∧ (∀ cell ∈ cells, '\t' ∉ cell)
                ∧ columns = (cells.modifyHead trimStart).modifyLast trimEnd)
            ∧ columns? (['\t'].intercalate columns) = some columns)
      ∧ ∀ before after, (∀ c ∈ before, isPadding c = true) → (∀ c ∈ after, isPadding c = true) →
          columns? (before ++ line ++ after) = columns? line := by
  refine ⟨columns?_eq_none_iff, fun columns h => ?_, fun before after hbefore hafter =>
    columns?_padded hbefore hafter line⟩
  obtain ⟨-, hcolumns⟩ := columns?_eq_some_iff.1 h
  refine ⟨length_of_columns? h, ⟨line.splitOn '\t', List.intercalate_splitOn _,
    fun cell hcell => Text.not_mem_of_mem_splitOn hcell, ?_⟩, columns?_intercalate h⟩
  rw [hcolumns, splitOn_strip]

end LogCatalog.Row
