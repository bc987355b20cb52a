import LogCatalog.Proofs.Row.Judging

/-!
# Reading the columns of a row

`Draft.ofColumns` is taken apart into what a row says and what is found in it.

* `partsOf`, `labelFindings`, `contentFindings`: these two, for a row that has enough columns.
* `Harmless`: a list of findings of which none rejects the row.
* `Draft.Accepts.read`: an accepted row has enough columns, its findings are harmless, and its
  definition is made of its parts.
* `Draft.Accepts.message_eq` and so on: what the definition takes over from the row.
-/

namespace LogCatalog.Row

/-- The text of a column, which is empty where the row has no such column. -/
def cellAt (columns : List Text) (column : Nat) : Text := columns[column]?.getD []

def partsOf (locales : Locales) (columns : List Text) : Parts where
  id := MessageId.ofCell? (cellAt columns idColumn)
  name := CanonicalName.ofLabel? (cellAt columns nameColumn)
  level := Level.ofCell? (cellAt columns levelColumn)
  hasException := Text.hasContent (cellAt columns exceptionColumn)
  message := cellAt columns messageColumn
  placeholders :=
    slotPlaceholders (cellAt columns) (Template.names (cellAt columns messageColumn))
  comment := comment? columns
  localizations :=
    localizations columns (Template.names (cellAt columns messageColumn)) locales

def labelFindings (columns : List Text) : List Finding :=
  idFindings (MessageId.ofCell? (cellAt columns idColumn))
    ++ nameFindings (CanonicalName.ofLabel? (cellAt columns nameColumn))

def contentFindings (locales : Locales) (columns : List Text) : List Finding :=
  let names := Template.names (cellAt columns messageColumn)
  levelFindings (Level.ofCell? (cellAt columns levelColumn)) (cellAt columns levelColumn)
    ++ templateFindings names
    ++ slotFindings (cellAt columns) names
    ++ allLocalizationFindings columns names locales

def Harmless (findings : List Finding) : Prop := ∀ f ∈ findings, f.kind.isFatal = false

theorem harmless_append {fs gs : List Finding} :
    Harmless (fs ++ gs) ↔ Harmless fs ∧ Harmless gs := List.forall_mem_append

theorem eq_of_mem_ite {p : Prop} [Decidable p] {f g : Finding} (hf : f ∈ if p then [g] else []) :
    f = g := by
  split at hf
  · exact List.mem_singleton.1 hf
  · cases hf

theorem any_isFatal_onLine {fs : List Finding} {line : Nat} :
    (fs.map (·.onLine line)).any Diagnostic.isFatal = false ↔ Harmless fs := by
  rw [List.any_map, List.any_eq_false]
  refine forall_congr' fun f => forall_congr' fun _ => ?_
  rw [Bool.not_eq_true, Function.comp_apply, isFatal_onLine]

namespace Draft

variable {locales : Locales} {columns : List Text} {line : Nat}

theorem ofColumns_of_lt (h : columns.length < minimumColumns) :
    ofColumns locales columns line =
      { line, parts := none, nameNotes := []
        otherNotes := [(Finding.tooFewColumns columns.length).onLine line] } := by
  rw [ofColumns, if_pos h]

theorem ofColumns_of_le (h : minimumColumns ≤ columns.length) :
    ofColumns locales columns line =
      { line
        parts := some (partsOf locales columns)
        nameNotes := (labelFindings columns).map (·.onLine line)
        otherNotes := (contentFindings locales columns).map (·.onLine line) } := by
  rw [ofColumns, if_neg (Nat.not_lt.2 h)]
  rfl

/-- **What an accepted row was read as.** -/
theorem Accepts.read {r : Registry} {d : Definition}
    (h : (ofColumns locales columns line).Accepts r d) :
    minimumColumns ≤ columns.length ∧ Harmless (labelFindings columns)
      ∧ Harmless (contentFindings locales columns)
      ∧ definition? (partsOf locales columns) (ofColumns locales columns line).diagnostics
          = some d := by
  obtain ⟨parts, hparts, hmade⟩ := h.made
  have hfatal := h.not_fatal
  by_cases hlt : columns.length < minimumColumns
  · rw [ofColumns_of_lt hlt] at hparts
    cases hparts
  · have hle := Nat.not_lt.1 hlt
    rw [ofColumns_of_le hle] at hparts hfatal
    rw [diagnostics, List.any_append, Bool.or_eq_false_iff, any_isFatal_onLine,
      any_isFatal_onLine] at hfatal
    cases hparts
    exact ⟨hle, hfatal.1, hfatal.2, hmade⟩

section

variable {r : Registry} {d : Definition}

theorem Accepts.message_eq (h : (ofColumns locales columns line).Accepts r d) :
    d.message = cellAt columns messageColumn := by
  obtain ⟨-, -, -, hmade⟩ := h.read
  obtain ⟨id, name, level, -, -, -, rfl⟩ := definition?_eq_some_iff.1 hmade
  rfl

theorem Accepts.placeholders_eq (h : (ofColumns locales columns line).Accepts r d) :
    d.placeholders = slotPlaceholders (cellAt columns) (Template.names d.message) := by
  obtain ⟨-, -, -, hmade⟩ := h.read
  obtain ⟨id, name, level, -, -, -, rfl⟩ := definition?_eq_some_iff.1 hmade
  rfl

theorem Accepts.localizations_eq (h : (ofColumns locales columns line).Accepts r d) :
    d.localizations = localizations columns (Template.names d.message) locales := by
  obtain ⟨-, -, -, hmade⟩ := h.read
  obtain ⟨id, name, level, -, -, -, rfl⟩ := definition?_eq_some_iff.1 hmade
  rfl

theorem Accepts.warnings_eq_map (h : (ofColumns locales columns line).Accepts r d) :
    d.warnings
      = (labelFindings columns ++ contentFindings locales columns).map (·.onLine line) := by
  obtain ⟨hwidth, -, -, hmade⟩ := h.read
  obtain ⟨id, name, level, -, -, -, rfl⟩ := definition?_eq_some_iff.1 hmade
  rw [ofColumns_of_le hwidth, diagnostics, List.map_append]

end

end Draft

end LogCatalog.Row
