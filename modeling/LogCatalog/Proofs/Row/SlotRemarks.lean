import LogCatalog.Proofs.Row.Places
import LogCatalog.Proofs.Text.Trimming

/-!
# Remarks on slots

A slot has two cells, one for the name of a placeholder and one for its type.  Where the template
has a placeholder, every blank cell is remarked on.  Beyond the placeholders a filled cell is
remarked on, but the cell of the type only if that of the name is filled as well.

* `Slot.Part`: the two cells of a slot.
* `Slot.exists_missing_iff`, `Slot.exists_extra_iff`: what is found in a cell.
* `mem_findings_of_column`: what is found in a column of a slot is found in the slot.
* `remarks_on_slot`: when a cell of a slot is remarked on.
* `not_remarks_on_filled_cells`: a filled cell beyond the placeholders may be passed over.
-/

namespace LogCatalog.Row

variable {f : Finding} {locales : Locales} {columns names : List Text} {line : Nat}

/-! ### One slot -/

namespace Slot

inductive Part where
  | name
  | type
  deriving DecidableEq, Repr

def Part.column : Part → Nat → Nat
  | name, slot => slotNameColumn slot
  | type, slot => slotTypeColumn slot

def Lacks (s : Slot) : Part → Prop
  | .name => s.label = []
  | .type => s.type = none

variable {s : Slot} {slot : Nat} {expected : Option Text} {part : Part}

theorem nameColumn_ne_typeColumn (slot : Nat) :
    some (slotNameColumn slot) ≠ some (slotTypeColumn slot) :=
  fun h => Nat.succ_ne_self _ (Option.some.inj h).symm

/-- **A cell is found missing exactly if the template needs it and it is blank.** -/
theorem exists_missing_iff :
    (∃ f ∈ s.findings slot expected, f.kind = .placeholderLabelMissing
        ∧ f.column = some (part.column slot))
      ↔ expected ≠ none ∧ s.Lacks part := by
  cases expected with
  | none =>
    refine iff_of_false ?_ fun hc => hc.1 rfl
    rintro ⟨f, hf, hkind, -⟩
    rcases mem_findingsBeyond.1 hf with ⟨-, rfl | ⟨-, rfl⟩⟩
    · cases hkind
    · cases hkind
  | some expected =>
    rw [and_iff_right (Option.some_ne_none expected)]
    constructor
    · rintro ⟨f, hf, hkind, hcolumn⟩
      rcases mem_findingsFor.1 hf with ⟨hlabel, rfl⟩ | ⟨htype, rfl⟩ | ⟨-, rfl⟩
      · cases part with
        | name => exact hlabel
        | type => exact (nameColumn_ne_typeColumn slot hcolumn).elim
      · cases part with
        | name => exact (nameColumn_ne_typeColumn slot hcolumn.symm).elim
        | type => exact htype
      · cases hkind
    · intro hlacks
      cases part with
      | name => exact ⟨_, mem_findingsFor.2 (.inl ⟨hlacks, rfl⟩), rfl, rfl⟩
      | type => exact ⟨_, mem_findingsFor.2 (.inr (.inl ⟨hlacks, rfl⟩)), rfl, rfl⟩

/-- **A cell is found extra exactly if the template does not need it and it is filled**, and, where
it is the cell of the type, that of the name is filled too. -/
theorem exists_extra_iff :
    (∃ f ∈ s.findings slot expected, f.kind = .placeholderLabelExtra
        ∧ f.column = some (part.column slot))
      ↔ expected = none ∧ ¬ s.Lacks part ∧ ¬ s.Lacks .name := by
  cases expected with
  | some expected =>
    refine iff_of_false ?_ fun hc => Option.some_ne_none expected hc.1
    rintro ⟨f, hf, hkind, -⟩
    rcases mem_findingsFor.1 hf with ⟨-, rfl⟩ | ⟨-, rfl⟩ | ⟨-, rfl⟩
    · cases hkind
    · cases hkind
    · cases hkind
  | none =>
    rw [and_iff_right rfl]
    constructor
    · rintro ⟨f, hf, -, hcolumn⟩
      rcases mem_findingsBeyond.1 hf with ⟨hlabel, rfl | ⟨htype, rfl⟩⟩
      · cases part with
        | name => exact ⟨hlabel, hlabel⟩
        | type => exact (nameColumn_ne_typeColumn slot hcolumn).elim
      · cases part with
        | name => exact ⟨hlabel, hlabel⟩
        | type => exact ⟨htype, hlabel⟩
    · rintro ⟨hpart, hlabel⟩
      cases part with
      | name => exact ⟨_, mem_findingsBeyond.2 ⟨hlabel, .inl rfl⟩, rfl, rfl⟩
      | type => exact ⟨_, mem_findingsBeyond.2 ⟨hlabel, .inr ⟨hpart, rfl⟩⟩, rfl, rfl⟩

theorem lacks_slotAt_iff {cell : Nat → Text} :
    (slotAt cell slot).Lacks part ↔ ∀ c ∈ cell (part.column slot), Text.isBlank c = true := by
  rw [← Text.trim_eq_nil_iff]
  cases part with
  | name => exact Iff.rfl
  | type =>
    show ValueType.ofCell? (cell (slotTypeColumn slot)) = none ↔ _
    rw [ValueType.ofCell?]
    split
    · next h => exact iff_of_true rfl h
    · next h => exact iff_of_false (Option.some_ne_none _) h

end Slot

/-! ### The slots of a row -/

section

variable {slot : Nat} {part : Slot.Part}

theorem Slot.Part.column_between (part : Slot.Part) (slot : Nat) :
    slotNameColumn slot ≤ part.column slot ∧ part.column slot < slotNameColumn slot + 2 := by
  cases part with
  | name => exact ⟨Nat.le_refl _, by rw [column]; omega⟩
  | type => exact ⟨Nat.le_succ _, Nat.lt_succ_self _⟩

theorem Slot.Part.column_lt (part : Slot.Part) (hslot : slot < slotCount) :
    part.column slot < minimumColumns := by
  have htype := slotTypeColumn_lt hslot
  have hcolumn := (part.column_between slot).2
  rw [slotTypeColumn] at htype
  omega

theorem mem_findings_of_column (hslot : slot < slotCount)
    (hf : f ∈ contentFindings locales columns) (hcolumn : f.column = some (part.column slot)) :
    f ∈ (slotAt (cellAt columns) slot).findings slot
      (Template.names (cellAt columns messageColumn))[slot]? := by
  obtain ⟨hlow, hhigh⟩ := part.column_between slot
  have hlt := part.column_lt hslot
  rw [slotNameColumn, firstSlotColumn] at hlow hhigh
  rw [minimumColumns] at hlt
  rw [contentFindings_eq] at hf
  rcases List.mem_append.1 hf with hbody | hlocalization
  · rcases List.mem_append.1 hbody with hbody | hslots
    · -- the level and the template stand before all slots
      exfalso
      rcases List.mem_append.1 hbody with hlevel | htemplate
      · rw [eq_of_mem_ite hlevel] at hcolumn
        have hat : levelColumn = part.column slot := Option.some.inj hcolumn
        rw [levelColumn] at hat
        omega
      · rw [column_of_mem_templateFindings htemplate, Option.some.injEq, messageColumn] at hcolumn
        omega
    · obtain ⟨other, -, hfound⟩ := List.mem_flatMap.1 hslots
      obtain ⟨column, hat, hle, hbelow⟩ := between_of_mem_findings hfound
      obtain rfl := Option.some.inj (hat.symm.trans hcolumn)
      rw [slotNameColumn, firstSlotColumn] at hle hbelow
      obtain rfl : other = slot := by omega
      exact hfound
  · obtain ⟨⟨place, locale, cell⟩, -, hfound⟩ := List.mem_flatMap.1 hlocalization
    rw [column_of_mem_localizationFindings hfound, Option.some.injEq, localizationColumn,
      firstLocalizationColumn] at hcolumn
    omega

/-- What is remarked on a cell of a slot is what is found there in the slot. -/
theorem exists_note_iff (hwidth : minimumColumns ≤ columns.length) (hslot : slot < slotCount)
    (r : Registry) (kind : Diagnostic.Kind) :
    (∃ note ∈ (validate locales columns line r).1.diagnostics,
        note.kind = kind ∧ note.field = some (part.column slot))
      ↔ ∃ f ∈ (slotAt (cellAt columns) slot).findings slot
          (Template.names (cellAt columns messageColumn))[slot]?,
          f.kind = kind ∧ f.column = some (part.column slot) := by
  have hlow : levelColumn ≤ part.column slot := by
    have := (part.column_between slot).1
    rw [slotNameColumn, firstSlotColumn] at this
    rw [levelColumn]
    omega
  rw [diagnostics_validate hwidth]
  constructor
  · rintro ⟨note, hnote, hkind, hfield⟩
    rcases List.mem_append.1 hnote with hnote | hcontent
    -- What is remarked on the id and the name is about earlier columns.
    · exfalso
      rcases List.mem_append.1 hnote with hlabel | htaken
      · obtain ⟨f, hf, rfl⟩ := List.mem_map.1 hlabel
        exact (between_of_mem_labelFindings hf).column_ne hlow hfield
      · obtain ⟨f, rfl, hcolumn, -⟩ := exists_eq_onLine_of_mem_takenNotes htaken
        have hat : nameColumn = part.column slot := Option.some.inj (hcolumn.symm.trans hfield)
        rw [← hat] at hlow
        exact absurd hlow (by decide)
    · obtain ⟨f, hf, rfl⟩ := List.mem_map.1 hcontent
      exact ⟨f, mem_findings_of_column hslot hf hfield, hkind, hfield⟩
  · rintro ⟨f, hf, hkind, hcolumn⟩
    have hslots : f ∈ slotFindings (cellAt columns)
        (Template.names (cellAt columns messageColumn)) :=
      List.mem_flatMap.2 ⟨slot, List.mem_range.2 hslot, hf⟩
    have hcontent : f ∈ contentFindings locales columns := by
      rw [contentFindings_eq]
      exact List.mem_append_left _ (List.mem_append_right _ hslots)
    exact ⟨f.onLine line, List.mem_append_right _ (List.mem_map_of_mem hcontent), hkind, hcolumn⟩

end

/-- **When a cell of a slot is remarked on.**  Where the template has a placeholder for the slot, a
cell is remarked on as missing exactly if it is blank.  Beyond the placeholders it is remarked on as
extra exactly if it is filled and so is the cell of the name. -/
theorem remarks_on_slot (hwidth : minimumColumns ≤ columns.length) {message label cell : Text}
    (hmessage : columns[messageColumn]? = some message) {slot : Nat} (hslot : slot < slotCount)
    (hlabel : columns[slotNameColumn slot]? = some label) (part : Slot.Part)
    (hcell : columns[part.column slot]? = some cell) (r : Registry) :
    ((∃ note ∈ (validate locales columns line r).1.diagnostics,
        note.kind = .placeholderLabelMissing ∧ note.field = some (part.column slot))
      ↔ slot < (Template.names message).length ∧ ∀ c ∈ cell, Text.isBlank c = true)
    ∧ ((∃ note ∈ (validate locales columns line r).1.diagnostics,
        note.kind = .placeholderLabelExtra ∧ note.field = some (part.column slot))
      ↔ (Template.names message).length ≤ slot ∧ ¬ (∀ c ∈ cell, Text.isBlank c = true)
        ∧ ¬ ∀ c ∈ label, Text.isBlank c = true) := by
  have hat : ∀ {column : Nat} {text : Text}, columns[column]? = some text →
      cellAt columns column = text := by
    intro column text h
    rw [cellAt, h]
    rfl
  have hname : slotNameColumn slot = Slot.Part.name.column slot := rfl
  rw [exists_note_iff hwidth hslot, exists_note_iff hwidth hslot, Slot.exists_missing_iff,
    Slot.exists_extra_iff, Slot.lacks_slotAt_iff, Slot.lacks_slotAt_iff, ← hname, hat hmessage,
    hat hlabel, hat hcell, ne_eq, List.getElem?_eq_none_iff, Nat.not_le]
  exact ⟨Iff.rfl, Iff.rfl⟩

theorem not_blank_cons {c : Char} (h : Text.isBlank c = false) (rest : Text) :
    ¬ ∀ d ∈ c :: rest, Text.isBlank d = true := fun hall => by
  rw [hall c List.mem_cons_self] at h
  cases h

/-- A row with one placeholder.  The slot behind it is filled as well, and of the slot behind that
one only the cell of the type. -/
def staleColumns : List Text :=
  ["1", "Load", "debug", "", "Loaded \x7bcount\x7d", "count", "int", "stale", "string", "", "int",
    "", "", "", "", "", ""]

theorem remarks_on_slot_stale :
    minimumColumns ≤ staleColumns.length
      ∧ staleColumns[messageColumn]? = some ("Loaded \x7bcount\x7d" : Text) ∧ 1 < slotCount
      ∧ staleColumns[slotNameColumn 1]? = some ("stale" : Text)
      ∧ staleColumns[slotTypeColumn 1]? = some ("string" : Text)
      ∧ ∃ note ∈ (validate .empty staleColumns 3 .empty).1.diagnostics,
          note.kind = .placeholderLabelExtra ∧ note.field = some (slotTypeColumn 1) := by
  refine ⟨by decide, rfl, by decide, rfl, rfl, ?_⟩
  exact (remarks_on_slot (by decide) rfl (by decide) rfl .type rfl .empty).2.2
    ⟨by decide, not_blank_cons (by decide) _, not_blank_cons (by decide) _⟩

/-- **A filled cell beyond the placeholders may be passed over**: that of a type without a name. -/
theorem not_remarks_on_filled_cells :
    ¬ ∀ (locales : Locales) (columns : List Text) (line : Nat) (r : Registry) (message : Text)
        (slot : Nat) (part : Slot.Part) (cell : Text),
      minimumColumns ≤ columns.length → columns[messageColumn]? = some message →
      slot < slotCount → columns[part.column slot]? = some cell →
        (slot < (Template.names message).length →
          ((∃ note ∈ (validate locales columns line r).1.diagnostics,
              note.kind = .placeholderLabelMissing ∧ note.field = some (part.column slot))
            ↔ ∀ c ∈ cell, Text.isBlank c = true))
        ∧ ((Template.names message).length ≤ slot →
          ((∃ note ∈ (validate locales columns line r).1.diagnostics,
              note.kind = .placeholderLabelExtra ∧ note.field = some (part.column slot))
            ↔ ¬ ∀ c ∈ cell, Text.isBlank c = true)) := by
  intro h
  have hwidth : minimumColumns ≤ staleColumns.length := by decide
  have hfilled : ¬ ∀ c ∈ ("int" : Text), Text.isBlank c = true := not_blank_cons (by decide) _
  have hextra := ((h .empty staleColumns 3 .empty _ 2 .type _ hwidth rfl (by decide) rfl).2
    (by decide)).2 hfilled
  rw [exists_note_iff hwidth (by decide), Slot.exists_extra_iff] at hextra
  exact hextra.2.2 rfl

end LogCatalog.Row
