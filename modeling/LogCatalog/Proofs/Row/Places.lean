import LogCatalog.Proofs.Row.Fields

/-!
# Where diagnostics point

A diagnostic names the line of its row and, unless the row is too short to be read, a column.  Those
about the id and the name come first and those about later columns last, and what the registry has
against the name stands between the two.  All columns that a diagnostic is about exist, except for
the column of a translation that is missing.

* `Draft.ofColumns?`: reads a row and gives up at a column that the row does not have;
  `Draft.ofColumns?_eq_some`: it never gives up.
* `diagnostics_validate`: all that is remarked on a row, in its three parts.
* `existing_of_mem_labelFindings`, `existing_of_mem_contentFindings`: whether the column of a
  finding exists.
* `diagnostics_in_place`: where the diagnostics of every row point.
-/

namespace LogCatalog.Row

variable {f : Finding} {locales : Locales} {columns names : List Text} {line : Nat}

/-! ### Columns that are read -/

/-- Reads a slot, unless one of its columns is missing. -/
def slotAt? (columns : List Text) (slot : Nat) : Option Slot := do
  return .ofCells (← columns[slotNameColumn slot]?) (← columns[slotTypeColumn slot]?)

def fromSlots? {α : Type} (columns names : List Text) (read : Slot → Nat → Option Text → α) :
    Option (List α) :=
  (List.range slotCount).mapM fun slot => do return read (← slotAt? columns slot) slot names[slot]?

/-- Reads the columns of a row as `Draft.ofColumns` does, but gives up where it needs a column that
the row does not have.  Only the comment and the translations may be missing. -/
def Draft.ofColumns? (locales : Locales) (columns : List Text) (line : Nat) : Option Draft :=
  if columns.length < minimumColumns then
    some
      { line, parts := none, nameNotes := []
        otherNotes := [(Finding.tooFewColumns columns.length).onLine line] }
  else do
    let id := MessageId.ofCell? (← columns[idColumn]?)
    let name := CanonicalName.ofLabel? (← columns[nameColumn]?)
    let levelCell ← columns[levelColumn]?
    let exceptionCell ← columns[exceptionColumn]?
    let message ← columns[messageColumn]?
    let level := Level.ofCell? levelCell
    let names := Template.names message
    let slotFindings ← fromSlots? columns names Slot.findings
    let placeholders ← fromSlots? columns names fun s _ expected => s.placeholder? expected
    return {
      line
      parts := some
        { id, name, level, message
          hasException := Text.hasContent exceptionCell
          placeholders := placeholders.reduceOption
          comment := comment? columns
          localizations := localizations columns names locales }
      nameNotes := (idFindings id ++ nameFindings name).map (·.onLine line)
      otherNotes :=
        (levelFindings level levelCell ++ templateFindings names ++ slotFindings.flatten
          ++ allLocalizationFindings columns names locales).map (·.onLine line) }

theorem mapM_eq_some_of_forall {α β : Type} {g : α → Option β} {h : α → β} {l : List α}
    (hg : ∀ a ∈ l, g a = some (h a)) : l.mapM g = some (l.map h) := by
  induction l with
  | nil => rfl
  | cons a rest ih =>
    rw [List.mapM_cons, hg a List.mem_cons_self, ih fun b hb => hg b (List.mem_cons_of_mem _ hb)]
    rfl

theorem getElem?_eq_cellAt {column : Nat} (h : column < columns.length) :
    columns[column]? = some (cellAt columns column) := by
  rw [cellAt, List.getElem?_eq_getElem h]
  rfl

theorem slotTypeColumn_lt {slot : Nat} (h : slot < slotCount) :
    slotTypeColumn slot < minimumColumns := by
  rw [slotCount] at h
  rw [slotTypeColumn, slotNameColumn, firstSlotColumn, minimumColumns]
  omega

theorem fromSlots?_eq_some {α : Type} (hwidth : minimumColumns ≤ columns.length)
    (read : Slot → Nat → Option Text → α) :
    fromSlots? columns names read
      = some ((List.range slotCount).map fun slot =>
          read (slotAt (cellAt columns) slot) slot names[slot]?) := by
  refine mapM_eq_some_of_forall fun slot hslot => ?_
  have htype : slotTypeColumn slot < columns.length :=
    Nat.lt_of_lt_of_le (slotTypeColumn_lt (List.mem_range.1 hslot)) hwidth
  have hname : slotNameColumn slot < columns.length := Nat.lt_of_succ_lt htype
  rw [slotAt?, getElem?_eq_cellAt htype, getElem?_eq_cellAt hname]
  rfl

/-- **No column is read that the row does not have.** -/
theorem Draft.ofColumns?_eq_some (locales : Locales) (columns : List Text) (line : Nat) :
    ofColumns? locales columns line = some (ofColumns locales columns line) := by
  by_cases hlt : columns.length < minimumColumns
  · rw [ofColumns_of_lt hlt, ofColumns?, if_pos hlt]
  · have hwidth := Nat.not_lt.1 hlt
    have hcell : ∀ column < minimumColumns, columns[column]? = some (cellAt columns column) :=
      fun column hcolumn => getElem?_eq_cellAt (Nat.lt_of_lt_of_le hcolumn hwidth)
    have hfilter : ∀ read : Nat → Option Placeholder,
        ((List.range slotCount).map read).reduceOption = (List.range slotCount).filterMap read :=
      fun _ => List.filterMap_map
    rw [ofColumns_of_le hwidth, ofColumns?, if_neg hlt, hcell idColumn (by decide),
      hcell nameColumn (by decide), hcell levelColumn (by decide),
      hcell exceptionColumn (by decide), hcell messageColumn (by decide)]
    simp only [Option.bind_eq_bind, Option.bind_some, fromSlots?_eq_some hwidth]
    rw [hfilter]
    rfl

/-! ### The parts of the diagnostics -/

theorem diagnostics_validate (hwidth : minimumColumns ≤ columns.length) (r : Registry) :
    (validate locales columns line r).1.diagnostics
      = (labelFindings columns).map (·.onLine line)
        ++ Draft.takenNotes line r (CanonicalName.ofLabel? (cellAt columns nameColumn))
        ++ (contentFindings locales columns).map (·.onLine line) := by
  rw [validate, Draft.diagnostics_commit, Draft.notes, Draft.ofColumns_of_le hwidth]
  rfl

/-- A row that is too short to be read is remarked on once. -/
theorem diagnostics_validate_of_lt (h : columns.length < minimumColumns) (r : Registry) :
    (validate locales columns line r).1.diagnostics
      = [(Finding.tooFewColumns columns.length).onLine line] := by
  rw [validate, Draft.ofColumns_of_lt h]
  rfl

/-- The registry has at most two remarks on a name, one on each of its labels. -/
theorem exists_takenNotes_eq (line : Nat) (r : Registry) (name : Option CanonicalName) :
    ∃ nameNote identifierNote : Option Diagnostic,
      Draft.takenNotes line r name = nameNote.toList ++ identifierNote.toList
        ∧ (∀ note ∈ nameNote, note.kind = .duplicateName)
        ∧ ∀ note ∈ identifierNote, note.kind = .duplicateIdentifier := by
  cases name with
  | none =>
    exact ⟨none, none, rfl, fun _ h => (Option.not_mem_none _ h).elim,
      fun _ h => (Option.not_mem_none _ h).elim⟩
  | some name =>
    refine ⟨(r.nameLine? name.name).map fun first =>
        (Finding.takenName name.name first).onLine line,
      (r.identifierLine? name.identifier).map fun first =>
        (Finding.takenIdentifier name.identifier first).onLine line, ?_, ?_, ?_⟩
    · rw [Draft.takenNotes]
      cases r.nameLine? name.name <;> cases r.identifierLine? name.identifier <;> rfl
    · intro note hnote
      obtain ⟨first, -, rfl⟩ := Option.map_eq_some_iff.1 hnote
      rfl
    · intro note hnote
      obtain ⟨first, -, rfl⟩ := Option.map_eq_some_iff.1 hnote
      rfl

theorem exists_eq_onLine_of_mem_takenNotes {r : Registry} {name : Option CanonicalName}
    {note : Diagnostic} (h : note ∈ Draft.takenNotes line r name) :
    ∃ f : Finding, note = f.onLine line ∧ f.column = some nameColumn
      ∧ f.kind ≠ .missingLocalization := by
  rcases Draft.cases_of_mem_takenNotes h with ⟨name, first, rfl⟩ | ⟨identifier, first, rfl⟩
  · exact ⟨_, rfl, rfl, Diagnostic.Kind.noConfusion⟩
  · exact ⟨_, rfl, rfl, Diagnostic.Kind.noConfusion⟩

/-! ### Columns that exist -/

/-- A finding is about a column of the row, or says that a translation is missing and is about a
column behind the row. -/
def Finding.Existing (columns : List Text) (f : Finding) : Prop :=
  ∃ column, f.column = some column
    ∧ if f.kind = .missingLocalization then columns.length ≤ column else column < columns.length

theorem Finding.column_of_kind (h : f.kind = .missingLocalization) :
    ∃ place, f.column = some (localizationColumn place) := by
  cases f with
  | absentLocalization place locale => exact ⟨place, rfl⟩
  | changedName change => cases change <;> cases h
  | _ => cases h

theorem Finding.Between.existing {low : Nat} (h : f.Between low minimumColumns)
    (hwidth : minimumColumns ≤ columns.length) : f.Existing columns := by
  obtain ⟨column, hcolumn, -, hlt⟩ := h
  refine ⟨column, hcolumn, ?_⟩
  rw [if_neg]
  · exact Nat.lt_of_lt_of_le hlt hwidth
  · intro hkind
    obtain ⟨place, hplace⟩ := Finding.column_of_kind hkind
    obtain rfl := Option.some.inj (hcolumn.symm.trans hplace)
    rw [localizationColumn, firstLocalizationColumn, minimumColumns] at hlt
    omega

theorem kind_of_mem_localizationFindings {place : Nat} {locale : Locale} {cell : Option Text}
    (hf : f ∈ localizationFindings names place locale cell) :
    f.kind = .missingLocalization ↔ cell = none := by
  cases cell with
  | none =>
    rw [List.mem_singleton.1 hf]
    exact iff_of_true rfl rfl
  | some cell =>
    refine iff_of_false ?_ (Option.some_ne_none cell)
    rcases List.mem_append.1 hf with hf | hmisplaced
    · rcases List.mem_append.1 hf with hmissing | hextra
      · obtain ⟨name, -, rfl⟩ := List.mem_map.1 hmissing
        exact Diagnostic.Kind.noConfusion
      · obtain ⟨name, -, rfl⟩ := List.mem_map.1 hextra
        exact Diagnostic.Kind.noConfusion
    · obtain ⟨misplaced, -, rfl⟩ := List.mem_map.1 hmisplaced
      exact Diagnostic.Kind.noConfusion

theorem existing_of_mem_localizationFindings {place : Nat} {locale : Locale}
    (hf : f ∈ localizationFindings names place locale columns[localizationColumn place]?) :
    f.Existing columns := by
  refine ⟨_, column_of_mem_localizationFindings hf, ?_⟩
  have hkind := kind_of_mem_localizationFindings hf
  split
  · next hmissing => exact List.getElem?_eq_none_iff.1 (hkind.1 hmissing)
  · next hthere =>
    exact Nat.not_le.1 fun hle => hthere (hkind.2 (List.getElem?_eq_none_iff.2 hle))

theorem existing_of_mem_labelFindings (hwidth : minimumColumns ≤ columns.length)
    (hf : f ∈ labelFindings columns) : f.Existing columns :=
  ((between_of_mem_labelFindings hf).mono (Nat.le_refl _) (by decide)).existing hwidth

theorem existing_of_mem_contentFindings (hwidth : minimumColumns ≤ columns.length)
    (hf : f ∈ contentFindings locales columns) : f.Existing columns := by
  rw [contentFindings_eq] at hf
  rcases List.mem_append.1 hf with hbody | hlocalization
  · exact (between_of_mem_bodyFindings hbody).existing hwidth
  · obtain ⟨⟨place, locale, cell⟩, hcell, hfound⟩ := List.mem_flatMap.1 hlocalization
    obtain ⟨i, hi⟩ := List.getElem?_of_mem hcell
    rw [getElem?_localizationCells, Option.map_eq_some_iff] at hi
    obtain ⟨locale', -, heq⟩ := hi
    cases heq
    exact existing_of_mem_localizationFindings hfound

/-! ### All diagnostics of a row -/

/-- Every diagnostic of a row with enough columns is that of a finding whose column exists. -/
theorem exists_existing_of_mem_diagnostics (hwidth : minimumColumns ≤ columns.length) {r : Registry}
    {note : Diagnostic} (hnote : note ∈ (validate locales columns line r).1.diagnostics) :
    ∃ f : Finding, note = f.onLine line ∧ f.Existing columns := by
  rw [diagnostics_validate hwidth] at hnote
  rcases List.mem_append.1 hnote with hnote | hcontent
  · rcases List.mem_append.1 hnote with hlabel | htaken
    · obtain ⟨f, hf, rfl⟩ := List.mem_map.1 hlabel
      exact ⟨f, rfl, existing_of_mem_labelFindings hwidth hf⟩
    · obtain ⟨f, rfl, hcolumn, hkind⟩ := exists_eq_onLine_of_mem_takenNotes htaken
      refine ⟨f, rfl, nameColumn, hcolumn, ?_⟩
      rw [if_neg hkind]
      exact Nat.lt_of_lt_of_le (by decide) hwidth
  · obtain ⟨f, hf, rfl⟩ := List.mem_map.1 hcontent
    exact ⟨f, rfl, existing_of_mem_contentFindings hwidth hf⟩

/-- Where the diagnostics of a row point. -/
structure PointAtRow (locales : Locales) (columns : List Text) (line : Nat) (r : Registry)
    (notes : List Diagnostic) : Prop where
  /-- All of them carry the line of the row. -/
  line_eq : ∀ note ∈ notes, note.line = line
  /-- A row that is too short has one diagnostic, which is about no column. -/
  too_short : columns.length < minimumColumns →
    notes = [{ line, field := none, kind := .fieldCount
               message := (Finding.tooFewColumns columns.length).message }]
  /-- The diagnostics of any other row are those of its draft, with what the registry has against
  the name put in between those about the id and the name and those about later columns. -/
  spliced : minimumColumns ≤ columns.length →
    ∃ (front back : List Diagnostic) (nameNote identifierNote : Option Diagnostic),
      (Draft.ofColumns locales columns line).diagnostics = front ++ back
        ∧ notes = front ++ (nameNote.toList ++ identifierNote.toList) ++ back
        ∧ (∀ note ∈ nameNote, note.kind = .duplicateName)
        ∧ (∀ note ∈ identifierNote, note.kind = .duplicateIdentifier)
        ∧ (∀ note ∈ front, note.field = some 0 ∨ note.field = some 1)
        ∧ ∀ note ∈ back, ∃ column, note.field = some column ∧ 2 ≤ column
  /-- They are about columns that exist, but for those about missing translations. -/
  in_row : minimumColumns ≤ columns.length → ∀ note ∈ notes,
    ∃ column, note.field = some column
      ∧ if note.kind = .missingLocalization then columns.length ≤ column
        else column < columns.length
  /-- No column is read that the row does not have. -/
  read : Draft.ofColumns? locales columns line = some (Draft.ofColumns locales columns line)

/-- **Diagnostics point at the right place.** -/
theorem diagnostics_in_place (locales : Locales) (columns : List Text) (line : Nat)
    (r : Registry) :
    PointAtRow locales columns line r (validate locales columns line r).1.diagnostics := by
  refine ⟨fun note hnote => ?_, diagnostics_validate_of_lt (r := r), fun hwidth => ?_,
    fun hwidth note hnote => ?_, Draft.ofColumns?_eq_some locales columns line⟩
  · rcases Nat.lt_or_ge columns.length minimumColumns with hlt | hwidth
    · rw [diagnostics_validate_of_lt hlt] at hnote
      rw [List.mem_singleton.1 hnote]
      rfl
    · obtain ⟨f, rfl, -⟩ := exists_existing_of_mem_diagnostics hwidth hnote
      rfl
  · obtain ⟨nameNote, identifierNote, htaken, hname, hidentifier⟩ :=
      exists_takenNotes_eq line r (CanonicalName.ofLabel? (cellAt columns nameColumn))
    refine ⟨(labelFindings columns).map (·.onLine line),
      (contentFindings locales columns).map (·.onLine line), nameNote, identifierNote, ?_, ?_,
      hname, hidentifier, fun note hnote => ?_, fun note hnote => ?_⟩
    · rw [Draft.ofColumns_of_le hwidth, Draft.diagnostics]
    · rw [diagnostics_validate hwidth, htaken]
    · obtain ⟨f, hf, rfl⟩ := List.mem_map.1 hnote
      obtain ⟨column, hcolumn, -, hlt⟩ := between_of_mem_labelFindings hf
      show f.column = some 0 ∨ f.column = some 1
      rw [levelColumn] at hlt
      rw [hcolumn, Option.some.injEq, Option.some.injEq]
      omega
    · obtain ⟨f, hf, rfl⟩ := List.mem_map.1 hnote
      exact exists_column_of_mem_contentFindings hf
  · obtain ⟨f, rfl, hexisting⟩ := exists_existing_of_mem_diagnostics hwidth hnote
    exact hexisting

end LogCatalog.Row
