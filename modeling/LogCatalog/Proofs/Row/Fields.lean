import LogCatalog.Proofs.Row.Columns

/-!
# Fields of findings

A finding is about the column in which it was found.  The columns of the id and the name come first,
then those of the level, the template and the slots, and then one for each locale; so the column of
a finding tells which part of the row it belongs to.

* `Finding.Between`: a finding is about a column of a range.
* `between_of_mem_labelFindings`, `between_of_mem_bodyFindings`: the ranges of the two parts that
  every row has.
* `exists_column_of_mem_contentFindings`: what is found behind the name is about a later column.
* `Slot.mem_findingsFor`, `Slot.mem_findingsBeyond`: all that can be found in a slot.
* `column_of_mem_localizationFindings`: the column of a locale.
* `filter_column_contentFindings`: what is found in the column of a locale.
-/

namespace LogCatalog.Row

variable {f g : Finding} {low high low' high' : Nat}

namespace Finding

/-- The finding is about a column from `low` on and before `high`. -/
def Between (low high : Nat) (f : Finding) : Prop :=
  ∃ column, f.column = some column ∧ low ≤ column ∧ column < high

theorem Between.mono (h : f.Between low high) (hlow : low' ≤ low) (hhigh : high ≤ high') :
    f.Between low' high' := by
  obtain ⟨column, hcolumn, hle, hlt⟩ := h
  exact ⟨column, hcolumn, Nat.le_trans hlow hle, Nat.lt_of_lt_of_le hlt hhigh⟩

theorem Between.column_ne (h : f.Between low high) {column : Nat} (hcolumn : high ≤ column) :
    f.column ≠ some column := by
  obtain ⟨own, hown, -, hlt⟩ := h
  rw [hown]
  intro heq
  exact Nat.ne_of_lt (Nat.lt_of_lt_of_le hlt hcolumn) (Option.some.inj heq)

theorem between_of_mem_ite {p : Prop} [Decidable p] (hg : g.Between low high)
    (hf : f ∈ if p then [g] else []) : f.Between low high :=
  eq_of_mem_ite hf ▸ hg

end Finding

open Finding (between_of_mem_ite)

/-! ### The parts that every row has -/

theorem cases_of_mem_labelFindings {columns : List Text} (hf : f ∈ labelFindings columns) :
    f = .malformedId ∨ f = .blankName ∨ ∃ change, f = .changedName change := by
  rcases List.mem_append.1 hf with hid | hname
  · exact .inl (eq_of_mem_ite hid)
  · cases hname' : CanonicalName.ofLabel? (cellAt columns nameColumn) with
    | none =>
      rw [hname'] at hname
      exact .inr (.inl (List.mem_singleton.1 hname))
    | some name =>
      rw [hname'] at hname
      obtain ⟨change, -, heq⟩ := List.mem_map.1 hname
      exact .inr (.inr ⟨change, heq.symm⟩)

theorem between_of_mem_labelFindings {columns : List Text} (hf : f ∈ labelFindings columns) :
    f.Between idColumn levelColumn := by
  rcases cases_of_mem_labelFindings hf with rfl | rfl | ⟨change, rfl⟩
  · exact ⟨idColumn, rfl, by decide, by decide⟩
  · exact ⟨nameColumn, rfl, by decide, by decide⟩
  · exact ⟨nameColumn, rfl, by decide, by decide⟩

theorem column_of_mem_templateFindings {names : List Text} (hf : f ∈ templateFindings names) :
    f.column = some messageColumn := by
  rcases List.mem_append.1 hf with hcount | hreserved
  · rw [eq_of_mem_ite hcount]
    rfl
  · obtain ⟨⟨place, name⟩, -, hname⟩ := List.mem_filterMap.1 hreserved
    dsimp only at hname
    split at hname
    · cases hname
      rfl
    · cases hname

theorem Slot.mem_findingsFor {s : Slot} {slot : Nat} {expected : Text} :
    f ∈ s.findingsFor slot expected ↔
      (s.label = [] ∧ f = .missingSlotName slot expected)
        ∨ (s.type = none ∧ f = .missingSlotType slot expected)
        ∨ (s.label ≠ [] ∧ Unicode.sameIgnoringCase expected s.label = false)
          ∧ f = .mislabelledSlot slot expected s.label := by
  simp only [findingsFor, List.mem_append, List.mem_ite_nil_right, List.mem_singleton, or_assoc]

theorem Slot.mem_findingsBeyond {s : Slot} {slot : Nat} :
    f ∈ s.findingsBeyond slot ↔
      s.label ≠ [] ∧ (f = .extraSlotName slot s.label
        ∨ s.type ≠ none ∧ f = .extraSlotType slot s.label) := by
  simp only [findingsBeyond, List.mem_ite_nil_left, List.mem_cons, List.not_mem_nil, or_false,
    ne_eq]

/-- What is found in a slot is about one of its two columns. -/
theorem between_of_mem_findings {s : Slot} {slot : Nat} {expected : Option Text}
    (hf : f ∈ s.findings slot expected) :
    f.Between (slotNameColumn slot) (slotNameColumn slot + 2) := by
  have hname : ∀ g : Finding, g.column = some (slotNameColumn slot) →
      g.Between (slotNameColumn slot) (slotNameColumn slot + 2) :=
    fun g hg => ⟨_, hg, Nat.le_refl _, by omega⟩
  have htype : ∀ g : Finding, g.column = some (slotTypeColumn slot) →
      g.Between (slotNameColumn slot) (slotNameColumn slot + 2) :=
    fun g hg => ⟨_, hg, Nat.le_succ _, Nat.lt_succ_self _⟩
  cases expected with
  | some expected =>
    rcases Slot.mem_findingsFor.1 hf with ⟨-, rfl⟩ | ⟨-, rfl⟩ | ⟨-, rfl⟩
    · exact hname _ rfl
    · exact htype _ rfl
    · exact hname _ rfl
  | none =>
    rcases Slot.mem_findingsBeyond.1 hf with ⟨-, rfl | ⟨-, rfl⟩⟩
    · exact hname _ rfl
    · exact htype _ rfl

theorem between_of_mem_slotFindings {cell : Nat → Text} {names : List Text}
    (hf : f ∈ slotFindings cell names) : f.Between firstSlotColumn minimumColumns := by
  obtain ⟨slot, hslot, hfound⟩ := List.mem_flatMap.1 hf
  have hlt : slot < slotCount := List.mem_range.1 hslot
  refine (between_of_mem_findings hfound).mono ?_ ?_
  · exact Nat.le_add_right _ _
  · rw [slotNameColumn, firstSlotColumn, minimumColumns]
    rw [slotCount] at hlt
    omega

/-- What is found in the columns between the name and the translations. -/
def bodyFindings (columns : List Text) : List Finding :=
  let names := Template.names (cellAt columns messageColumn)
  levelFindings (Level.ofCell? (cellAt columns levelColumn)) (cellAt columns levelColumn)
    ++ templateFindings names
    ++ slotFindings (cellAt columns) names

theorem contentFindings_eq (locales : Locales) (columns : List Text) :
    contentFindings locales columns
      = bodyFindings columns
        ++ allLocalizationFindings columns (Template.names (cellAt columns messageColumn)) locales :=
  rfl

theorem between_of_mem_bodyFindings {columns : List Text} (hf : f ∈ bodyFindings columns) :
    f.Between levelColumn minimumColumns := by
  simp only [bodyFindings, List.mem_append] at hf
  rcases hf with (hlevel | htemplate) | hslots
  · exact between_of_mem_ite ⟨levelColumn, rfl, by decide, by decide⟩ hlevel
  · exact ⟨messageColumn, column_of_mem_templateFindings htemplate, by decide, by decide⟩
  · exact (between_of_mem_slotFindings hslots).mono (by decide) (Nat.le_refl _)

/-! ### Translations -/

/-- What is found in a translation is about the column of its locale. -/
theorem column_of_mem_localizationFindings {names : List Text} {place : Nat} {locale : Locale}
    {cell : Option Text} (hf : f ∈ localizationFindings names place locale cell) :
    f.column = some (localizationColumn place) := by
  cases cell with
  | none =>
    rw [List.mem_singleton.1 hf]
    rfl
  | some cell =>
    rcases List.mem_append.1 hf with hf | hmisplaced
    · rcases List.mem_append.1 hf with hmissing | hextra
      · obtain ⟨name, -, rfl⟩ := List.mem_map.1 hmissing
        rfl
      · obtain ⟨name, -, rfl⟩ := List.mem_map.1 hextra
        rfl
    · obtain ⟨misplaced, -, rfl⟩ := List.mem_map.1 hmisplaced
      rfl

theorem getElem?_localizationCells (columns : List Text) (locales : Locales) (place : Nat) :
    (localizationCells columns locales)[place]?
      = locales.toList[place]?.map fun locale =>
          (place, locale, columns[localizationColumn place]?) :=
  List.getElem?_mapIdx

/-- Where only the entry at one place yields anything, that is all there is. -/
theorem flatMap_eq_of_getElem? {α β : Type} {l : List α} {f : α → List β} {place : Nat} {a : α}
    (h : l[place]? = some a) (hother : ∀ i b, l[i]? = some b → i ≠ place → f b = []) :
    l.flatMap f = f a := by
  induction l generalizing place with
  | nil => cases h
  | cons b rest ih =>
    rw [List.flatMap_cons]
    cases place with
    | zero =>
      obtain rfl : b = a := Option.some.inj h
      have hrest : rest.flatMap f = [] := List.flatMap_eq_nil_iff.2 fun c hc => by
        obtain ⟨i, hi⟩ := List.getElem?_of_mem hc
        exact hother (i + 1) c hi (Nat.succ_ne_zero i)
      rw [hrest, List.append_nil]
    | succ place =>
      have hfirst : f b = [] := hother 0 b rfl (Nat.succ_ne_zero place).symm
      rw [hfirst, List.nil_append]
      exact ih h fun i c hi hne => hother (i + 1) c hi fun heq => hne (Nat.succ.inj heq)

theorem filter_column_eq_nil {fs : List Finding} {column : Nat}
    (h : ∀ f ∈ fs, f.column ≠ some column) : fs.filter (·.column = some column) = [] :=
  List.filter_eq_nil_iff.2 fun f hf => fun heq => h f hf (of_decide_eq_true heq)

/-- **What is found in the column of a locale** is what its translation has against it. -/
theorem filter_column_contentFindings {locales : Locales} {columns : List Text} {place : Nat}
    {locale : Locale} (hlocale : locales.toList[place]? = some locale) :
    (contentFindings locales columns).filter (·.column = some (localizationColumn place))
      = localizationFindings (Template.names (cellAt columns messageColumn)) place locale
          columns[localizationColumn place]? := by
  have hbody : (bodyFindings columns).filter (·.column = some (localizationColumn place)) = [] :=
    filter_column_eq_nil fun f hf => (between_of_mem_bodyFindings hf).column_ne (by
      rw [minimumColumns, localizationColumn, firstLocalizationColumn]
      omega)
  have hcell : (localizationCells columns locales)[place]?
      = some (place, locale, columns[localizationColumn place]?) := by
    rw [getElem?_localizationCells, hlocale]
    rfl
  rw [contentFindings_eq, List.filter_append, hbody, List.nil_append, allLocalizationFindings,
    List.filter_flatMap, flatMap_eq_of_getElem? hcell]
  · refine List.filter_eq_self.2 fun f hf => decide_eq_true ?_
    exact column_of_mem_localizationFindings hf
  · rintro i ⟨place', locale', cell'⟩ hi hne
    rw [getElem?_localizationCells, Option.map_eq_some_iff] at hi
    obtain ⟨other, -, heq⟩ := hi
    cases heq
    refine filter_column_eq_nil fun f hf heq => hne ?_
    rw [column_of_mem_localizationFindings hf] at heq
    exact Nat.add_left_cancel (Option.some.inj heq)

/-- What is found behind the name is about a later column. -/
theorem exists_column_of_mem_contentFindings {locales : Locales} {columns : List Text}
    (hf : f ∈ contentFindings locales columns) :
    ∃ column, f.column = some column ∧ levelColumn ≤ column := by
  rw [contentFindings_eq] at hf
  rcases List.mem_append.1 hf with hbody | hlocalization
  · obtain ⟨column, hcolumn, hle, -⟩ := between_of_mem_bodyFindings hbody
    exact ⟨column, hcolumn, hle⟩
  · obtain ⟨⟨place, locale, cell⟩, -, hfound⟩ := List.mem_flatMap.1 hlocalization
    exact ⟨_, column_of_mem_localizationFindings hfound, Nat.le_add_right_of_le (by decide)⟩

end LogCatalog.Row
