import LogCatalog.Proofs.Row.Slots
import LogCatalog.Proofs.Row.Translations

/-!
# Parameters of an accepted row

The placeholders of a definition are the parameters of every template that it has for any locale.

* `DeclaresParameters`: what this means for a definition and the columns of its row.
* `messageFor_cases`: where the template for a locale comes from.
* `Draft.Accepts.declaresParameters`: the definition of an accepted row declares its parameters.
-/

namespace LogCatalog.Row

/-- A definition declares the parameters of its templates, with the types that the columns of its
row give. -/
structure DeclaresParameters (columns : List Text) (d : Definition) : Prop where
  /-- The placeholders are those of the template, in order. -/
  names : d.placeholders.map Placeholder.name = Template.names d.message
  at_most_six : d.placeholders.length ≤ 6
  distinct : (d.placeholders.map Placeholder.name).Nodup
  not_reserved : ∀ p ∈ d.placeholders, p.name ≠ "logger" ∧ p.name ≠ "exception"
  types : ∀ i p, d.placeholders[i]? = some p →
    ∃ cell, columns[6 + 2 * i]? = some cell ∧ ValueType.ofCell? cell = some p.type
  /-- The template for any locale, or for none, has the same parameters. -/
  everywhere : ∀ locale : Option Locale,
    Template.names (d.messageFor locale) = d.placeholders.map Placeholder.name

/-! ### Names of the template -/

theorem length_le_of_harmless {names : List Text} (h : Harmless (templateFindings names)) :
    names.length ≤ slotCount := by
  rw [templateFindings, harmless_append] at h
  refine Nat.not_lt.1 fun hlt => ?_
  have hfatal := h.1
  rw [if_pos hlt] at hfatal
  exact Bool.noConfusion (hfatal _ (List.mem_singleton.2 rfl))

theorem not_mem_reservedNames {names : List Text} (h : Harmless (templateFindings names))
    {name : Text} (hname : name ∈ names) : name ∉ reservedNames := by
  intro hreserved
  rw [templateFindings, harmless_append] at h
  obtain ⟨place, hlt, rfl⟩ := List.getElem_of_mem hname
  have hfatal := h.2 (.reservedPlaceholder names[place] place)
  refine Bool.noConfusion (hfatal (List.mem_filterMap.2 ⟨(place, names[place]), ?_, ?_⟩))
  · exact List.mem_mapIdx.2 ⟨place, hlt, rfl⟩
  · exact if_pos (List.contains_iff_mem.2 hreserved)

/-! ### Translations -/

theorem messageFor_cases (d : Definition) (locale : Option Locale) :
    d.messageFor locale = d.message
      ∨ ∃ l, (l, d.messageFor locale) ∈ d.localizations := by
  rw [Definition.messageFor]
  cases locale with
  | none => exact .inl rfl
  | some l =>
    rw [Option.bind_some]
    cases hkept : d.localizedMessage? l with
    | none => exact .inl rfl
    | some text =>
      obtain ⟨before, after, heq, -⟩ := List.lookup_eq_some_iff.1 hkept
      exact .inr ⟨l, heq ▸ List.mem_append_right _ (List.mem_cons_self ..)⟩

/-! ### Rows -/

/-- **The definition of an accepted row declares the parameters of all its templates.** -/
theorem Draft.Accepts.declaresParameters {locales : Locales} {columns : List Text} {line : Nat}
    {r : Registry} {d : Definition} (h : (ofColumns locales columns line).Accepts r d) :
    DeclaresParameters columns d := by
  obtain ⟨hwidth, -, hharmless, -⟩ := h.read
  simp only [contentFindings, harmless_append] at hharmless
  obtain ⟨⟨⟨-, htemplate⟩, hslots⟩, -⟩ := hharmless
  have hcount := length_le_of_harmless htemplate
  have hmessage := h.message_eq
  have hplaceholders := h.placeholders_eq
  rw [← hmessage] at htemplate hslots hcount
  have hnames : d.placeholders.map Placeholder.name = Template.names d.message :=
    hplaceholders ▸ map_name_slotPlaceholders hslots hcount
  have hlength : d.placeholders.length ≤ 6 := by
    rw [← List.length_map (f := Placeholder.name), hnames]
    exact hcount
  refine ⟨hnames, hlength, hnames ▸ Template.nodup_names d.message, ?_, ?_, ?_⟩
  -- A reserved name would have rejected the row.
  · intro p hp
    have hmem : p.name ∈ Template.names d.message := hnames ▸ List.mem_map_of_mem hp
    have hfree := not_mem_reservedNames htemplate hmem
    exact ⟨fun e => hfree (e ▸ List.mem_cons_self ..),
      fun e => hfree (e ▸ List.mem_cons_of_mem _ (List.mem_cons_self ..))⟩
  · intro i p hp
    have hi : i < d.placeholders.length := (List.getElem?_eq_some_iff.1 hp).1
    rw [hplaceholders] at hp
    have htype := ofCell?_of_getElem?_slotPlaceholders hslots hcount hp
    have hcolumn : slotTypeColumn i = 6 + 2 * i := by
      rw [slotTypeColumn, slotNameColumn, firstSlotColumn]
      omega
    have hlt : 6 + 2 * i < columns.length := by
      rw [minimumColumns] at hwidth
      omega
    refine ⟨columns[6 + 2 * i], List.getElem?_eq_getElem hlt, ?_⟩
    rw [hcolumn, cellAt, List.getElem?_eq_getElem hlt] at htype
    exact htype
  · intro locale
    rw [hnames]
    rcases messageFor_cases d locale with hself | ⟨l, hmem⟩
    · rw [hself]
    · rw [h.localizations_eq] at hmem
      obtain ⟨place, -, -, hnames⟩ := mem_localizations.1 hmem
      exact hnames

end LogCatalog.Row
