import LogCatalog.Row.Draft

/-!
# Judging a draft

`Draft.commit` either accepts a row and takes its name and its identifier, or rejects the row and
leaves the registry alone.  `commit_cases` says all that it can do; what follows about rows and runs
rests on it and does not look into `commit` again.

* `Draft.notes`: all that is remarked on a row once the names of other rows are known.
* `Draft.Accepts`: what an accepted row and its definition are like.
* `Draft.commit_cases`: a row is accepted in this way or rejected.
* `Draft.definition?_commit_eq_some_iff`: the definition of a row is the one it is accepted with.
-/

namespace LogCatalog.Row

theorem isFatal_onLine (f : Finding) (line : Nat) : (f.onLine line).isFatal = f.kind.isFatal := rfl

/-! ### Names in the registry -/

namespace FirstLines

theorem not_mem_keys {f : FirstLines} {key : Text} (h : f.find? key = none) : key ∉ f.keys := by
  rw [← find?_isSome_iff, h]
  exact Bool.false_ne_true

theorem keys_insert_of_free {f : FirstLines} {key : Text} (h : f.find? key = none) (line : Nat) :
    (f.insert key line).keys = f.keys ++ [key] := by
  rw [insert, h]
  exact List.map_append

theorem length_keys (f : FirstLines) : f.keys.length = f.size := List.length_map _

end FirstLines

namespace Draft

theorem line_ofColumns (locales : Locales) (columns : List Text) (line : Nat) :
    (ofColumns locales columns line).line = line := by
  rw [ofColumns]
  split <;> rfl

theorem cases_of_mem_takenNotes {line : Nat} {r : Registry} {name : Option CanonicalName}
    {note : Diagnostic} (h : note ∈ takenNotes line r name) :
    (∃ name first, note = (Finding.takenName name first).onLine line)
      ∨ ∃ identifier first, note = (Finding.takenIdentifier identifier first).onLine line := by
  cases name with
  | none => cases h
  | some name =>
    obtain ⟨f, hf, rfl⟩ := List.mem_map.1 h
    rcases List.mem_append.1 hf with hf | hf
    · obtain ⟨first, -, rfl⟩ := Option.map_eq_some_iff.1 (Option.mem_toList.1 hf)
      exact .inl ⟨_, first, rfl⟩
    · obtain ⟨first, -, rfl⟩ := Option.map_eq_some_iff.1 (Option.mem_toList.1 hf)
      exact .inr ⟨_, first, rfl⟩

/-- What the registry has against a name is always fatal. -/
theorem isFatal_of_mem_takenNotes {line : Nat} {r : Registry} {name : Option CanonicalName}
    {note : Diagnostic} (h : note ∈ takenNotes line r name) : note.isFatal = true := by
  rcases cases_of_mem_takenNotes h with ⟨name, first, rfl⟩ | ⟨identifier, first, rfl⟩
  · rfl
  · rfl

theorem takenNotes_eq_nil_iff {line : Nat} {r : Registry} {name : CanonicalName} :
    takenNotes line r (some name) = [] ↔
      r.nameLine? name.name = none ∧ r.identifierLine? name.identifier = none := by
  simp [takenNotes]

/-! ### Definitions -/

theorem definition?_eq_some_iff {parts : Parts} {warnings : List Diagnostic} {d : Definition} :
    definition? parts warnings = some d ↔
      ∃ id name level, parts.id = some id ∧ parts.name = some name ∧ parts.level = some level
        ∧ d = { id, level, warnings, name := name.name, identifier := name.identifier
                hasException := parts.hasException, message := parts.message
                placeholders := parts.placeholders, comment := parts.comment
                localizations := parts.localizations } := by
  rw [definition?]
  constructor
  · intro h
    split at h
    · next id name level hid hname hlevel =>
      exact ⟨id, name, level, hid, hname, hlevel, (Option.some.inj h).symm⟩
    · cases h
  · rintro ⟨id, name, level, hid, hname, hlevel, rfl⟩
    rw [hid, hname, hlevel]

/-! ### The verdict -/

/-- All that is remarked on a row once the names of other rows are known. -/
def notes (d : Draft) (r : Registry) : List Diagnostic :=
  d.nameNotes ++ takenNotes d.line r (d.parts.bind Parts.name) ++ d.otherNotes

/-- An accepted row: its name and its identifier are free, nothing in it is fatal, and its
definition is made of what was read. -/
structure Accepts (d : Draft) (r : Registry) (definition : Definition) : Prop where
  name_free : r.nameLine? definition.name = none
  identifier_free : r.identifierLine? definition.identifier = none
  not_fatal : d.diagnostics.any Diagnostic.isFatal = false
  made : ∃ parts, d.parts = some parts ∧ definition? parts d.diagnostics = some definition

theorem takenNotes_eq_nil_of_not_fatal {d : Draft} {r : Registry}
    (h : (d.notes r).any Diagnostic.isFatal = false) :
    takenNotes d.line r (d.parts.bind Parts.name) = [] := by
  refine List.eq_nil_iff_forall_not_mem.2 fun note hnote => ?_
  have hmem : note ∈ d.notes r := List.mem_append_left _ (List.mem_append_right _ hnote)
  exact List.any_eq_false.1 h note hmem (isFatal_of_mem_takenNotes hnote)

/-- Where nothing fatal was found, nothing was found about names of other rows. -/
theorem notes_eq_diagnostics {d : Draft} {r : Registry}
    (h : (d.notes r).any Diagnostic.isFatal = false) : d.notes r = d.diagnostics := by
  rw [notes, takenNotes_eq_nil_of_not_fatal h, List.append_nil, diagnostics]

/-- **What becomes of a row.** -/
theorem commit_cases (d : Draft) (r : Registry) :
    (∃ definition, d.Accepts r definition ∧
      d.commit r = (⟨some definition, d.diagnostics⟩,
        r.insert definition.name definition.identifier d.line))
    ∨ d.commit r = (⟨none, d.notes r⟩, r)
      ∧ ((d.notes r).any Diagnostic.isFatal = true
        ∨ d.parts.bind (definition? · (d.notes r)) = none) := by
  rw [commit]
  cases hp : d.parts with
  | none =>
    have hnotes : d.notes r = d.diagnostics := by
      rw [notes, hp, Option.bind_none, takenNotes, List.append_nil, diagnostics]
    exact .inr ⟨by rw [hnotes], .inr rfl⟩
  | some parts =>
    have hnotes : d.nameNotes ++ takenNotes d.line r parts.name ++ d.otherNotes = d.notes r := by
      rw [notes, hp, Option.bind_some]
    simp only [hnotes, Option.bind_some]
    cases hfatal : (d.notes r).any Diagnostic.isFatal with
    | true => exact .inr ⟨rfl, .inl rfl⟩
    | false =>
      cases hmade : definition? parts (d.notes r) with
      | none => exact .inr ⟨rfl, .inr rfl⟩
      | some definition =>
        -- Remarks on labels that are taken are fatal, so there are none.
        have hfree := takenNotes_eq_nil_of_not_fatal hfatal
        have heq := notes_eq_diagnostics hfatal
        rw [heq] at hfatal hmade
        obtain ⟨id, name, level, -, hname, -, hd⟩ := definition?_eq_some_iff.1 hmade
        rw [hp, Option.bind_some, hname, takenNotes_eq_nil_iff] at hfree
        refine .inl ⟨definition, ⟨?_, ?_, hfatal, parts, hp, hmade⟩, ?_⟩
        · rw [hd]
          exact hfree.1
        · rw [hd]
          exact hfree.2
        · rw [heq]
          rfl

/-- Only an accepted row takes its name and its identifier. -/
theorem registry_commit (d : Draft) (r : Registry) :
    (d.commit r).2 =
      match (d.commit r).1.definition? with
      | some definition => r.insert definition.name definition.identifier d.line
      | none => r := by
  rcases d.commit_cases r with ⟨definition, -, hcommit⟩ | ⟨hcommit, -⟩
  · rw [hcommit]
  · rw [hcommit]

theorem Accepts.notes_eq_diagnostics {d : Draft} {r : Registry} {definition : Definition}
    (h : d.Accepts r definition) : d.notes r = d.diagnostics := by
  obtain ⟨parts, hparts, hmade⟩ := h.made
  obtain ⟨id, name, level, -, hname, -, hd⟩ := definition?_eq_some_iff.1 hmade
  have hfree := h.name_free
  have hfree' := h.identifier_free
  rw [hd] at hfree hfree'
  rw [notes, hparts, Option.bind_some, hname, takenNotes_eq_nil_iff.2 ⟨hfree, hfree'⟩,
    List.append_nil, diagnostics]

/-- A row gets all remarks on it, accepted or not. -/
theorem diagnostics_commit (d : Draft) (r : Registry) : (d.commit r).1.diagnostics = d.notes r := by
  rcases d.commit_cases r with ⟨definition, hacc, hcommit⟩ | ⟨hcommit, -⟩
  · rw [hcommit]
    exact hacc.notes_eq_diagnostics.symm
  · rw [hcommit]

theorem definition?_commit_eq_some_iff {d : Draft} {r : Registry} {definition : Definition} :
    (d.commit r).1.definition? = some definition ↔ d.Accepts r definition := by
  rcases d.commit_cases r with ⟨made, hacc, hcommit⟩ | ⟨hcommit, hwhy⟩
  · rw [hcommit]
    constructor
    · intro h
      cases h
      exact hacc
    · intro h
      obtain ⟨parts, hparts, hmade⟩ := hacc.made
      obtain ⟨parts', hparts', hmade'⟩ := h.made
      cases hparts.symm.trans hparts'
      exact hmade.symm.trans hmade'
  · rw [hcommit]
    constructor
    · intro h
      cases h
    · intro h
      obtain ⟨parts, hparts, hmade⟩ := h.made
      rw [h.notes_eq_diagnostics, h.not_fatal, hparts, Option.bind_some, hmade] at hwhy
      rcases hwhy with hfatal | hnone
      · cases hfatal
      · cases hnone

end Draft

end LogCatalog.Row
