import LogCatalog.Proofs.Row.Labels

/-!
# Acceptance of a row

Whatever is missing in a row has a fatal diagnostic that tells of it.  So the diagnostics of a row
decide alone whether it is accepted: a row without a fatal one has everything that a definition
needs.

* `Draft.exists_isFatal_of_rejected`: a rejected row has a fatal diagnostic.
* `Label.entries_insert`, `Label.find?_insert`: what an accepted row enters in the registry.
* `accepted_unless_fatal`: what becomes of a row and of the registry.
-/

namespace LogCatalog.Row

open Unicode (lowercase)

namespace Draft

variable {locales : Locales} {columns : List Text} {line : Nat} {r : Registry}

theorem Accepts.warnings_eq {d : Draft} {definition : Definition} (h : d.Accepts r definition) :
    definition.warnings = d.diagnostics := by
  obtain ⟨parts, -, hmade⟩ := h.made
  obtain ⟨id, name, level, -, -, -, rfl⟩ := definition?_eq_some_iff.1 hmade
  rfl

/-- **A rejected row has a fatal diagnostic.**  If it had none, everything in it could be read, and
its definition would have been made. -/
theorem exists_isFatal_of_rejected
    (h : ((ofColumns locales columns line).commit r).1.definition? = none) :
    ((ofColumns locales columns line).notes r).any Diagnostic.isFatal = true := by
  rcases (ofColumns locales columns line).commit_cases r with
    ⟨definition, -, hcommit⟩ | ⟨-, hfatal | hunmade⟩
  · rw [hcommit] at h
    cases h
  · exact hfatal
  · refine (Bool.not_eq_false _).mp fun hharmless => ?_
    have hown := notes_eq_diagnostics hharmless
    rw [hown] at hharmless hunmade
    obtain ⟨parts, definition, hparts, hmade⟩ := exists_definition hharmless
    rw [hparts, Option.bind_some, hmade] at hunmade
    cases hunmade

end Draft

/-! ### Entries of the registry -/

namespace Label

variable {label : Label} {r : Registry} {d : Definition}

theorem entries_insert (hfree : label.line? r (label.ofDefinition d) = none) (line : Nat) :
    (label.taken (r.insert d.name d.identifier line)).entries
      = (label.taken r).entries ++ [(lowercase (label.ofDefinition d), line)] := by
  rw [taken_insert, FirstLines.insert]
  rw [line?] at hfree
  rw [hfree]

/-- Only the entry for a label that is free changes. -/
theorem find?_insert (hfree : label.line? r (label.ofDefinition d) = none) (line : Nat)
    (key : Text) :
    (label.taken (r.insert d.name d.identifier line)).find? key
      = if key = lowercase (label.ofDefinition d) then some line
        else (label.taken r).find? key := by
  rw [taken_insert, FirstLines.find?_insert]
  by_cases hkey : key = lowercase (label.ofDefinition d)
  · rw [line?, ← hkey] at hfree
    rw [hfree, if_pos hkey, Option.none_or]
  · rw [if_neg hkey, if_neg hkey, Option.or_none]

end Label

/-- **A row is accepted exactly if none of its diagnostics is fatal.**  The diagnostics of an
accepted row are the warnings of its definition; its name and its identifier were free, and the
registry gets an entry for each of them and changes no other entry.  A rejected row leaves the
registry as it was. -/
theorem accepted_unless_fatal (locales : Locales) (columns : List Text) (line : Nat)
    (r : Registry) :
    ∃ verdict registry, validate locales columns line r = (verdict, registry)
      ∧ (verdict.definition?.isSome ↔ ∀ note ∈ verdict.diagnostics, note.isFatal = false)
      ∧ (verdict.definition? = none → registry = r)
      ∧ ∀ d, verdict.definition? = some d →
          d.warnings = verdict.diagnostics
            ∧ ∀ label : Label,
                lowercase (label.ofDefinition d) ∉ (label.taken r).keys
                  ∧ (label.taken registry).entries
                    = (label.taken r).entries ++ [(lowercase (label.ofDefinition d), line)]
                  ∧ ∀ key, (label.taken registry).find? key
                    = if key = lowercase (label.ofDefinition d) then some line
                      else (label.taken r).find? key := by
  rw [validate]
  rcases (Draft.ofColumns locales columns line).commit_cases r with
    ⟨definition, hacc, hcommit⟩ | ⟨hcommit, -⟩
  · rw [Draft.line_ofColumns] at hcommit
    refine ⟨_, _, hcommit, ⟨fun _ note hnote => ?_, fun _ => rfl⟩,
      fun h => (Option.some_ne_none _ h).elim, ?_⟩
    · exact Bool.eq_false_iff.2 (List.any_eq_false.1 hacc.not_fatal note hnote)
    · rintro d ⟨⟩
      refine ⟨hacc.warnings_eq, fun label => ?_⟩
      have hfree := hacc.line?_eq_none label
      exact ⟨FirstLines.not_mem_keys hfree, Label.entries_insert hfree line,
        Label.find?_insert hfree line⟩
  · have hfatal := Draft.exists_isFatal_of_rejected (congrArg (·.1.definition?) hcommit)
    refine ⟨_, _, hcommit, ⟨fun h => Bool.noConfusion h, fun h => ?_⟩, fun _ => rfl, fun d h => ?_⟩
    · obtain ⟨note, hnote, hnotefatal⟩ := List.any_eq_true.1 hfatal
      exact (Bool.eq_false_iff.1 (h note hnote) hnotefatal).elim
    · cases h

end LogCatalog.Row
