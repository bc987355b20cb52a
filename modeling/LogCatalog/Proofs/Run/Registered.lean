import LogCatalog.Proofs.Run.Steps
import Mathlib.Data.List.Nodup

/-!
# Registered names

The registry of an intake holds the names and the identifiers of the accepted definitions, in
lowercase, all of them and nothing else.  So no two definitions share a name or an identifier.

* `Registered`: the registry lists the definitions.
* `Registered.commit`, `Registered.skip`: a step keeps this.
* `registered_run`: it holds throughout every session.
-/

namespace LogCatalog.Run

open Row
open Unicode (lowercase)

/-- The registry of an intake lists the definitions, one entry of either kind for each, and no
entry occurs twice. -/
structure Registered (intake : Intake) : Prop where
  names : intake.registry.names.keys = intake.definitions.toList.map fun d => lowercase d.name
  identifiers :
    intake.registry.identifiers.keys = intake.definitions.toList.map fun d => lowercase d.identifier
  nodup_names : intake.registry.names.keys.Nodup
  nodup_identifiers : intake.registry.identifiers.keys.Nodup

theorem registered_empty : Registered .empty :=
  ⟨rfl, rfl, List.nodup_nil, List.nodup_nil⟩

theorem nodup_keys_insert {f : FirstLines} {key : Text} (h : f.keys.Nodup)
    (hfree : f.find? key = none) (line : Nat) : (f.insert key line).keys.Nodup := by
  rw [FirstLines.keys_insert_of_free hfree, ← List.concat_eq_append]
  exact List.Nodup.concat (FirstLines.not_mem_keys hfree) h

theorem Registered.skip {intake : Intake} (h : Registered intake) : Registered intake.skip :=
  ⟨h.names, h.identifiers, h.nodup_names, h.nodup_identifiers⟩

/-- **A judged draft leaves the registry in step with the definitions.**  An accepted row enters
both lists of the registry, since its name and its identifier were free; a rejected row enters
nothing. -/
theorem Registered.commit {intake : Intake} (h : Registered intake) (draft : Draft) :
    Registered (intake.commit draft) := by
  rcases intake.commit_cases draft with ⟨definition, hacc, heq⟩ | ⟨heq, -⟩
  · rw [heq]
    refine ⟨?_, ?_, ?_, ?_⟩
    · show (intake.registry.names.insert _ _).keys = (intake.definitions.push definition).toList.map _
      rw [FirstLines.keys_insert_of_free hacc.name_free, h.names, Array.toList_push,
        List.map_append, List.map_singleton]
    · show (intake.registry.identifiers.insert _ _).keys
        = (intake.definitions.push definition).toList.map _
      rw [FirstLines.keys_insert_of_free hacc.identifier_free, h.identifiers, Array.toList_push,
        List.map_append, List.map_singleton]
    · exact nodup_keys_insert h.nodup_names hacc.name_free draft.line
    · exact nodup_keys_insert h.nodup_identifiers hacc.identifier_free draft.line
  · rw [heq]
    exact ⟨h.names, h.identifiers, h.nodup_names, h.nodup_identifiers⟩

theorem registered_of_run (locales : Locales) (steps : List Step) :
    Registered (Session.run locales steps).intake :=
  Session.intake_run_induction locales registered_empty (fun _ draft h => h.commit draft)
    (fun _ h => h.skip) steps

/-- **In every session the registry and the definitions agree**, whenever and in whatever order its
drafts were read: names and identifiers are distinct in lowercase, they are the entries of the
registry, and there is one entry of either kind for each definition. -/
theorem registered_run (locales : Locales) (steps : List Step) :
    let intake := (Session.run locales steps).intake
    (intake.definitions.toList.map fun d => lowercase d.name).Nodup
      ∧ (intake.definitions.toList.map fun d => lowercase d.identifier).Nodup
      ∧ (∀ key, key ∈ intake.registry.names.keys ↔
          ∃ d ∈ intake.definitions, lowercase d.name = key)
      ∧ (∀ key, key ∈ intake.registry.identifiers.keys ↔
          ∃ d ∈ intake.definitions, lowercase d.identifier = key)
      ∧ intake.registry.names.size = intake.definitions.size
      ∧ intake.registry.identifiers.size = intake.definitions.size := by
  intro intake
  have h : Registered intake := registered_of_run locales steps
  refine ⟨h.names ▸ h.nodup_names, h.identifiers ▸ h.nodup_identifiers, fun key => ?_,
    fun key => ?_, ?_, ?_⟩
  · rw [h.names, List.mem_map]
    simp only [Array.mem_toList_iff]
  · rw [h.identifiers, List.mem_map]
    simp only [Array.mem_toList_iff]
  · rw [← FirstLines.length_keys, h.names, List.length_map, Array.length_toList]
  · rw [← FirstLines.length_keys, h.identifiers, List.length_map, Array.length_toList]

end LogCatalog.Run
