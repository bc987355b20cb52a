import LogCatalog.Proofs.Run.Lines

/-!
# Verdicts of a run

What becomes of the line at a place, and what a run has in its registry and its log because of it.

* `draftAt?`, `verdictAt?`: the row of the line at a place, as it is read and as it is judged.
* `registryBefore_succ`: only a line that yields a definition changes the registry.
* `runLog_take`: the log has the diagnostics of the rejected rows, in the order of their lines.
* `definitions_ofLines`: a run ends with what its lines yield, in the order of the lines.
-/

namespace LogCatalog.Run

open Row

def Report.definitions (report : Report) : List Definition :=
  match report.outcome with
  | .ok definitions => definitions
  | .error _ => []

theorem definitions_ofLines (locales : Locales) (lines : List Text) :
    (ofLines locales lines).definitions
      = (List.range lines.length).filterMap (definitionAt? locales lines) := by
  rw [← definitions_after, Report.definitions]
  cases houtcome : (ofLines locales lines).outcome with
  | ok definitions => exact (outcome_ofLines_eq_ok_iff.1 houtcome).2.symm
  | error failure =>
    by_contra hne
    rw [outcome_ofLines_eq_ok_iff.2 ⟨fun hnil => hne hnil.symm, rfl⟩] at houtcome
    cases houtcome

/-! ### The verdict on a line -/

/-- What the registry holds when the line at a place is reached. -/
def registryBefore (locales : Locales) (lines : List Text) (place : Nat) : Registry :=
  (after locales (lines.take place)).registry

def draftAt? (locales : Locales) (lines : List Text) (place : Nat) : Option Draft :=
  (lines[place]?.bind columns?).map fun columns => .ofColumns locales columns (place + 1)

def verdictAt? (locales : Locales) (lines : List Text) (place : Nat) : Option Verdict :=
  (draftAt? locales lines place).map fun draft =>
    (draft.commit (registryBefore locales lines place)).1

def diagnosticsAt (locales : Locales) (lines : List Text) (place : Nat) : List Diagnostic :=
  ((verdictAt? locales lines place).map Verdict.diagnostics).getD []

/-- What the log gets from the line at a place: the remarks on it, unless it yields a definition. -/
def loggedAt (locales : Locales) (lines : List Text) (place : Nat) : List Diagnostic :=
  if definitionAt? locales lines place = none then diagnosticsAt locales lines place else []

variable {locales : Locales} {lines : List Text} {place : Nat}

theorem definitionAt?_eq_bind (locales : Locales) (lines : List Text) (place : Nat) :
    definitionAt? locales lines place
      = (verdictAt? locales lines place).bind Verdict.definition? := by
  rw [definitionAt?, verdictAt?, draftAt?]
  cases lines[place]?.bind columns? with
  | none => rfl
  | some columns => rfl

theorem draftAt?_eq_some_iff {draft : Draft} :
    draftAt? locales lines place = some draft ↔
      ∃ columns, lines[place]?.bind columns? = some columns
        ∧ Draft.ofColumns locales columns (place + 1) = draft := Option.map_eq_some_iff

theorem draftAt?_of_le (h : lines.length ≤ place) : draftAt? locales lines place = none := by
  rw [draftAt?, List.getElem?_eq_none h]
  rfl

theorem line_of_draftAt? {draft : Draft} (h : draftAt? locales lines place = some draft) :
    draft.line = place + 1 := by
  obtain ⟨columns, -, rfl⟩ := draftAt?_eq_some_iff.1 h
  exact Draft.line_ofColumns ..

/-- The verdict on a line depends on the line and on what the registry holds when it is reached. -/
theorem verdictAt?_congr {others : List Text} (hline : lines[place]? = others[place]?)
    (hregistry : registryBefore locales lines place = registryBefore locales others place) :
    verdictAt? locales lines place = verdictAt? locales others place := by
  rw [verdictAt?, verdictAt?, draftAt?, draftAt?, hline, hregistry]

/-! ### One line more -/

theorem after_take_succ (locales : Locales) {lines : List Text} {place : Nat}
    (h : place < lines.length) :
    after locales (lines.take (place + 1))
      = commitDraft (after locales (lines.take place)) (draftAt? locales lines place) := by
  rw [List.take_succ_eq_append_getElem h, after_concat, Intake.push_eq, draftAt?,
    List.getElem?_eq_getElem h, Option.bind_some,
    List.length_take_of_le (Nat.le_of_lt h)]
  cases columns? lines[place] with
  | none => rfl
  | some columns => rfl

theorem after_take_succ_cases (locales : Locales) (lines : List Text) (place : Nat) :
    (∃ draft, draftAt? locales lines place = some draft
        ∧ after locales (lines.take (place + 1))
          = (after locales (lines.take place)).commit draft)
      ∨ draftAt? locales lines place = none
        ∧ (after locales (lines.take (place + 1)) = (after locales (lines.take place)).skip
          ∨ after locales (lines.take (place + 1)) = after locales (lines.take place)) := by
  by_cases h : place < lines.length
  · have hafter := after_take_succ locales h
    cases hdraft : draftAt? locales lines place with
    | some draft =>
      rw [hdraft] at hafter
      exact .inl ⟨draft, rfl, hafter⟩
    | none =>
      rw [hdraft] at hafter
      exact .inr ⟨rfl, .inl hafter⟩
  · have hle := Nat.not_lt.1 h
    refine .inr ⟨draftAt?_of_le hle, .inr ?_⟩
    rw [List.take_of_length_le hle, List.take_of_length_le (Nat.le_succ_of_le hle)]

theorem Intake.registry_commit (intake : Intake) (draft : Draft) :
    (intake.commit draft).registry = (draft.commit intake.registry).2 := by
  rw [commit]
  obtain ⟨⟨_ | definition, notes⟩, registry⟩ := draft.commit intake.registry
  · rfl
  · rfl

theorem Intake.runLog_commit (intake : Intake) (draft : Draft) :
    (intake.commit draft).runLog.toList
      = intake.runLog.toList
        ++ if (draft.commit intake.registry).1.definition? = none
          then (draft.commit intake.registry).1.diagnostics else [] := by
  rw [commit]
  obtain ⟨⟨_ | definition, notes⟩, registry⟩ := draft.commit intake.registry
  · exact Array.toList_append
  · exact (List.append_nil _).symm

/-- **Only a line that yields a definition changes the registry**: it takes its labels. -/
theorem registryBefore_succ (locales : Locales) (lines : List Text) (place : Nat) :
    registryBefore locales lines (place + 1) =
      match definitionAt? locales lines place with
      | some d => (registryBefore locales lines place).insert d.name d.identifier (place + 1)
      | none => registryBefore locales lines place := by
  rw [definitionAt?_eq_bind, verdictAt?, registryBefore]
  rcases after_take_succ_cases locales lines place with
    ⟨draft, hdraft, hafter⟩ | ⟨hnone, hafter | hafter⟩
  · rw [hafter, Intake.registry_commit, Draft.registry_commit, line_of_draftAt? hdraft, hdraft]
    rfl
  · rw [hafter, hnone]
    rfl
  · rw [hafter, hnone]
    rfl

/-- **The log has the diagnostics of the rejected rows**, in the order of their lines. -/
theorem runLog_take (locales : Locales) (lines : List Text) (place : Nat) :
    (after locales (lines.take place)).runLog.toList
      = (List.range place).flatMap (loggedAt locales lines) := by
  induction place with
  | zero => rfl
  | succ place ih =>
    rw [List.range_succ, List.flatMap_append, List.flatMap_singleton, ← ih, loggedAt,
      definitionAt?_eq_bind, diagnosticsAt, verdictAt?, registryBefore]
    rcases after_take_succ_cases locales lines place with
      ⟨draft, hdraft, hafter⟩ | ⟨hnone, hafter | hafter⟩
    · rw [hafter, Intake.runLog_commit, hdraft]
      rfl
    · rw [hafter, hnone]
      exact (List.append_nil _).symm
    · rw [hafter, hnone]
      exact (List.append_nil _).symm

end LogCatalog.Run
