import LogCatalog.Proofs.Row.Judging
import LogCatalog.Run.Session

/-!
# Steps of an intake

What one step does to an intake, and how a fact about all sessions follows from facts about steps.

* `Intake.push_eq`: a line is taken in by reading its row and judging the draft at once.
* `Intake.commit_cases`: judging a draft adds a definition, or adds to the log and the count of
  rejected rows.
* `Session.run_induction`, `Session.intake_run_induction`: what holds at the start and is kept by
  each step holds of every session.
-/

namespace LogCatalog.Run

open Row

namespace Intake

theorem push_eq (locales : Locales) (intake : Intake) (line : Nat) (text : Text) :
    intake.push locales line text =
      match columns? text with
      | some columns => intake.commit (Draft.ofColumns locales columns line)
      | none => intake.skip := by
  rw [push]
  cases columns? text with
  | none => rfl
  | some columns =>
    dsimp only
    rw [commit, Draft.line_ofColumns, validate]

/-- **What judging a draft does to an intake.** -/
theorem commit_cases (intake : Intake) (draft : Draft) :
    (∃ definition, draft.Accepts intake.registry definition ∧
      intake.commit draft =
        { intake with
          registry := intake.registry.insert definition.name definition.identifier draft.line
          definitions := intake.definitions.push definition
          events := intake.events.push (.accepted draft.line definition.name definition.id) })
    ∨ intake.commit draft =
        { intake with
          runLog := intake.runLog ++ (draft.notes intake.registry).toArray
          rejected := intake.rejected + 1
          events :=
            intake.events.push (.rejected draft.line (draft.notes intake.registry).length) }
      ∧ ((draft.notes intake.registry).any Diagnostic.isFatal = true
        ∨ draft.parts.bind (Draft.definition? · (draft.notes intake.registry)) = none) := by
  rcases draft.commit_cases intake.registry with ⟨definition, hacc, hcommit⟩ | ⟨hcommit, hwhy⟩
  · refine .inl ⟨definition, hacc, ?_⟩
    rw [commit, hcommit]
    rfl
  · refine .inr ⟨?_, hwhy⟩
    rw [commit, hcommit]
    rfl

end Intake

namespace Session

/-- What holds of the empty session and is kept by each step holds of every session. -/
theorem run_induction {P : Session → Prop} (locales : Locales) (hempty : P empty)
    (hstep : ∀ s step, P s → P (s.step locales step)) (steps : List Step) :
    P (run locales steps) := by
  have hfold : ∀ s, P s → P (steps.foldl (Session.step locales) s) := by
    induction steps with
    | nil => exact fun s hs => hs
    | cons step rest ih => exact fun s hs => ih _ (hstep s step hs)
  exact hfold empty hempty

/-- What judging a draft and skipping a line keep holds of the intake of every session. -/
theorem intake_run_induction {P : Intake → Prop} (locales : Locales) (hempty : P .empty)
    (hcommit : ∀ intake draft, P intake → P (intake.commit draft))
    (hskip : ∀ intake, P intake → P intake.skip) (steps : List Step) :
    P (run locales steps).intake := by
  refine run_induction (P := fun s => P s.intake) locales hempty (fun s step hs => ?_) steps
  cases step with
  | push line text =>
    rw [Session.step, Intake.push_eq]
    cases columns? text with
    | none => exact hskip s.intake hs
    | some columns => exact hcommit s.intake _ hs
  | skip => exact hskip s.intake hs
  | prepare slot rowLocales line columns => exact hs
  | commit slot =>
    rw [Session.step]
    cases s.draft? slot with
    | none => exact hs
    | some draft => exact hcommit s.intake draft hs

end Session

end LogCatalog.Run
