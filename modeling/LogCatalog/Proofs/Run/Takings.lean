import LogCatalog.Proofs.Run.Lines

/-!
# Takings of a session

What a session takes in, in order, told without drafts and slots: each draft that is judged stands
for the row that was prepared last in its slot.  What a row is read as does not depend on other
rows, so a session goes on as if each row were read when it is judged.

* `takings`: what a session takes in.  When its rows were read does not show there.
* `Drafted`, `Drafted.step`: the drafts of a session are those of the rows prepared last.
* `intake_run`: the intake of a session is what its takings lead to.
-/

namespace LogCatalog.Run

open Row

/-! ### What a session takes in -/

/-- A row as it came, with the locales that it is to be read with. -/
structure UnreadRow where
  locales : Locales
  line : Nat
  columns : List Text
  deriving DecidableEq, Repr

def UnreadRow.draft (row : UnreadRow) : Draft := .ofColumns row.locales row.columns row.line

inductive Taking where
  | row (row : UnreadRow)
  /-- A line without a row. -/
  | skipped
  deriving DecidableEq, Repr

def Taking.ofLine (locales : Locales) (line : Nat) (text : Text) : Taking :=
  match columns? text with
  | some columns => .row { locales, line, columns }
  | none => .skipped

/-- Takes in a row, which is read and judged in one go, or a line without a row. -/
def Intake.take (intake : Intake) : Taking → Intake
  | .row row => intake.record row.line (validate row.locales row.columns row.line intake.registry)
  | .skipped => intake.skip

/-- The row that was prepared last in a slot, unless it has been judged since.  The latest step
comes first. -/
def prepared? (slot : Text) : List Step → Option UnreadRow
  | [] => none
  | .prepare other locales line columns :: earlier =>
    if other = slot then some { locales, line, columns } else prepared? slot earlier
  | .commit other :: earlier => if other = slot then none else prepared? slot earlier
  | .push _ _ :: earlier | .skip :: earlier => prepared? slot earlier

/-- What a step takes in after earlier steps, the latest first. -/
def taking? (locales : Locales) (earlier : List Step) : Step → Option Taking
  | .push line text => some (.ofLine locales line text)
  | .skip => some .skipped
  | .prepare .. => none
  | .commit slot => (prepared? slot earlier).map .row

def takingsAfter (locales : Locales) (earlier : List Step) : List Step → List Taking
  | [] => []
  | step :: rest =>
    (taking? locales earlier step).toList ++ takingsAfter locales (step :: earlier) rest

/-- What a session takes in, in order: its lines, the lines that it skips, and for each draft that
it judges the row from which the draft was read. -/
def takings (locales : Locales) (steps : List Step) : List Taking := takingsAfter locales [] steps

namespace Intake

theorem push_eq_take (intake : Intake) (locales : Locales) (line : Nat) (text : Text) :
    intake.push locales line text = intake.take (.ofLine locales line text) := by
  rw [push, Taking.ofLine]
  cases columns? text with
  | none => rfl
  | some columns => rfl

/-- Judging the draft of a row is taking in the row. -/
theorem commit_draft (intake : Intake) (row : UnreadRow) :
    intake.commit row.draft = intake.take (.row row) := by
  rw [commit, UnreadRow.draft, Draft.line_ofColumns]
  rfl

end Intake

/-! ### The drafts of a session -/

theorem lookup_filter_ne (drafts : List (Text × Draft)) (slot other : Text) :
    (drafts.filter (·.1 ≠ other)).lookup slot
      = if other = slot then none else drafts.lookup slot := by
  induction drafts with
  | nil => simp
  | cons entry rest ih =>
    obtain ⟨key, draft⟩ := entry
    by_cases hkey : key = other
    · subst hkey
      rw [List.filter_cons_of_neg (by simp), ih, List.lookup_cons]
      by_cases hslot : key = slot
      · rw [if_pos hslot, if_pos hslot]
      · rw [if_neg hslot, if_neg hslot, beq_eq_false_iff_ne.2 (Ne.symm hslot)]
    · rw [List.filter_cons_of_pos (by simpa using hkey), List.lookup_cons, List.lookup_cons, ih]
      by_cases hslot : slot = key
      · subst hslot
        rw [beq_self_eq_true]
        exact (if_neg (Ne.symm hkey)).symm
      · rw [beq_eq_false_iff_ne.2 hslot]

/-- The drafts of a session are those of the rows that were prepared in its earlier steps, the
latest first, and not judged since. -/
def Drafted (s : Session) (earlier : List Step) : Prop :=
  ∀ slot, s.draft? slot = (prepared? slot earlier).map UnreadRow.draft

theorem drafted_empty : Drafted .empty [] := fun _ => rfl

/-- **A step keeps the drafts in line with the steps taken.** -/
theorem Drafted.step {s : Session} {earlier : List Step} (h : Drafted s earlier)
    (locales : Locales) (step : Step) : Drafted (s.step locales step) (step :: earlier) := by
  intro slot
  cases step with
  | push line text => exact h slot
  | skip => exact h slot
  | prepare other rowLocales line columns =>
    rw [Session.step, Session.draft?, Session.draftsBut, List.lookup_cons, lookup_filter_ne,
      prepared?]
    by_cases hslot : other = slot
    · rw [if_pos hslot, if_pos hslot, beq_iff_eq.2 hslot.symm]
      rfl
    · rw [if_neg hslot, if_neg hslot, beq_eq_false_iff_ne.2 (Ne.symm hslot)]
      exact h slot
  | commit other =>
    rw [Session.step, prepared?]
    cases hother : s.draft? other with
    | none =>
      by_cases hslot : other = slot
      · rw [if_pos hslot, ← hslot]
        exact hother
      · rw [if_neg hslot]
        exact h slot
    | some draft =>
      dsimp only
      rw [Session.draft?, Session.draftsBut, lookup_filter_ne]
      by_cases hslot : other = slot
      · rw [if_pos hslot, if_pos hslot]
        rfl
      · rw [if_neg hslot, if_neg hslot]
        exact h slot

theorem Drafted.intake_step {s : Session} {earlier : List Step} (h : Drafted s earlier)
    (locales : Locales) (step : Step) :
    (s.step locales step).intake
      = (taking? locales earlier step).toList.foldl Intake.take s.intake := by
  cases step with
  | push line text => exact s.intake.push_eq_take locales line text
  | skip => rfl
  | prepare slot rowLocales line columns => rfl
  | commit slot =>
    rw [Session.step, taking?, h slot]
    cases prepared? slot earlier with
    | none => rfl
    | some row => exact s.intake.commit_draft row

theorem Drafted.intake_foldl_step {s : Session} {earlier : List Step} (h : Drafted s earlier)
    (locales : Locales) (steps : List Step) :
    (steps.foldl (Session.step locales) s).intake
      = (takingsAfter locales earlier steps).foldl Intake.take s.intake := by
  induction steps generalizing s earlier with
  | nil => rfl
  | cons step rest ih =>
    rw [List.foldl_cons, ih (h.step locales step), h.intake_step, takingsAfter, List.foldl_append]

/-- **The intake of a session is what its takings lead to**, as if each row were read when it is
taken in. -/
theorem intake_run (locales : Locales) (steps : List Step) :
    (Session.run locales steps).intake = (takings locales steps).foldl Intake.take .empty :=
  drafted_empty.intake_foldl_step locales steps

end LogCatalog.Run
