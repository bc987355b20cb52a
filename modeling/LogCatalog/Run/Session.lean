import LogCatalog.Run.Intake

/-!
# Sessions

An intake may be driven step by step.  Lines are taken in or skipped; besides, rows may be read
ahead, at any time, and their drafts be judged later, in any order.

* `Session.step`: what one step does.
* `Session.run`: the session after a sequence of steps.
-/

namespace LogCatalog.Run

open Row

inductive Step where
  /-- Takes in a line. -/
  | push (line : Nat) (text : Text)
  /-- Counts a line without a row. -/
  | skip
  /-- Reads the columns of a row, with locales of its own, and keeps the draft in a slot. -/
  | prepare (slot : Text) (locales : Locales) (line : Nat) (columns : List Text)
  /-- Takes the draft out of a slot and judges it. -/
  | commit (slot : Text)
  deriving DecidableEq, Repr

/-- An intake, and the drafts that were read and not yet judged, each in its slot. -/
structure Session where
  intake : Intake
  drafts : List (Text × Draft)
  deriving DecidableEq, Repr

namespace Session

def empty : Session := ⟨.empty, []⟩

def draft? (s : Session) (slot : Text) : Option Draft := s.drafts.lookup slot

def draftsBut (s : Session) (slot : Text) : List (Text × Draft) := s.drafts.filter (·.1 ≠ slot)

/-- What one step does.  Lines are read with the locales of the session.  Judging an empty slot does
nothing. -/
def step (locales : Locales) (s : Session) : Step → Session
  | .push line text => { s with intake := s.intake.push locales line text }
  | .skip => { s with intake := s.intake.skip }
  | .prepare slot rowLocales line columns =>
    { s with drafts := (slot, Draft.ofColumns rowLocales columns line) :: s.draftsBut slot }
  | .commit slot =>
    match s.draft? slot with
    | none => s
    | some draft => { intake := s.intake.commit draft, drafts := s.draftsBut slot }

def run (locales : Locales) (steps : List Step) : Session := steps.foldl (step locales) empty

end Session

end LogCatalog.Run
