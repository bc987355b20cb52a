import LogCatalog.Row.Draft
import LogCatalog.Row.Split
import LogCatalog.Run.Event
import LogCatalog.Run.Failure

/-!
# Intake of rows

What a run has taken in so far.  Each step of an intake is a line, a draft that was read before, or
a line to skip; `Intake.finish` ends it.
-/

namespace LogCatalog.Run

open Row

structure Intake where
  registry : Registry
  /-- The definitions of the accepted rows. -/
  definitions : Array Definition
  /-- The diagnostics of the rejected rows. -/
  runLog : Array Diagnostic
  rejected : Nat
  skipped : Nat
  /-- What has been reported. -/
  events : Array Event
  deriving DecidableEq, Repr

/-- What came of a run: what it reported, and its definitions, if it has any. -/
structure Report where
  events : List Event
  outcome : Except Failure (List Definition)

namespace Intake

def empty : Intake where
  registry := .empty
  definitions := #[]
  runLog := #[]
  rejected := 0
  skipped := 0
  events := #[]

def record (intake : Intake) (line : Nat) : Verdict × Registry → Intake
  | (⟨some definition, _⟩, registry) =>
    { intake with
      registry
      definitions := intake.definitions.push definition
      events := intake.events.push (.accepted line definition.name definition.id) }
  | (⟨none, diagnostics⟩, registry) =>
    { intake with
      registry
      runLog := intake.runLog ++ diagnostics.toArray
      rejected := intake.rejected + 1
      events := intake.events.push (.rejected line diagnostics.length) }

/-- Judges a draft and records what becomes of it. -/
def commit (intake : Intake) (draft : Draft) : Intake :=
  intake.record draft.line (draft.commit intake.registry)

def skip (intake : Intake) : Intake := { intake with skipped := intake.skipped + 1 }

def push (locales : Locales) (intake : Intake) (line : Nat) (text : Text) : Intake :=
  match columns? text with
  | some columns => intake.record line (validate locales columns line intake.registry)
  | none => intake.skip

/-- Ends the intake.  Without any definition it has failed. -/
def finish (intake : Intake) : Report :=
  let finished := Event.finished intake.definitions.size intake.rejected intake.skipped
  if intake.definitions.isEmpty then
    { events := intake.events.toList ++ [finished, .nothingValid intake.rejected]
      outcome := .error (.nothingValid (intake.runLog.toList.map Diagnostic.render)) }
  else
    { events := intake.events.toList ++ [finished]
      outcome := .ok intake.definitions.toList }

end Intake

end LogCatalog.Run
