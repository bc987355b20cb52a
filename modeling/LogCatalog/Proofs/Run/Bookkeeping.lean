import LogCatalog.Proofs.Row.Acceptance
import LogCatalog.Proofs.Run.Takings
import Mathlib.Data.List.ReduceOption

/-!
# Bookkeeping of an intake

An intake keeps definitions, a log, two counts and events.  Each thing that it takes in changes them
together, in one of three ways, and so they agree after any number of steps.

* `Adds`: the three ways; `adds_take`: there is no other.
* `judgements`: what became of each thing that a session took in, in order.
* `Booked`, `Booked.adds`, `booked_run`: an intake shows what became of everything it took in.
* `nothing_lost`: what this means for each step, for the counts, and for the end of a session.
-/

namespace LogCatalog.Run

open Row

/-! ### What becomes of what is taken in -/

structure Judgement where
  line : Nat
  verdict : Verdict
  deriving DecidableEq, Repr

namespace Judgement

/-- What the judgement puts in the log: the diagnostics of a rejected row. -/
def logged (j : Judgement) : List Diagnostic :=
  if j.verdict.definition? = none then j.verdict.diagnostics else []

def event (j : Judgement) : Event :=
  match j.verdict.definition? with
  | some d => .accepted j.line d.name d.id
  | none => .rejected j.line j.verdict.diagnostics.length

end Judgement

/-- What becomes of something that is taken in, unless it is a line without a row. -/
def Taking.judge (registry : Registry) : Taking → Option Judgement
  | .row r => some ⟨r.line, (validate r.locales r.columns r.line registry).1⟩
  | .skipped => none

def judgementsFrom (intake : Intake) : List Taking → List (Option Judgement)
  | [] => []
  | taking :: rest => taking.judge intake.registry :: judgementsFrom (intake.take taking) rest

/-- What became of each thing that a session took in, in order. -/
def judgements (locales : Locales) (steps : List Step) : List (Option Judgement) :=
  judgementsFrom .empty (takings locales steps)

/-- What is added to an intake: one definition, or the diagnostics of one rejected row, of which one
is fatal, or one skipped line.  Nothing that was there changes. -/
inductive Adds (before after : Intake) : Option Judgement → Prop
  | definition {line : Nat} {verdict : Verdict} {d : Definition}
      (accepted : verdict.definition? = some d)
      (eq : after = { before with
        registry := before.registry.insert d.name d.identifier line
        definitions := before.definitions.push d
        events := before.events.push (.accepted line d.name d.id) }) :
      Adds before after (some ⟨line, verdict⟩)
  | rejection {line : Nat} {verdict : Verdict}
      (rejected : verdict.definition? = none)
      (fatal : ∃ note ∈ verdict.diagnostics, note.isFatal = true)
      (eq : after = { before with
        runLog := before.runLog ++ verdict.diagnostics.toArray
        rejected := before.rejected + 1
        events := before.events.push (.rejected line verdict.diagnostics.length) }) :
      Adds before after (some ⟨line, verdict⟩)
  | skip (eq : after = { before with skipped := before.skipped + 1 }) : Adds before after none

/-- **Each thing that is taken in is added in one of the three ways.** -/
theorem adds_take (intake : Intake) (taking : Taking) :
    Adds intake (intake.take taking) (taking.judge intake.registry) := by
  cases taking with
  | skipped => exact .skip rfl
  | row row =>
    show Adds intake (intake.record row.line (row.draft.commit intake.registry))
      (some ⟨row.line, (row.draft.commit intake.registry).1⟩)
    rcases row.draft.commit_cases intake.registry with ⟨definition, -, hcommit⟩ | ⟨hcommit, -⟩
    · rw [hcommit, UnreadRow.draft, Draft.line_ofColumns]
      exact .definition rfl rfl
    · have hfatal : (row.draft.notes intake.registry).any Diagnostic.isFatal = true :=
        Draft.exists_isFatal_of_rejected (congrArg (·.1.definition?) hcommit)
      rw [hcommit]
      exact .rejection rfl (List.any_eq_true.1 hfatal) rfl

/-! ### Sessions, one step more at a time -/

theorem takingsAfter_append (locales : Locales) (earlier steps more : List Step) :
    takingsAfter locales earlier (steps ++ more)
      = takingsAfter locales earlier steps
        ++ takingsAfter locales (steps.reverse ++ earlier) more := by
  induction steps generalizing earlier with
  | nil => rfl
  | cons step rest ih =>
    rw [List.cons_append, takingsAfter, takingsAfter, ih, List.reverse_cons, List.append_assoc,
      List.append_assoc, List.singleton_append]

theorem takings_concat (locales : Locales) (steps : List Step) (step : Step) :
    takings locales (steps ++ [step])
      = takings locales steps ++ (taking? locales steps.reverse step).toList := by
  rw [takings, takingsAfter_append, List.append_nil, takingsAfter, takingsAfter, List.append_nil,
    takings]

theorem judgementsFrom_append (intake : Intake) (ts us : List Taking) :
    judgementsFrom intake (ts ++ us)
      = judgementsFrom intake ts ++ judgementsFrom (ts.foldl Intake.take intake) us := by
  induction ts generalizing intake with
  | nil => rfl
  | cons t rest ih => rw [List.cons_append, judgementsFrom, judgementsFrom, ih]; rfl

theorem length_judgementsFrom (intake : Intake) (ts : List Taking) :
    (judgementsFrom intake ts).length = ts.length := by
  induction ts generalizing intake with
  | nil => rfl
  | cons t rest ih => rw [judgementsFrom, List.length_cons, List.length_cons, ih]

theorem intake_run_concat (locales : Locales) (steps : List Step) (step : Step) :
    (Session.run locales (steps ++ [step])).intake
      = (taking? locales steps.reverse step).toList.foldl Intake.take
          (Session.run locales steps).intake := by
  rw [intake_run, takings_concat, List.foldl_append, ← intake_run]

theorem judgements_concat (locales : Locales) (steps : List Step) (step : Step) :
    judgements locales (steps ++ [step])
      = judgements locales steps
        ++ judgementsFrom (Session.run locales steps).intake
            (taking? locales steps.reverse step).toList := by
  rw [judgements, takings_concat, judgementsFrom_append, ← intake_run, judgements]

/-! ### The books -/

namespace Event

def isAccepted : Event → Bool
  | accepted .. => true
  | _ => false

def isRejected : Event → Bool
  | rejected .. => true
  | _ => false

def closes : Event → Bool
  | finished .. | nothingValid _ => true
  | _ => false

end Event

theorem Judgement.closes_event (j : Judgement) : j.event.closes = false := by
  rw [event]
  cases j.verdict.definition? with
  | none => rfl
  | some d => rfl

/-- An intake shows what became of everything that it took in. -/
structure Booked (intake : Intake) (judged : List (Option Judgement)) : Prop where
  definitions :
    intake.definitions.toList = judged.reduceOption.filterMap (·.verdict.definition?)
  runLog : intake.runLog.toList = judged.reduceOption.flatMap Judgement.logged
  events : intake.events.toList = judged.reduceOption.map Judgement.event
  accepted : intake.events.toList.countP Event.isAccepted = intake.definitions.size
  rejected : intake.events.toList.countP Event.isRejected = intake.rejected
  skipped : judged.countP Option.isNone = intake.skipped
  total : intake.definitions.size + intake.rejected + intake.skipped = judged.length

theorem booked_empty : Booked .empty [] := ⟨rfl, rfl, rfl, rfl, rfl, rfl, rfl⟩

/-- **What is added to an intake is booked.** -/
theorem Booked.adds {before after : Intake} {judged : List (Option Judgement)}
    {j : Option Judgement} (h : Booked before judged) (hadds : Adds before after j) :
    Booked after (judged ++ [j]) := by
  have htotal := h.total
  cases hadds with
  | @definition line verdict d accepted eq =>
    subst eq
    refine ⟨?_, ?_, ?_, ?_, ?_, ?_, ?_⟩
    · simp [List.reduceOption_append, h.definitions, accepted]
    · simp [List.reduceOption_append, h.runLog, Judgement.logged, accepted]
    · simp [List.reduceOption_append, h.events, Judgement.event, accepted]
    · simp [List.countP_append, h.accepted, Event.isAccepted]
    · simp [List.countP_append, h.rejected, Event.isRejected]
    · simp [List.countP_append, h.skipped]
    · simp only [Array.size_push, List.length_append, List.length_singleton]
      omega
  | @rejection line verdict rejected fatal eq =>
    subst eq
    refine ⟨?_, ?_, ?_, ?_, ?_, ?_, ?_⟩
    · simp [List.reduceOption_append, h.definitions, rejected]
    · simp [List.reduceOption_append, h.runLog, Judgement.logged, rejected]
    · simp [List.reduceOption_append, h.events, Judgement.event, rejected]
    · simp [List.countP_append, h.accepted, Event.isAccepted]
    · simp [List.countP_append, h.rejected, Event.isRejected]
    · simp [List.countP_append, h.skipped]
    · simp only [List.length_append, List.length_singleton]
      omega
  | skip eq =>
    subst eq
    refine ⟨?_, ?_, ?_, h.accepted, h.rejected, ?_, ?_⟩
    · simp [List.reduceOption_append, h.definitions]
    · simp [List.reduceOption_append, h.runLog]
    · simp [List.reduceOption_append, h.events]
    · simp [List.countP_append, h.skipped]
    · simp only [List.length_append, List.length_singleton]
      omega

theorem Booked.foldl_take {intake : Intake} {judged : List (Option Judgement)}
    (h : Booked intake judged) (ts : List Taking) :
    Booked (ts.foldl Intake.take intake) (judged ++ judgementsFrom intake ts) := by
  induction ts generalizing intake judged with
  | nil =>
    rw [judgementsFrom, List.append_nil]
    exact h
  | cons t rest ih =>
    have hrest := ih (h.adds (adds_take intake t))
    rw [List.append_assoc, List.singleton_append] at hrest
    exact hrest

/-- **The intake of a session shows what became of everything that the session took in.** -/
theorem booked_run (locales : Locales) (steps : List Step) :
    Booked (Session.run locales steps).intake (judgements locales steps) := by
  rw [intake_run]
  exact booked_empty.foldl_take (takings locales steps)

/-! ### The end of a session -/

/-- Where no row was accepted, the diagnostics of all rows are in the log. -/
theorem flatMap_logged {rows : List Judgement}
    (h : rows.filterMap (·.verdict.definition?) = []) :
    rows.flatMap Judgement.logged = rows.flatMap (·.verdict.diagnostics) :=
  List.flatMap_congr fun j hj => if_pos (List.filterMap_eq_nil_iff.1 h j hj)

theorem Intake.events_finish (intake : Intake) :
    intake.finish.events
      = intake.events.toList
        ++ .finished intake.definitions.size intake.rejected intake.skipped
        :: if intake.definitions.toList = [] then [.nothingValid intake.rejected] else [] := by
  rw [finish]
  split
  · next h => rw [if_pos (by simpa using h)]
  · next h => rw [if_neg (by simpa using h)]

theorem Intake.outcome_finish (intake : Intake) :
    intake.finish.outcome
      = if intake.definitions.toList = [] then
          .error (.nothingValid (intake.runLog.toList.map Diagnostic.render))
        else .ok intake.definitions.toList := by
  rw [finish]
  split
  · next h => rw [if_pos (by simpa using h)]
  · next h => rw [if_neg (by simpa using h)]

theorem Booked.closes_eq_false {intake : Intake} {judged : List (Option Judgement)}
    (h : Booked intake judged) : ∀ e ∈ intake.events.toList, e.closes = false := by
  intro e he
  rw [h.events] at he
  obtain ⟨j, -, rfl⟩ := List.mem_map.1 he
  exact j.closes_event

/-- A session warns exactly if it has no definitions. -/
theorem Booked.warns_iff {intake : Intake} {judged : List (Option Judgement)}
    (h : Booked intake judged) :
    (∃ n, .nothingValid n ∈ intake.finish.events) ↔ intake.definitions.toList = [] := by
  rw [Intake.events_finish]
  constructor
  · rintro ⟨n, hn⟩
    rcases List.mem_append.1 hn with hrow | hclosing
    · exact Bool.noConfusion (h.closes_eq_false _ hrow)
    · by_contra hne
      rw [if_neg hne, List.mem_singleton] at hclosing
      cases hclosing
  · intro hnil
    rw [if_pos hnil]
    exact ⟨_, List.mem_append_right _ (List.mem_cons_of_mem _ (List.mem_cons_self ..))⟩

theorem Intake.countP_finish {p : Event → Bool} (hfinished : ∀ a r s, p (.finished a r s) = false)
    (hwarning : ∀ n, p (.nothingValid n) = false) (intake : Intake) :
    intake.finish.events.countP p = intake.events.toList.countP p := by
  rw [events_finish]
  split <;> simp [hfinished, hwarning]

/-- **Nothing is lost and nothing is counted twice.**  Each step of a session that takes something
in adds a definition, or a rejected row with its diagnostics, or a skipped line, and changes nothing
that was there; a step that takes nothing in changes nothing.  So definitions and log come in the
order of the steps, and everything taken in is counted once.  At the end there is one event for
each row, in the order of the steps, and then the summary, whose counts are those of the events and
of the skipped lines.  The session warns exactly if it fails for want of definitions, and then its
failure reports the diagnostics of all rows. -/
theorem nothing_lost (locales : Locales) (steps : List Step) :
    let intake := (Session.run locales steps).intake
    let judged := judgements locales steps
    let rows := judged.reduceOption
    let report := intake.finish
    let accepted := report.events.countP Event.isAccepted
    let rejected := report.events.countP Event.isRejected
    (∀ step,
        match taking? locales steps.reverse step with
        | some taking =>
          Adds intake (Session.run locales (steps ++ [step])).intake
              (taking.judge intake.registry)
            ∧ judgements locales (steps ++ [step]) = judged ++ [taking.judge intake.registry]
        | none =>
          (Session.run locales (steps ++ [step])).intake = intake
            ∧ judgements locales (steps ++ [step]) = judged)
      ∧ judged.length = (takings locales steps).length
      ∧ intake.definitions.size + intake.rejected + intake.skipped = judged.length
      ∧ intake.definitions.toList = rows.filterMap (·.verdict.definition?)
      ∧ intake.runLog.toList = rows.flatMap Judgement.logged
      ∧ report.events
        = rows.map Judgement.event
          ++ .finished accepted rejected (judged.countP Option.isNone)
          :: (if rows.filterMap (·.verdict.definition?) = [] then [.nothingValid rejected] else [])
      ∧ ((∃ n, .nothingValid n ∈ report.events) ↔
          ∃ reports, report.outcome = .error (.nothingValid reports))
      ∧ report.outcome
        = if rows.filterMap (·.verdict.definition?) = [] then
            .error (.nothingValid
              ((rows.flatMap (·.verdict.diagnostics)).map Diagnostic.render))
          else .ok (rows.filterMap (·.verdict.definition?)) := by
  intro intake judged rows report accepted rejected
  have h : Booked intake judged := booked_run locales steps
  have haccepted : accepted = intake.definitions.size :=
    (intake.countP_finish (fun _ _ _ => rfl) fun _ => rfl).trans h.accepted
  have hrejected : rejected = intake.rejected :=
    (intake.countP_finish (fun _ _ _ => rfl) fun _ => rfl).trans h.rejected
  refine ⟨fun step => ?_, length_judgementsFrom .empty _, h.total, h.definitions, h.runLog, ?_, ?_,
    ?_⟩
  · rw [intake_run_concat, judgements_concat]
    cases taking? locales steps.reverse step with
    | none => exact ⟨rfl, List.append_nil _⟩
    | some taking => exact ⟨adds_take intake taking, rfl⟩
  · rw [haccepted, hrejected, h.skipped, ← h.definitions, ← h.events]
    exact intake.events_finish
  · rw [h.warns_iff, intake.outcome_finish]
    split
    · next hnil => exact ⟨fun _ => ⟨_, rfl⟩, fun _ => hnil⟩
    · next hne => exact ⟨fun hnil => absurd hnil hne, fun ⟨reports, hreports⟩ => nomatch hreports⟩
  · rw [← h.definitions]
    show intake.finish.outcome = _
    rw [intake.outcome_finish]
    split
    · next hnil =>
      rw [h.definitions] at hnil
      rw [h.runLog, flatMap_logged hnil]
    · rfl

end LogCatalog.Run
