import LogCatalog.Proofs.Cancellation.Descent
import Mathlib.Data.Option.Basic

/-!
# Reports of tokens

A desk gives each source a flag and lets each token watch one.  After any sequence of actions the
flag under a name is that of the source which is held there, the flag that a token watches is that
of the source which it descends from or one that no source has, and exactly the flags of cancelled
sources are raised.

* `Desk.after`: the desk after so many actions of a sequence.
* `Reflects`: a desk agrees with the actions that led to it.
* `Reflects.step`: an action keeps this.
* `cancellation_by_descent`: so a token reports cancelled exactly if its own source was cancelled.
-/

namespace LogCatalog.Cancellation

namespace Desk

/-- Does an action.  Where a source or a token that it uses is not held, nothing is done. -/
def step (d : Desk) (action : Action) : Desk := (d.apply action).getD d

def run (actions : List Action) : Desk := actions.foldl step empty

def after (actions : List Action) (moment : Nat) : Desk := run (actions.take moment)

def isSourceCancelled? (d : Desk) (source : Text) : Option Bool :=
  (d.sources.lookup source).map d.isRaised

theorem after_succ (actions : List Action) (moment : Nat) :
    after actions (moment + 1) = actions[moment]?.toList.foldl step (after actions moment) := by
  rw [after, run, List.take_add_one, List.foldl_append]
  rfl

/-! ### What an action does -/

theorem step_takeToken (d : Desk) (name source : Text) :
    d.step (.takeToken name source) =
      { d with
        tokens := (d.sources.lookup source).elim d.tokens fun number =>
          d.tokens.put name number } := by
  rw [step, apply]
  cases d.sources.lookup source <;> rfl

theorem step_cloneToken (d : Desk) (name token : Text) :
    d.step (.cloneToken name token) =
      { d with
        tokens := (d.tokens.lookup token).elim d.tokens fun number =>
          d.tokens.put name number } := by
  rw [step, apply]
  cases d.tokens.lookup token <;> rfl

theorem step_cancel (d : Desk) (source : Text) :
    d.step (.cancel source) =
      { d with
        raised := (d.sources.lookup source).elim d.raised fun number =>
          d.raised.set number true } := by
  rw [step, apply]
  cases d.sources.lookup source <;> rfl

/-- Only making and dropping a source change what is held under its name. -/
theorem lookup_sources_step (d : Desk) (action : Action) (name : Text) :
    (d.step action).sources.lookup name =
      match action with
      | .makeSource other => if name = other then some d.raised.length else d.sources.lookup name
      | .dropSource other => if name = other then none else d.sources.lookup name
      | _ => d.sources.lookup name := by
  cases action with
  | makeSource other => exact Held.lookup_put other _ d.sources name
  | dropSource other => exact Held.lookup_drop other d.sources name
  | makeIdleToken other => rfl
  | takeToken other source => rw [step_takeToken]
  | cloneToken other token => rw [step_cloneToken]
  | cancel source => rw [step_cancel]

/-- The flag of a new token is read off the source or the token that it comes from, or it is
new. -/
theorem lookup_tokens_step (d : Desk) (action : Action) (name : Text) :
    (d.step action).tokens.lookup name =
      match action with
      | .takeToken other source =>
        if name = other then (d.sources.lookup source).or (d.tokens.lookup name)
        else d.tokens.lookup name
      | .makeIdleToken other => if name = other then some d.raised.length else d.tokens.lookup name
      | .cloneToken other token =>
        if name = other then (d.tokens.lookup token).or (d.tokens.lookup name)
        else d.tokens.lookup name
      | _ => d.tokens.lookup name := by
  cases action with
  | makeSource other => rfl
  | dropSource other => rfl
  | makeIdleToken other => exact Held.lookup_put other _ d.tokens name
  | takeToken other source =>
    rw [step_takeToken]
    cases hsource : d.sources.lookup source with
    | none => simp [hsource]
    | some number => simpa [hsource] using Held.lookup_put other number d.tokens name
  | cloneToken other token =>
    rw [step_cloneToken]
    cases htoken : d.tokens.lookup token with
    | none => simp [htoken]
    | some number => simpa [htoken] using Held.lookup_put other number d.tokens name
  | cancel source => rw [step_cancel]

theorem getD_concat_false (raised : List Bool) (number : Nat) :
    (raised ++ [false])[number]?.getD false = raised[number]?.getD false := by
  rcases Nat.lt_trichotomy number raised.length with hlt | rfl | hlt
  · rw [List.getElem?_append_left hlt]
  · rw [List.getElem?_concat_length, List.getElem?_eq_none (Nat.le_refl _)]
    rfl
  · rw [List.getElem?_eq_none (by rw [List.length_append]; exact hlt),
      List.getElem?_eq_none (Nat.le_of_lt hlt)]

theorem isRaised_makeSource (d : Desk) (name : Text) (number : Nat) :
    (d.step (.makeSource name)).isRaised number = d.isRaised number :=
  getD_concat_false d.raised number

theorem isRaised_makeIdleToken (d : Desk) (name : Text) (number : Nat) :
    (d.step (.makeIdleToken name)).isRaised number = d.isRaised number :=
  getD_concat_false d.raised number

/-- A flag is raised by cancelling the source that has it. -/
theorem isRaised_step (d : Desk) (action : Action) (number : Nat) :
    (d.step action).isRaised number = true ↔
      d.isRaised number = true
        ∨ ∃ source, action = .cancel source ∧ d.sources.lookup source = some number
          ∧ number < d.raised.length := by
  cases action with
  | makeSource name =>
    rw [isRaised_makeSource]
    simp
  | dropSource name => simp [step, apply, isRaised]
  | makeIdleToken name =>
    rw [isRaised_makeIdleToken]
    simp
  | takeToken name source => simp [step_takeToken, isRaised]
  | cloneToken name token => simp [step_cloneToken, isRaised]
  | cancel source =>
    rw [step_cancel]
    cases hsource : d.sources.lookup source with
    | none => simp [hsource, isRaised]
    | some raised =>
      show ((d.raised.set raised true)[number]?).getD false = true ↔ _
      rw [List.getElem?_set]
      by_cases hnumber : raised = number
      · subst hnumber
        by_cases hlt : raised < d.raised.length
        · simp [hlt, hsource]
        · simp [hlt, isRaised]
      · simp [hnumber, hsource, isRaised]

end Desk

/-! ### Agreement with the actions -/

def Action.makesFlag : Action → Bool
  | makeSource _ | makeIdleToken _ => true
  | _ => false

variable {actions : List Action} {moment : Nat} {d : Desk} {action : Action}

theorem Desk.length_raised_step (d : Desk) (action : Action) :
    (d.step action).raised.length = d.raised.length + if action.makesFlag then 1 else 0 := by
  cases action with
  | makeSource other => exact List.length_append
  | dropSource other => rfl
  | makeIdleToken other => exact List.length_append
  | takeToken other source =>
    rw [step_takeToken]
    rfl
  | cloneToken other token =>
    rw [step_cloneToken]
    rfl
  | cancel source =>
    rw [step_cancel]
    cases d.sources.lookup source with
    | none => rfl
    | some number => exact List.length_set

/-- How many flags were made before a moment.  So many is the number of a flag that is made then. -/
def flagsBefore (actions : List Action) (moment : Nat) : Nat :=
  (actions.take moment).countP Action.makesFlag

/-- The flag that a token watches according to its descent: that of its source, or one that was
made with a token. -/
inductive Watches (actions : List Action) : Nat → Nat → Prop
  | source {token made : Nat} : Descends actions token made →
      Watches actions token (flagsBefore actions made)
  | idle {token made : Nat} {name : Text} : Idle actions token →
      actions[made]? = some (.makeIdleToken name) → Watches actions token (flagsBefore actions made)

theorem Watches.cloned {token original number : Nat} {name other : Text}
    (h : Watches actions original number) (ha : actions[token]? = some (.cloneToken name other))
    (horiginal : tokenAt? actions token other = some original) : Watches actions token number := by
  cases h with
  | source hdesc => exact .source (.cloned ha horiginal hdesc)
  | idle hidle hmade => exact .idle (.cloned ha horiginal hidle) hmade

/-- A desk agrees with the actions done before a moment. -/
structure Reflects (actions : List Action) (moment : Nat) (d : Desk) : Prop where
  count : d.raised.length = flagsBefore actions moment
  sources : ∀ name,
    d.sources.lookup name = (sourceAt? actions moment name).map (flagsBefore actions)
  raised : ∀ made name, actions[made]? = some (.makeSource name) →
    (d.isRaised (flagsBefore actions made) = true ↔ CancelledBefore actions moment made)
  idle : ∀ made name, actions[made]? = some (.makeIdleToken name) →
    d.isRaised (flagsBefore actions made) = false
  tokens : ∀ name,
    Option.Rel (Watches actions) (tokenAt? actions moment name) (d.tokens.lookup name)

theorem flagsBefore_succ (ha : actions[moment]? = some action) :
    flagsBefore actions (moment + 1)
      = flagsBefore actions moment + if action.makesFlag then 1 else 0 := by
  rw [flagsBefore, List.take_add_one, ha, List.countP_append]
  exact congrArg _ List.countP_singleton

theorem flagsBefore_mono (actions : List Action) {later : Nat} (h : moment ≤ later) :
    flagsBefore actions moment ≤ flagsBefore actions later :=
  (List.take_sublist_take_left h).countP_le

section

variable {made other : Nat} {first second : Action}

theorem flagsBefore_lt (ha : actions[made]? = some first) (hfirst : first.makesFlag = true)
    (h : made < moment) : flagsBefore actions made < flagsBefore actions moment := by
  have hle := flagsBefore_mono actions (Nat.succ_le_of_lt h)
  rw [Nat.succ_eq_add_one, flagsBefore_succ ha, if_pos hfirst] at hle
  exact Nat.lt_of_succ_le hle

theorem flagsBefore_inj (ha : actions[made]? = some first) (hfirst : first.makesFlag = true)
    (hother : actions[other]? = some second) (hsecond : second.makesFlag = true)
    (h : flagsBefore actions made = flagsBefore actions other) : made = other := by
  rcases Nat.lt_trichotomy made other with hlt | heq | hlt
  · exact absurd h (Nat.ne_of_lt (flagsBefore_lt ha hfirst hlt))
  · exact heq
  · exact absurd h.symm (Nat.ne_of_lt (flagsBefore_lt hother hsecond hlt))

end

theorem reflects_empty (actions : List Action) : Reflects actions 0 .empty where
  count := rfl
  sources _ := rfl
  raised made name ha := by
    constructor
    · intro h
      cases h
    · rintro ⟨earlier, hlt, -⟩
      cases hlt
  idle _ _ _ := rfl
  tokens _ := .none

namespace Reflects

theorem count_step (h : Reflects actions moment d) (ha : actions[moment]? = some action) :
    (d.step action).raised.length = flagsBefore actions (moment + 1) := by
  rw [Desk.length_raised_step, flagsBefore_succ ha, h.count]

theorem sources_step (h : Reflects actions moment d) (ha : actions[moment]? = some action)
    (name : Text) :
    (d.step action).sources.lookup name
      = (sourceAt? actions (moment + 1) name).map (flagsBefore actions) := by
  rw [Desk.lookup_sources_step, sourceAt?, ha]
  cases action with
  | makeSource other =>
    dsimp only
    split
    · rw [h.count]
      rfl
    · exact h.sources name
  | dropSource other =>
    dsimp only
    split
    · rfl
    · exact h.sources name
  | _ => exact h.sources name

/-- The flag under the name of a source is that of one source only. -/
theorem lookup_sources_eq_some_iff (h : Reflects actions moment d) {made : Nat} {action : Action}
    (hmade : actions[made]? = some action) (hflag : action.makesFlag = true) {name : Text} :
    d.sources.lookup name = some (flagsBefore actions made)
      ↔ sourceAt? actions moment name = some made := by
  rw [h.sources, Option.map_eq_some_iff]
  constructor
  · rintro ⟨other, hother, hnumber⟩
    obtain ⟨-, hother'⟩ := made_of_sourceAt? hother
    rwa [← flagsBefore_inj hother' rfl hmade hflag hnumber]
  · intro hsource
    exact ⟨made, hsource, rfl⟩

/-- The source that is cancelled is the one held under the name, and no other one has its flag. -/
theorem raised_step (h : Reflects actions moment d) (ha : actions[moment]? = some action)
    {made : Nat} {name : Text} (hmade : actions[made]? = some (.makeSource name)) :
    (d.step action).isRaised (flagsBefore actions made) = true ↔
      CancelledBefore actions (moment + 1) made := by
  rw [Desk.isRaised_step, cancelledBefore_succ, h.raised made name hmade]
  refine or_congr Iff.rfl (exists_congr fun source => ?_)
  rw [ha, Option.some_inj, h.lookup_sources_eq_some_iff hmade rfl]
  refine and_congr_right fun _ => and_iff_left_of_imp fun hsource => ?_
  rw [h.count]
  exact flagsBefore_lt hmade rfl (made_of_sourceAt? hsource).1

/-- No source has the flag of a token that was made without one. -/
theorem idle_step (h : Reflects actions moment d) {made : Nat} {name : Text}
    (hmade : actions[made]? = some (.makeIdleToken name)) :
    (d.step action).isRaised (flagsBefore actions made) = false := by
  rw [Bool.eq_false_iff, ne_eq, Desk.isRaised_step]
  rintro (hraised | ⟨source, -, hsource, -⟩)
  · rw [h.idle made name hmade] at hraised
    cases hraised
  · rw [h.lookup_sources_eq_some_iff hmade rfl] at hsource
    cases hmade.symm.trans (made_of_sourceAt? hsource).2

theorem lookup_tokens_eq_none {name : Text} (h : Reflects actions moment d)
    (hnone : tokenAt? actions moment name = none) : d.tokens.lookup name = none := by
  have hrel := h.tokens name
  rw [hnone] at hrel
  cases hnumber : d.tokens.lookup name with
  | none => rfl
  | some number =>
    rw [hnumber] at hrel
    cases hrel

theorem exists_watches {name : Text} {token : Nat} (h : Reflects actions moment d)
    (htoken : tokenAt? actions moment name = some token) :
    ∃ number, d.tokens.lookup name = some number ∧ Watches actions token number := by
  have hrel := h.tokens name
  rw [htoken] at hrel
  cases hnumber : d.tokens.lookup name with
  | none =>
    rw [hnumber] at hrel
    cases hrel
  | some number =>
    rw [hnumber] at hrel
    cases hrel with
    | some hwatches => exact ⟨number, rfl, hwatches⟩

theorem tokens_step (h : Reflects actions moment d) (ha : actions[moment]? = some action)
    (name : Text) :
    Option.Rel (Watches actions) (tokenAt? actions (moment + 1) name)
      ((d.step action).tokens.lookup name) := by
  rw [Desk.lookup_tokens_step, tokenAt?, ha]
  cases action with
  | makeSource other => exact h.tokens name
  | dropSource other => exact h.tokens name
  | cancel source => exact h.tokens name
  | makeIdleToken other =>
    dsimp only
    split
    · rw [h.count]
      exact .some (.idle (.made ha) ha)
    · exact h.tokens name
  | takeToken other source =>
    dsimp only
    rw [h.sources source]
    by_cases hname : name = other
    · cases hsource : sourceAt? actions moment source with
      | none => simpa [hname] using h.tokens other
      | some made =>
        rw [if_pos hname, if_pos ⟨hname, rfl⟩]
        exact .some (.source (.taken ha hsource))
    · rw [if_neg hname, if_neg fun hand => hname hand.1]
      exact h.tokens name
  | cloneToken other token =>
    dsimp only
    by_cases hname : name = other
    · cases horiginal : tokenAt? actions moment token with
      | none => simpa [hname, h.lookup_tokens_eq_none horiginal] using h.tokens other
      | some original =>
        obtain ⟨number, hnumber, hwatches⟩ := h.exists_watches horiginal
        rw [if_pos hname, if_pos ⟨hname, rfl⟩, hnumber]
        exact .some (hwatches.cloned ha horiginal)
    · rw [if_neg hname, if_neg fun hand => hname hand.1]
      exact h.tokens name

/-- **An action keeps the desk in line with the actions done.** -/
theorem step (h : Reflects actions moment d) (ha : actions[moment]? = some action) :
    Reflects actions (moment + 1) (d.step action) where
  count := h.count_step ha
  sources := h.sources_step ha
  raised _ _ := h.raised_step ha
  idle _ _ := h.idle_step
  tokens := h.tokens_step ha

end Reflects

theorem reflects_after (h : moment ≤ actions.length) :
    Reflects actions moment (Desk.after actions moment) := by
  induction moment with
  | zero => exact reflects_empty actions
  | succ moment ih =>
    rw [Desk.after_succ, List.getElem?_eq_getElem h]
    exact (ih (Nat.le_of_succ_le h)).step (List.getElem?_eq_getElem h)

/-! ### Reports -/

namespace Reflects

variable {name : Text}

theorem isCancelled?_eq_none_iff (h : Reflects actions moment d) :
    d.isCancelled? name = none ↔ tokenAt? actions moment name = none := by
  rw [Desk.isCancelled?, Option.map_eq_none_iff]
  refine ⟨fun hnone => ?_, h.lookup_tokens_eq_none⟩
  refine Option.eq_none_iff_forall_ne_some.2 fun token htoken => ?_
  obtain ⟨number, hnumber, -⟩ := h.exists_watches htoken
  rw [hnone] at hnumber
  cases hnumber

/-- A token has no source or descends from exactly one. -/
theorem idle_or_descends {token : Nat} (h : Reflects actions moment d)
    (htoken : tokenAt? actions moment name = some token) :
    (Idle actions token ∧ ¬ ∃ made, Descends actions token made)
      ∨ ∃! made, Descends actions token made := by
  obtain ⟨number, -, hwatches⟩ := h.exists_watches htoken
  cases hwatches with
  | idle hidle _ => exact .inl ⟨hidle, fun ⟨_, hdesc⟩ => hidle.not_descends hdesc⟩
  | source hdesc => exact .inr ⟨_, hdesc, fun _ hother => hdesc.unique hother⟩

theorem isCancelled?_eq_some_true_iff {token : Nat} (h : Reflects actions moment d)
    (htoken : tokenAt? actions moment name = some token) :
    d.isCancelled? name = some true ↔
      ∃ made, Descends actions token made ∧ CancelledBefore actions moment made := by
  obtain ⟨number, hnumber, hwatches⟩ := h.exists_watches htoken
  rw [Desk.isCancelled?, hnumber, Option.map_some, Option.some_inj]
  cases hwatches with
  | idle hidle hmade =>
    rw [h.idle _ _ hmade]
    constructor
    · intro hraised
      cases hraised
    · rintro ⟨made, hdesc, -⟩
      exact absurd hdesc hidle.not_descends
  | source hdesc =>
    obtain ⟨source, hmade⟩ := hdesc.exists_makeSource
    rw [h.raised _ source hmade]
    constructor
    · exact fun hcancelled => ⟨_, hdesc, hcancelled⟩
    · rintro ⟨other, hother, hcancelled⟩
      rwa [hdesc.unique hother] at hcancelled

theorem isCancelled?_of_idle {token : Nat} (h : Reflects actions moment d)
    (htoken : tokenAt? actions moment name = some token) (hidle : Idle actions token) :
    d.isCancelled? name = some false := by
  cases hreport : d.isCancelled? name with
  | none =>
    rw [h.isCancelled?_eq_none_iff.1 hreport] at htoken
    cases htoken
  | some report =>
    cases report with
    | false => rfl
    | true =>
      obtain ⟨made, hdesc, -⟩ := (h.isCancelled?_eq_some_true_iff htoken).1 hreport
      exact absurd hdesc hidle.not_descends

theorem isSourceCancelled?_eq_some_true_iff {made : Nat} (h : Reflects actions moment d)
    (hsource : sourceAt? actions moment name = some made) :
    d.isSourceCancelled? name = some true ↔ CancelledBefore actions moment made := by
  rw [Desk.isSourceCancelled?, h.sources, hsource, Option.map_some, Option.map_some,
    Option.some_inj, h.raised made name (made_of_sourceAt? hsource).2]

end Reflects

/-- Letting go of a source, or giving its name to a new one, changes the report of no token. -/
theorem tokenStates_step_source (d : Desk) (name : Text) :
    (d.step (.dropSource name)).tokenStates = d.tokenStates
      ∧ (d.step (.makeSource name)).tokenStates = d.tokenStates := by
  refine ⟨rfl, List.map_congr_left fun entry _ => ?_⟩
  obtain ⟨token, number⟩ := entry
  exact congrArg (token, ·) (d.isRaised_makeSource name number)

/-- **A token reports cancelled exactly if its own source was cancelled.**  At every moment the
tokens that report are those that are held, and one of them reports cancelled exactly if the source
from which it descends was cancelled before that moment, whatever is now held under the name of the
source; each token descends from exactly one source, or it has none and never reports
cancelled.  A source reports its own cancellation in the same way.  Dropping a source and making a
source under a name change no report of a token.  Tokens and sources that are cancelled stay so. -/
theorem cancellation_by_descent (actions : List Action) :
    (∀ moment ≤ actions.length, ∀ name,
        ((Desk.after actions moment).isCancelled? name = none ↔
          tokenAt? actions moment name = none)
        ∧ (∀ token, tokenAt? actions moment name = some token →
            ((Desk.after actions moment).isCancelled? name = some true ↔
              ∃ made, Descends actions token made ∧ CancelledBefore actions moment made)
            ∧ ((Idle actions token ∧ ¬ ∃ made, Descends actions token made)
              ∨ ∃! made, Descends actions token made)
            ∧ (Idle actions token → (Desk.after actions moment).isCancelled? name = some false))
        ∧ ∀ made, sourceAt? actions moment name = some made →
            ((Desk.after actions moment).isSourceCancelled? name = some true ↔
              CancelledBefore actions moment made))
      ∧ (∀ (d : Desk) name, (d.step (.dropSource name)).tokenStates = d.tokenStates
          ∧ (d.step (.makeSource name)).tokenStates = d.tokenStates)
      ∧ ∀ later ≤ actions.length, ∀ moment ≤ later, ∀ name other,
          (∀ token, tokenAt? actions moment name = some token →
            tokenAt? actions later other = some token →
            (Desk.after actions moment).isCancelled? name = some true →
              (Desk.after actions later).isCancelled? other = some true)
          ∧ ∀ made, sourceAt? actions moment name = some made →
            sourceAt? actions later other = some made →
            (Desk.after actions moment).isSourceCancelled? name = some true →
              (Desk.after actions later).isSourceCancelled? other = some true := by
  refine ⟨fun moment hle name => ?_, tokenStates_step_source,
    fun later hlater moment hle name other => ?_⟩
  · have h : Reflects actions moment (Desk.after actions moment) := reflects_after hle
    exact ⟨h.isCancelled?_eq_none_iff, fun token htoken =>
      ⟨h.isCancelled?_eq_some_true_iff htoken, h.idle_or_descends htoken,
        h.isCancelled?_of_idle htoken⟩,
      fun made hsource => h.isSourceCancelled?_eq_some_true_iff hsource⟩
  · have h : Reflects actions moment (Desk.after actions moment) :=
      reflects_after (Nat.le_trans hle hlater)
    have h' : Reflects actions later (Desk.after actions later) := reflects_after hlater
    refine ⟨fun token htoken htoken' hreport => ?_, fun made hsource hsource' hreport => ?_⟩
    · obtain ⟨made, hdesc, hcancelled⟩ := (h.isCancelled?_eq_some_true_iff htoken).1 hreport
      exact (h'.isCancelled?_eq_some_true_iff htoken').2 ⟨made, hdesc, hcancelled.mono hle⟩
    · rw [h.isSourceCancelled?_eq_some_true_iff hsource] at hreport
      exact (h'.isSourceCancelled?_eq_some_true_iff hsource').2 (hreport.mono hle)

/-- A name given to a new source: the clone of a token of the old source does not see the new one
cancelled, and the token of the new source does. -/
example :
    (Desk.run
      [.makeSource "s", .takeToken "t" "s", .cloneToken "u" "t", .makeSource "s",
        .takeToken "t" "s", .cancel "s", .dropSource "s"]).tokenStates
      = [(("t" : Text), true), (("u" : Text), false)] := by decide

end LogCatalog.Cancellation
