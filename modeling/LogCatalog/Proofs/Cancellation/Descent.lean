import LogCatalog.Cancellation

/-!
# Descent of tokens

Names of sources and tokens may be given away again, so here every source and every token is known
by the moment at which it was made: by how many actions were done before.  All is read off the
actions alone, without a desk.

* `sourceAt?`, `tokenAt?`: which source or token is held under a name at a moment.
* `Descends`: a token was taken from a source, or is a clone of a token that descends from it.
* `CancelledBefore`: a source was cancelled before a moment.
* `Descends.unique`, `Idle.not_descends`: a token descends from one source only, and one that was
  made without a source descends from none, like its clones.
-/

namespace LogCatalog.Cancellation

def sourceAt? (actions : List Action) : Nat → Text → Option Nat
  | 0, _ => none
  | moment + 1, name =>
    match actions[moment]? with
    | some (.makeSource other) =>
      if name = other then some moment else sourceAt? actions moment name
    | some (.dropSource other) => if name = other then none else sourceAt? actions moment name
    | _ => sourceAt? actions moment name

/-- The token that is held under a name after so many actions.  No token comes of a source or a
token that is not held. -/
def tokenAt? (actions : List Action) : Nat → Text → Option Nat
  | 0, _ => none
  | moment + 1, name =>
    match actions[moment]? with
    | some (.takeToken other source) =>
      if name = other ∧ (sourceAt? actions moment source).isSome then some moment
      else tokenAt? actions moment name
    | some (.makeIdleToken other) =>
      if name = other then some moment else tokenAt? actions moment name
    | some (.cloneToken other token) =>
      if name = other ∧ (tokenAt? actions moment token).isSome then some moment
      else tokenAt? actions moment name
    | _ => tokenAt? actions moment name

/-- A token was taken from a source, or is a clone of a token that descends from the source. -/
inductive Descends (actions : List Action) : Nat → Nat → Prop
  | taken {token made : Nat} {name source : Text} :
      actions[token]? = some (.takeToken name source) → sourceAt? actions token source = some made →
        Descends actions token made
  | cloned {token original made : Nat} {name other : Text} :
      actions[token]? = some (.cloneToken name other) →
        tokenAt? actions token other = some original → Descends actions original made →
        Descends actions token made

/-- A token was made without a source, or is a clone of such a token. -/
inductive Idle (actions : List Action) : Nat → Prop
  | made {token : Nat} {name : Text} :
      actions[token]? = some (.makeIdleToken name) → Idle actions token
  | cloned {token original : Nat} {name other : Text} :
      actions[token]? = some (.cloneToken name other) →
        tokenAt? actions token other = some original → Idle actions original → Idle actions token

/-- A source was cancelled before a moment, under the name that it had then. -/
def CancelledBefore (actions : List Action) (moment made : Nat) : Prop :=
  ∃ earlier < moment, ∃ name, actions[earlier]? = some (.cancel name)
    ∧ sourceAt? actions earlier name = some made

variable {actions : List Action} {moment made token : Nat} {name : Text}

/-! ### Moments -/

/-- A source that is held was made before, under the name that it has. -/
theorem made_of_sourceAt? (h : sourceAt? actions moment name = some made) :
    made < moment ∧ actions[made]? = some (.makeSource name) := by
  induction moment with
  | zero => cases h
  | succ moment ih =>
    have hearlier : sourceAt? actions moment name = some made →
        made < moment + 1 ∧ actions[made]? = some (.makeSource name) := fun h =>
      ⟨Nat.lt_succ_of_lt (ih h).1, (ih h).2⟩
    rw [sourceAt?] at h
    split at h
    · next other ha =>
      split at h
      · next hname =>
        obtain rfl := Option.some.inj h
        exact ⟨Nat.lt_succ_self moment, hname ▸ ha⟩
      · exact hearlier h
    · next other ha =>
      split at h
      · cases h
      · exact hearlier h
    · exact hearlier h

theorem cancelledBefore_succ :
    CancelledBefore actions (moment + 1) made ↔
      CancelledBefore actions moment made
        ∨ ∃ name, actions[moment]? = some (.cancel name)
          ∧ sourceAt? actions moment name = some made := by
  constructor
  · rintro ⟨earlier, hlt, h⟩
    rcases Nat.lt_succ_iff_lt_or_eq.1 hlt with hlt | rfl
    · exact .inl ⟨earlier, hlt, h⟩
    · exact .inr h
  · rintro (⟨earlier, hlt, h⟩ | h)
    · exact ⟨earlier, Nat.lt_succ_of_lt hlt, h⟩
    · exact ⟨moment, Nat.lt_succ_self moment, h⟩

/-- **What has been cancelled stays cancelled.** -/
theorem CancelledBefore.mono {later : Nat} (h : CancelledBefore actions moment made)
    (hle : moment ≤ later) : CancelledBefore actions later made := by
  obtain ⟨earlier, hlt, hcancel⟩ := h
  exact ⟨earlier, Nat.lt_of_lt_of_le hlt hle, hcancel⟩

/-! ### Descent -/

/-- **A token descends from one source only.** -/
theorem Descends.unique {other : Nat} (h : Descends actions token made)
    (hother : Descends actions token other) : other = made := by
  induction h with
  | taken ha hsource =>
    cases hother with
    | taken ha' hsource' =>
      cases ha.symm.trans ha'
      exact Option.some.inj (hsource'.symm.trans hsource)
    | cloned ha' => cases ha.symm.trans ha'
  | cloned ha htoken _ ih =>
    cases hother with
    | taken ha' => cases ha.symm.trans ha'
    | cloned ha' htoken' hdesc' =>
      cases ha.symm.trans ha'
      cases htoken.symm.trans htoken'
      exact ih hdesc'

theorem Descends.exists_makeSource (h : Descends actions token made) :
    ∃ name, actions[made]? = some (.makeSource name) := by
  induction h with
  | taken _ hsource => exact ⟨_, (made_of_sourceAt? hsource).2⟩
  | cloned _ _ _ ih => exact ih

theorem Idle.not_descends (h : Idle actions token) : ¬ Descends actions token made := by
  intro hdesc
  induction h with
  | made ha =>
    cases hdesc with
    | taken ha' => cases ha.symm.trans ha'
    | cloned ha' => cases ha.symm.trans ha'
  | cloned ha htoken _ ih =>
    cases hdesc with
    | taken ha' => cases ha.symm.trans ha'
    | cloned ha' htoken' hdesc' =>
      cases ha.symm.trans ha'
      cases htoken.symm.trans htoken'
      exact ih hdesc'

end LogCatalog.Cancellation
