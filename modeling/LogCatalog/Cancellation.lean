import LogCatalog.Text.Basic

/-!
# Cancellation

A source can be cancelled, and the tokens taken from it see that, because they watch the flag of the
source.  A token can also be made without a source; it has a flag of its own, which nothing raises.
Sources and tokens are held under names, which may be given to new ones: a token goes on watching
the flag of the source that it was taken from.

* `Desk.apply`: what an action does, if the names that it uses are held.
* `Held.lookup_put`, `Held.lookup_drop`: only the name that is given away or let go changes.
-/

namespace LogCatalog.Cancellation

/-- Values held under names, in the order of the names. -/
abbrev Held (α : Type) := List (Text × α)

namespace Held

/-- Holds a value under a name, in place of the value held there before. -/
def put {α : Type} (name : Text) (value : α) : Held α → Held α
  | [] => [(name, value)]
  | (other, held) :: rest =>
    if name = other then (name, value) :: rest
    else if name < other then (name, value) :: (other, held) :: rest
    else (other, held) :: put name value rest

def drop {α : Type} (name : Text) (held : Held α) : Held α := held.filter (·.1 ≠ name)

theorem lookup_entry {α : Type} (name : Text) (value : α) (held : Held α) (other : Text) :
    List.lookup other ((name, value) :: held) =
      if other = name then some value else held.lookup other := by
  by_cases h : other = name
  · simp [h]
  · rw [List.lookup_cons, beq_false_of_ne h, if_neg h]

theorem lookup_put {α : Type} (name : Text) (value : α) (held : Held α) (other : Text) :
    (held.put name value).lookup other = if other = name then some value else held.lookup other := by
  induction held with
  | nil => exact lookup_entry name value [] other
  | cons entry rest ih =>
    obtain ⟨key, kept⟩ := entry
    rw [put]
    split
    · next hn =>
      subst hn
      rw [lookup_entry, lookup_entry]
      split <;> rfl
    · next hn =>
      split
      · exact lookup_entry name value _ other
      · rw [lookup_entry, lookup_entry, ih]
        split
        · next hk => rw [if_neg fun e => hn (e.symm.trans hk)]
        · rfl

theorem lookup_drop {α : Type} (name : Text) (held : Held α) (other : Text) :
    (held.drop name).lookup other = if other = name then none else held.lookup other := by
  induction held with
  | nil => simp [drop]
  | cons entry rest ih =>
    obtain ⟨key, kept⟩ := entry
    rw [drop] at ih ⊢
    by_cases hk : key = name
    · rw [List.filter_cons_of_neg (by simp [hk]), ih, lookup_entry, hk]
      split <;> rfl
    · rw [List.filter_cons_of_pos (by simpa using hk), lookup_entry, ih, lookup_entry]
      split
      · next ho => rw [if_neg fun e => hk (ho.symm.trans e)]
      · rfl

end Held

/-- The sources and the tokens in use.  Flags are numbered in the order in which they were made. -/
structure Desk where
  /-- Whether the flag with a number is raised. -/
  raised : List Bool
  /-- The flag of each source. -/
  sources : Held Nat
  /-- The flag that each token watches. -/
  tokens : Held Nat
  deriving DecidableEq, Repr

inductive Action where
  /-- Makes a source and holds it under a name. -/
  | makeSource (name : Text)
  /-- Takes a token from a source. -/
  | takeToken (name source : Text)
  /-- Makes a token that has no source. -/
  | makeIdleToken (name : Text)
  /-- Makes another token that watches the flag of a token. -/
  | cloneToken (name token : Text)
  | cancel (source : Text)
  /-- Lets go of a source, if there is one under the name. -/
  | dropSource (source : Text)
  deriving DecidableEq, Repr

namespace Desk

def empty : Desk := ⟨[], [], []⟩

def isRaised (d : Desk) (number : Nat) : Bool := d.raised[number]?.getD false

/-- Whether the token under a name finds its flag raised. -/
def isCancelled? (d : Desk) (token : Text) : Option Bool := (d.tokens.lookup token).map d.isRaised

/-- Does an action, if the sources and tokens that it uses are held. -/
def apply (d : Desk) : Action → Option Desk
  | .makeSource name =>
    some { d with raised := d.raised ++ [false], sources := d.sources.put name d.raised.length }
  | .takeToken name source =>
    (d.sources.lookup source).map fun number => { d with tokens := d.tokens.put name number }
  -- The flag of the token is its own: no source has it, and nothing raises it.
  | .makeIdleToken name =>
    some { d with raised := d.raised ++ [false], tokens := d.tokens.put name d.raised.length }
  | .cloneToken name token =>
    (d.tokens.lookup token).map fun number => { d with tokens := d.tokens.put name number }
  | .cancel source =>
    (d.sources.lookup source).map fun number => { d with raised := d.raised.set number true }
  | .dropSource source => some { d with sources := d.sources.drop source }

def sourceStates (d : Desk) : List (Text × Bool) :=
  d.sources.map fun (name, number) => (name, d.isRaised number)

def tokenStates (d : Desk) : List (Text × Bool) :=
  d.tokens.map fun (name, number) => (name, d.isRaised number)

end Desk

end LogCatalog.Cancellation
