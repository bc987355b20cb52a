import LogCatalog.Text.Basic

/-!
# Comparison of placeholders

A translation of a template has to have the placeholders of the template, in the same order.  The
comparison of two lists of names tells what a translation lacks, what it adds, and, where it does
neither, what it moves.
-/

namespace LogCatalog.Template

/-- A name that stands at another place in a translation. -/
structure Misplaced where
  name : Text
  /-- The place in the template. -/
  expected : Nat
  /-- The place in the translation. -/
  actual : Nat
  deriving DecidableEq, Repr

structure Comparison where
  missing : List Text
  extra : List Text
  misplaced : List Misplaced
  deriving DecidableEq, Repr

def without (names others : List Text) : List Text := names.filter (!others.contains ·)

/-- The names of the first list, from the given place on, that stand elsewhere in the second. -/
def misplacedFrom (localized : List Text) (place : Nat) : List Text → List Misplaced
  | [] => []
  | name :: rest =>
    if localized[place]? = some name then misplacedFrom localized (place + 1) rest
    else
      ⟨name, place, (localized.idxOf? name).getD place⟩
        :: misplacedFrom localized (place + 1) rest

namespace Comparison

def hasSetMismatch (c : Comparison) : Bool := !c.missing.isEmpty || !c.extra.isEmpty

def isMatch (c : Comparison) : Bool := c.missing.isEmpty && c.extra.isEmpty && c.misplaced.isEmpty

end Comparison

/-- Compares the names of a translation with those of the template.  Places are compared only where
the two hold the same names. -/
def compare (invariant localized : List Text) : Comparison :=
  let missing := without invariant localized
  let extra := without localized invariant
  { missing, extra
    misplaced := if missing = [] ∧ extra = [] then misplacedFrom localized 0 invariant else [] }

end LogCatalog.Template
