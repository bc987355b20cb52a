import LogCatalog.Text.Basic
import LogCatalog.Unicode.CombiningClass
import LogCatalog.Unicode.Composition
import LogCatalog.Unicode.Decomposition.Canonical
import LogCatalog.Unicode.Decomposition.Compatibility
import LogCatalog.Unicode.Hangul

/-!
# Normalization forms

One text may be spelled with composed characters or with marks after their base, in several
orders.  A normalization form chooses one spelling: take every character apart, put the marks after
each base in the order of their classes, and, in the composed forms, join what can be joined.

* `reorder_perm`: reordering moves characters and changes none.
-/

namespace LogCatalog.Unicode

/-- The normalization forms: canonical or compatibility, decomposed or composed. -/
inductive Form where
  | nfd | nfc | nfkd | nfkc
  deriving DecidableEq, Repr

namespace Form

def isCompatible : Form → Bool
  | nfd | nfc => false
  | nfkd | nfkc => true

def isComposed : Form → Bool
  | nfd | nfkd => false
  | nfc | nfkc => true

end Form

def canonicalSingletonMap : RangeMap Nat := .ofRows canonicalSingletons

def canonicalExpansionMap : RangeMap (List Nat) := .ofPoints canonicalExpansions

def compatibilitySingletonMap : RangeMap Nat := .ofRows compatibilitySingletons

def compatibilityExpansionMap : RangeMap (List Nat) := .ofPoints compatibilityExpansions

/-- What two tables say that a character stands for. -/
def lookUp (singletons : RangeMap Nat) (expansions : RangeMap (List Nat)) (n : Nat) :
    Option (List Nat) :=
  match singletons.find? n with
  | some (i, target) => some [target + i]
  | none => (expansions.find? n).map Prod.snd

def canonicalPoints (n : Nat) : List Nat :=
  if Hangul.isSyllable n then Hangul.parts n
  else (lookUp canonicalSingletonMap canonicalExpansionMap n).getD [n]

def compatibilityPoints (n : Nat) : List Nat :=
  (lookUp compatibilitySingletonMap compatibilityExpansionMap n).getD (canonicalPoints n)

def decomposition (compatible : Bool) (c : Char) : Text :=
  (if compatible then compatibilityPoints c.toNat else canonicalPoints c.toNat).map Char.ofNat

/-- Puts a character in front of a reordered text: a mark moves behind the marks of lower class. -/
def insertMark (c : Char) : Text → Text
  | [] => [c]
  | d :: rest =>
    if combiningClass d ≠ 0 ∧ combiningClass d < combiningClass c then d :: insertMark c rest
    else c :: d :: rest

/-- Puts the marks of every run in the order of their classes.  Marks of one class keep their
order. -/
def reorder : Text → Text
  | [] => []
  | c :: rest => insertMark c (reorder rest)

def decompose (compatible : Bool) (t : Text) : Text :=
  reorder (t.flatMap (decomposition compatible))

/-- Composes a text that follows a starter.  `held` are the marks since the starter that did not
join it, the last one first; the last one of them blocks marks that are not of a higher class. -/
def composeAfter (starter : Char) (held : Text) : Text → Text
  | [] => starter :: held.reverse
  | c :: rest =>
    match if held.all (combiningClass · < combiningClass c) then compose? starter c else none with
    | some joined => composeAfter joined held rest
    | none =>
      if isStarter c then starter :: held.reverse ++ composeAfter c [] rest
      else composeAfter starter (c :: held) rest

/-- Joins every character with the starter before it, where nothing blocks the two and there is a
character for them. -/
def composed : Text → Text
  | [] => []
  | c :: rest => if isStarter c then composeAfter c [] rest else c :: composed rest

/-- The spelling of a text in a normalization form. -/
def normalize (form : Form) (t : Text) : Text :=
  let parts := decompose form.isCompatible t
  if form.isComposed then composed parts else parts

def isNormalized (form : Form) (t : Text) : Bool := normalize form t == t

theorem insertMark_perm (c : Char) (t : Text) : (insertMark c t).Perm (c :: t) := by
  induction t with
  | nil => rfl
  | cons d rest ih =>
    rw [insertMark]
    split
    · exact (ih.cons d).trans (.swap c d rest)
    · rfl

theorem reorder_perm (t : Text) : (reorder t).Perm t := by
  induction t with
  | nil => rfl
  | cons c rest ih => exact (insertMark_perm c _).trans (ih.cons c)

end LogCatalog.Unicode
