import LogCatalog.Unicode.Lowercase

/-!
# Registry of names

The names and the identifiers that rows have taken, without regard to case, each with the line that
took it first.

* `FirstLines.find?_insert`: an entry stays as it is once made.
-/

namespace LogCatalog.Row

/-- Keys with the line that claimed each first, in the order of the claims. -/
structure FirstLines where
  entries : List (Text × Nat)
  deriving DecidableEq, Repr

namespace FirstLines

def empty : FirstLines := ⟨[]⟩

def find? (f : FirstLines) (key : Text) : Option Nat := f.entries.lookup key

/-- Claims a key for a line, unless the key is claimed already. -/
def insert (f : FirstLines) (key : Text) (line : Nat) : FirstLines :=
  match f.find? key with
  | some _ => f
  | none => ⟨f.entries ++ [(key, line)]⟩

def keys (f : FirstLines) : List Text := f.entries.map Prod.fst

def size (f : FirstLines) : Nat := f.entries.length

theorem find?_insert (f : FirstLines) (key k : Text) (line : Nat) :
    (f.insert key line).find? k = (f.find? k).or (if k = key then some line else none) := by
  rw [insert]
  split
  · next l h =>
    by_cases hk : k = key
    · subst hk; simp [h]
    · simp [hk]
  · next h =>
    simp only [find?, List.lookup_append, List.lookup_cons, List.lookup_nil]
    by_cases hk : k = key
    · subst hk; simp
    · have : (k == key) = false := by simpa using hk
      simp [hk, this]

theorem find?_isSome_iff {f : FirstLines} {key : Text} :
    (f.find? key).isSome ↔ key ∈ f.keys := by
  simp only [find?, keys]
  induction f.entries with
  | nil => simp
  | cons e rest ih =>
    rw [List.lookup_cons]
    by_cases h : key = e.1
    · simp [h]
    · have : (key == e.1) = false := by simpa using h
      simp [this, h, ih]

end FirstLines

/-- The names and identifiers taken so far, in lowercase. -/
structure Registry where
  names : FirstLines
  identifiers : FirstLines
  deriving DecidableEq, Repr

namespace Registry

def empty : Registry := ⟨.empty, .empty⟩

def nameLine? (r : Registry) (name : Text) : Option Nat := r.names.find? (Unicode.lowercase name)

def identifierLine? (r : Registry) (identifier : Text) : Option Nat :=
  r.identifiers.find? (Unicode.lowercase identifier)

/-- Takes a name and an identifier for a line, as far as they are free. -/
def insert (r : Registry) (name identifier : Text) (line : Nat) : Registry where
  names := r.names.insert (Unicode.lowercase name) line
  identifiers := r.identifiers.insert (Unicode.lowercase identifier) line

def size (r : Registry) : Nat := r.names.size

end Registry

end LogCatalog.Row
