import LogCatalog.Proofs.Row.Labels

/-!
# First insertions

A registry may be filled directly or by the rows that are accepted with it, in any order.  A direct
insertion may repeat a name with another identifier, or the other way round, so that the names and
the identifiers are claimed by different lines.  Each still belongs to the line that claimed it
first.

* `Operation`, `Registry.run`: what is done with a registry, and where it leads to.
* `insertions`: what was inserted, directly or by accepted rows, in order.
* `Operation.apply_eq`: an operation inserts its insertion and does nothing else.
* `Label.line?_run`: the line cited for a label is that of the first insertion of it.
* `line_of_first_insertion`: what is told of the names and the identifiers after any operations.
-/

namespace LogCatalog.Row

open Unicode (lowercase)

inductive Operation where
  /-- Takes a name and an identifier for a line, as far as they are free. -/
  | insert (name identifier : Text) (line : Nat)
  /-- Judges a row that was read before. -/
  | commit (draft : Draft)
  /-- Reads and judges a row. -/
  | validate (locales : Locales) (columns : List Text) (line : Nat)
  deriving DecidableEq, Repr

/-- A name and an identifier that were claimed for a line. -/
structure Insertion where
  name : Text
  identifier : Text
  line : Nat
  deriving DecidableEq, Repr

def Verdict.insertion? (v : Verdict) (line : Nat) : Option Insertion :=
  v.definition?.map fun d => { name := d.name, identifier := d.identifier, line }

namespace Operation

def verdict? (r : Registry) : Operation → Option Verdict
  | insert .. => none
  | commit draft => some (draft.commit r).1
  | validate locales columns line => some (Row.validate locales columns line r).1

def apply (r : Registry) : Operation → Registry
  | insert name identifier line => r.insert name identifier line
  | commit draft => (draft.commit r).2
  | validate locales columns line => (Row.validate locales columns line r).2

/-- What the operation inserts: what it is told to, or the labels of a row that is accepted. -/
def insertion? (r : Registry) : Operation → Option Insertion
  | insert name identifier line => some { name, identifier, line }
  | commit draft => (draft.commit r).1.insertion? draft.line
  | validate locales columns line => (Row.validate locales columns line r).1.insertion? line

end Operation

def Registry.run (ops : List Operation) : Registry := ops.foldl Operation.apply .empty

def insertionsFrom (r : Registry) : List Operation → List Insertion
  | [] => []
  | op :: rest => (op.insertion? r).toList ++ insertionsFrom (op.apply r) rest

/-- What operations insert in an empty registry, in order. -/
def insertions (ops : List Operation) : List Insertion := insertionsFrom .empty ops

def Label.ofInsertion : Label → Insertion → Text
  | name, e => e.name
  | identifier, e => e.identifier

/-! ### What an operation does -/

def Registry.insertEntry (r : Registry) (e : Insertion) : Registry :=
  r.insert e.name e.identifier e.line

/-- **An operation inserts its insertion and does nothing else.**  A rejected row inserts
nothing. -/
theorem Operation.apply_eq (r : Registry) (op : Operation) :
    op.apply r = (op.insertion? r).toList.foldl Registry.insertEntry r := by
  cases op with
  | insert name identifier line => rfl
  | commit draft =>
    rw [apply, insertion?, Verdict.insertion?, draft.registry_commit]
    cases (draft.commit r).1.definition? with
    | none => rfl
    | some d => rfl
  | validate locales columns line =>
    rw [apply, insertion?, Verdict.insertion?, Row.validate, Draft.registry_commit,
      Draft.line_ofColumns]
    cases ((Draft.ofColumns locales columns line).commit r).1.definition? with
    | none => rfl
    | some d => rfl

theorem Operation.apply_of_rejected {r : Registry} {op : Operation} {verdict : Verdict}
    (hverdict : op.verdict? r = some verdict) (h : verdict.definition? = none) :
    op.apply r = r := by
  rw [apply_eq]
  cases op with
  | insert name identifier line => cases hverdict
  | commit draft =>
    cases hverdict
    rw [insertion?, Verdict.insertion?, h]
    rfl
  | validate locales columns line =>
    cases hverdict
    rw [insertion?, Verdict.insertion?, h]
    rfl

theorem Operation.line?_eq_none {r : Registry} {op : Operation} {verdict : Verdict}
    {d : Definition} (hverdict : op.verdict? r = some verdict) (h : verdict.definition? = some d)
    (label : Label) : label.line? r (label.ofDefinition d) = none := by
  cases op with
  | insert name identifier line => cases hverdict
  | commit draft =>
    cases hverdict
    exact (Draft.definition?_commit_eq_some_iff.1 h).line?_eq_none label
  | validate locales columns line =>
    cases hverdict
    exact (Draft.definition?_commit_eq_some_iff.1 h).line?_eq_none label

/-! ### Sequences of operations -/

theorem foldl_apply (r : Registry) (ops : List Operation) :
    ops.foldl Operation.apply r = (insertionsFrom r ops).foldl Registry.insertEntry r := by
  induction ops generalizing r with
  | nil => rfl
  | cons op rest ih =>
    rw [List.foldl_cons, ih, insertionsFrom, List.foldl_append, ← Operation.apply_eq]

namespace Label

variable (label : Label) (text : Text)

theorem line?_insertEntry (r : Registry) (e : Insertion) :
    label.line? (r.insertEntry e) text
      = (label.line? r text).or
          (if lowercase text = lowercase (label.ofInsertion e) then some e.line else none) := by
  cases label with
  | name => exact FirstLines.find?_insert r.names (lowercase e.name) (lowercase text) e.line
  | identifier =>
    exact FirstLines.find?_insert r.identifiers (lowercase e.identifier) (lowercase text) e.line

/-- What is claimed already stays as it is, and of the later insertions the first one counts. -/
theorem line?_foldl_insertEntry (r : Registry) (entries : List Insertion) :
    label.line? (entries.foldl Registry.insertEntry r) text
      = (label.line? r text).or
          ((entries.find? fun e => lowercase (label.ofInsertion e) = lowercase text).map
            Insertion.line) := by
  induction entries generalizing r with
  | nil => exact (Option.or_none).symm
  | cons e rest ih =>
    rw [List.foldl_cons, ih, line?_insertEntry, Option.or_assoc]
    by_cases hkey : lowercase text = lowercase (label.ofInsertion e)
    · rw [if_pos hkey, List.find?_cons_of_pos (by simpa using hkey.symm)]
      rfl
    · rw [if_neg hkey, List.find?_cons_of_neg (by simpa using Ne.symm hkey), Option.none_or]

theorem line?_empty : label.line? .empty text = none := by
  cases label with
  | name => rfl
  | identifier => rfl

/-- **The line cited for a label is that of the first insertion of it.** -/
theorem line?_run (ops : List Operation) :
    label.line? (Registry.run ops) text
      = ((insertions ops).find? fun e => lowercase (label.ofInsertion e) = lowercase text).map
          Insertion.line := by
  rw [Registry.run, foldl_apply, line?_foldl_insertEntry, line?_empty, Option.none_or, insertions]

theorem line?_run_append {ops : List Operation} {line : Nat}
    (h : label.line? (Registry.run ops) text = some line) (more : List Operation) :
    label.line? (Registry.run (ops ++ more)) text = some line := by
  rw [Registry.run] at h ⊢
  rw [List.foldl_append, foldl_apply _ more, line?_foldl_insertEntry, h, Option.some_or]

end Label

/-- The labels of an accepted row differ from those of all insertions before. -/
theorem ne_of_mem_insertions {ops : List Operation} {op : Operation} {verdict : Verdict}
    {d : Definition} (hverdict : op.verdict? (.run ops) = some verdict)
    (h : verdict.definition? = some d) {e : Insertion} (he : e ∈ insertions ops) (label : Label) :
    lowercase (label.ofInsertion e) ≠ lowercase (label.ofDefinition d) := by
  have hfree := Operation.line?_eq_none hverdict h label
  rw [label.line?_run, Option.map_eq_none_iff, List.find?_eq_none] at hfree
  simpa using hfree e he

/-- **Every name and every identifier belongs to the line that inserted it first**, directly or by
an accepted row, and to no other line later.  A row that is accepted has a name and an identifier
that no insertion before had, and a row that is rejected leaves the registry as it was.  All is
meant without regard to case. -/
theorem line_of_first_insertion (ops : List Operation) :
    (∀ text,
        (Registry.run ops).nameLine? text
            = ((insertions ops).find? fun e => lowercase e.name = lowercase text).map
                Insertion.line
          ∧ (Registry.run ops).identifierLine? text
            = ((insertions ops).find? fun e => lowercase e.identifier = lowercase text).map
                Insertion.line)
      ∧ (∀ text line more,
          ((Registry.run ops).nameLine? text = some line →
              (Registry.run (ops ++ more)).nameLine? text = some line)
            ∧ ((Registry.run ops).identifierLine? text = some line →
              (Registry.run (ops ++ more)).identifierLine? text = some line))
      ∧ ∀ op verdict, Operation.verdict? (.run ops) op = some verdict →
          (verdict.definition? = none → op.apply (.run ops) = .run ops)
            ∧ ∀ d, verdict.definition? = some d → ∀ e ∈ insertions ops,
                lowercase e.name ≠ lowercase d.name
                  ∧ lowercase e.identifier ≠ lowercase d.identifier := by
  refine ⟨fun text => ⟨Label.name.line?_run text ops, Label.identifier.line?_run text ops⟩,
    fun text line more => ⟨fun h => Label.name.line?_run_append text h more,
      fun h => Label.identifier.line?_run_append text h more⟩,
    fun op verdict hverdict => ⟨Operation.apply_of_rejected hverdict, fun d h e he => ?_⟩⟩
  exact ⟨ne_of_mem_insertions hverdict h he .name, ne_of_mem_insertions hverdict h he .identifier⟩

set_option maxRecDepth 16384 in
/-- The second insertion repeats a name, and its identifier is new. -/
example :
    let r := Registry.run [.insert "Bell" "bell" 1, .insert "BELL" "ring" 2]
    r.nameLine? "bell" = some 1 ∧ r.identifierLine? "Ring" = some 2 := by decide

end LogCatalog.Row
