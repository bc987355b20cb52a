/-!
# Tables of ranges

A property of code points is written as a list of rows, each a range of code points and the value
that they share, in increasing order.  `RangeMap.ofRows` makes a balanced search tree of such a
list, and `RangeMap.find?` looks a code point up in it.

* `find?_eq_some`: what is found comes from a row, and the code point lies in the range of that row.
* `rows_ofRows`: the tree holds exactly the rows of the list.
* `find?_ofRows`, `find?_ofPoints`: what is found in the tree of a list stands in the list.
* `shift`: a map of characters that moves whole runs of them.
-/

namespace LogCatalog.Unicode

/-- A search tree of ranges of code points.  `first` and `last` belong to the range. -/
inductive RangeMap (α : Type) where
  | empty
  | node (left : RangeMap α) (first last : Nat) (value : α) (right : RangeMap α)

namespace RangeMap

variable {α : Type}

def rows : RangeMap α → List (Nat × Nat × α)
  | empty => []
  | node left first last value right => left.rows ++ (first, last, value) :: right.rows

/-- The value at a code point, with the place of the code point in its range. -/
def find? : RangeMap α → Nat → Option (Nat × α)
  | empty, _ => none
  | node left first last value right, n =>
    if n < first then left.find? n
    else if last < n then right.find? n
    else some (n - first, value)

def contains (map : RangeMap α) (n : Nat) : Bool := (map.find? n).isSome

/-- A tree of at most the given height from the first rows of a list, and the rows left over. -/
def build : Nat → List (Nat × Nat × α) → RangeMap α × List (Nat × Nat × α)
  | 0, rest => (empty, rest)
  | height + 1, rest =>
    match build height rest with
    | (left, []) => (left, [])
    | (left, (first, last, value) :: rest) =>
      match build height rest with
      | (right, rest) => (node left first last value right, rest)

/-- How many rows a tree of at most the given height may hold. -/
def capacity : Nat → Nat
  | 0 => 0
  | height + 1 => 2 * capacity height + 1

/-- The tree of a list of rows, which are in increasing order. -/
def ofRows (table : List (Nat × Nat × α)) : RangeMap α :=
  (build (table.length.log2 + 1) table).1

def ofRanges (table : List (Nat × Nat)) : RangeMap Unit :=
  ofRows (table.map fun (first, last) => (first, last, ()))

def ofPoints (table : List (Nat × α)) : RangeMap α :=
  ofRows (table.map fun (point, value) => (point, point, value))

/-- The image of a character in a table of runs, each with the step from one of its characters to
the next and the image of the first.  The images follow in the same steps, and a character outside
the runs is its own image. -/
def shift (runs : RangeMap (Nat × Nat)) (c : Char) : Char :=
  match runs.find? c.toNat with
  | some (i, step, target) => if i % step = 0 then Char.ofNat (target + i) else c
  | none => c

theorem find?_eq_some {map : RangeMap α} {n i : Nat} {value : α}
    (h : map.find? n = some (i, value)) :
    ∃ first last, (first, last, value) ∈ map.rows ∧ n = first + i ∧ n ≤ last := by
  induction map with
  | empty => simp [find?] at h
  | node left first last v right ihl ihr =>
    rw [find?] at h
    split at h
    · obtain ⟨a, b, hm, hn⟩ := ihl h
      exact ⟨a, b, by simp [rows, hm], hn⟩
    · split at h
      · obtain ⟨a, b, hm, hn⟩ := ihr h
        exact ⟨a, b, by simp [rows, hm], hn⟩
      · simp only [Option.some.injEq, Prod.mk.injEq] at h
        obtain ⟨rfl, rfl⟩ := h
        exact ⟨first, last, by simp [rows], by omega, by omega⟩

theorem rows_build (height : Nat) (table : List (Nat × Nat × α)) :
    (build height table).1.rows ++ (build height table).2 = table := by
  induction height generalizing table with
  | zero => simp [build, rows]
  | succ height ih =>
    have hl := ih table
    rw [build]
    split
    · next left h => rw [h] at hl; exact hl
    · next left first last value rest h =>
      rw [h] at hl
      have hr := ih rest
      split
      next right rest' h' =>
        rw [h'] at hr
        simp only [rows, List.append_assoc, List.cons_append] at hl hr ⊢
        rw [hr, hl]

theorem build_rest (height : Nat) (table : List (Nat × Nat × α)) :
    (build height table).2 = table.drop (capacity height) := by
  induction height generalizing table with
  | zero => rfl
  | succ height ih =>
    have hl := ih table
    rw [build]
    split
    · next left h =>
      rw [h] at hl
      have := List.drop_eq_nil_iff.1 hl.symm
      exact (List.drop_eq_nil_iff.2 (by rw [capacity]; omega)).symm
    · next left first last value rest h =>
      rw [h] at hl
      have hr := ih rest
      split
      next right rest' h' =>
        rw [h'] at hr
        simp only at hl hr ⊢
        have hrest : rest = table.drop (capacity height + 1) := by
          have := congrArg List.tail hl
          rw [List.tail_cons, List.tail_drop] at this
          exact this
        rw [hr, hrest, List.drop_drop]
        exact congrArg (table.drop ·) (by rw [capacity]; omega)

theorem le_capacity (n : Nat) : n ≤ capacity (n.log2 + 1) := by
  induction n using Nat.strongRecOn with
  | ind n ih =>
    rw [Nat.log2_def]
    split
    · next h =>
      have := ih (n / 2) (by omega)
      rw [capacity]
      omega
    · next h =>
      rw [capacity, capacity]
      omega

/-- The tree holds the rows of the list, all of them and in order. -/
theorem rows_ofRows (table : List (Nat × Nat × α)) : (ofRows table).rows = table := by
  have h := rows_build (table.length.log2 + 1) table
  rw [build_rest, List.drop_eq_nil_iff.2 (le_capacity table.length), List.append_nil] at h
  exact h

/-- What is found in the tree of a list comes from a row of the list. -/
theorem find?_ofRows {table : List (Nat × Nat × α)} {n i : Nat} {value : α}
    (h : (ofRows table).find? n = some (i, value)) :
    ∃ first last, (first, last, value) ∈ table ∧ n = first + i ∧ n ≤ last := by
  obtain ⟨first, last, hmem, hn⟩ := find?_eq_some h
  rw [rows_ofRows] at hmem
  exact ⟨first, last, hmem, hn⟩

/-- What is found in the tree of a list of single points is listed for the very point. -/
theorem find?_ofPoints {table : List (Nat × α)} {n i : Nat} {value : α}
    (h : (ofPoints table).find? n = some (i, value)) : (n, value) ∈ table := by
  obtain ⟨first, last, hmem, hn, hle⟩ := find?_ofRows h
  obtain ⟨⟨point, v⟩, hpoint, heq⟩ := List.mem_map.1 hmem
  simp only [Prod.mk.injEq] at heq
  obtain ⟨rfl, rfl, rfl⟩ := heq
  obtain rfl : n = point := by omega
  exact hpoint

/-- A character is its own image unless a row has it. -/
theorem shift_ofRows_cases (table : List (Nat × Nat × Nat × Nat)) (c : Char) :
    (ofRows table).shift c = c
      ∨ ∃ row ∈ table, ∃ i < row.2.1 - row.1 + 1, i % row.2.2.1 = 0
          ∧ c.toNat = row.1 + i ∧ (ofRows table).shift c = Char.ofNat (row.2.2.2 + i) := by
  unfold shift
  cases hf : (ofRows table).find? c.toNat with
  | none => exact .inl rfl
  | some found =>
    obtain ⟨i, step, target⟩ := found
    obtain ⟨first, last, hmem, hn, hle⟩ := find?_ofRows hf
    dsimp only
    split
    · next hstep =>
      have hi : i < last - first + 1 := by omega
      exact .inr ⟨(first, last, step, target), hmem, i, hi, hstep, hn, rfl⟩
    · exact .inl rfl

end RangeMap

end LogCatalog.Unicode
