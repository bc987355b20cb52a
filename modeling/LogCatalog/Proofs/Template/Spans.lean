import LogCatalog.Proofs.Template.OnePass
import LogCatalog.Proofs.Text.ByteSlices

/-!
# Spans of holes

Where a hole starts and stops, the template reads as the hole is written: its name and its spec in
single braces.  A hole starts where the one before it has stopped, or later.

* `IsHoleOf`: the bytes of a hole, cut out of the template, are the hole.
* `exists_of_mem_holesByRuns`: a hole stands between two braces.
* `isHoleOf_of_mem_scan`, `pairwise_scan`: this holds of all holes of a template, and they follow
  one another.
-/

namespace LogCatalog.Template

def Hole.written (hole : Hole) : Text := '{' :: (hole.name ++ hole.spec ++ ['}'])

/-- A template has a hole where it says. -/
structure IsHoleOf (t : Text) (hole : Hole) : Prop where
  slice : Text.byteSlice? t hole.start hole.stop = some hole.written
  name_undelimited : ∀ c ∈ hole.name, c ≠ ',' ∧ c ≠ ':'
  spec_delimited : ∀ c ∈ hole.spec.head?, c = ',' ∨ c = ':'

variable {t : Text} {p o c : Nat} {hole : Hole}

/-! ### Places in bytes -/

theorem byteLength_take_mono (t : Text) {a b : Nat} (h : a ≤ b) :
    Text.byteLength (t.take a) ≤ Text.byteLength (t.take b) := by
  rw [← take_append_slice t h, Text.byteLength_append]
  exact Nat.le_add_right _ _

theorem byteSlice?_take (t : Text) {a b : Nat} (h : a ≤ b) :
    Text.byteSlice? t (Text.byteLength (t.take a)) (Text.byteLength (t.take b))
      = some (slice t a b) := by
  refine Text.byteSlice?_eq_some_iff.2 ⟨t.take a, t.drop b, ?_, rfl, ?_⟩
  · rw [take_append_slice t h, List.take_append_drop]
  · rw [← Text.byteLength_append, take_append_slice t h]

/-! ### Braces -/

theorem getElem?_of_lt_runLength {brace : Char} {i j : Nat} (h : j < runLength brace t i) :
    t[i + j]? = some brace := by
  have hrun := List.getElem?_eq_getElem h
  have hbrace := List.all_eq_true.1 List.all_takeWhile _ (List.mem_of_getElem? hrun)
  rw [← List.getElem?_drop, ← List.takeWhile_append_dropWhile (l := t.drop i) (p := (· == brace)),
    List.getElem?_append_left h, hrun, beq_iff_eq.1 hbrace]

theorem getElem?_of_opening? (h : opening? t p = some o) : t[o]? = some '{' := by
  obtain ⟨i, hi, rfl⟩ := Option.map_eq_some_iff.1 h
  have hp := (List.find?_range_eq_some.1 hi).1
  simp only [decide_eq_true_eq] at hp
  have hlt : runLength '{' t i - 1 < runLength '{' t i := by omega
  rw [Nat.add_sub_assoc (by omega)]
  exact getElem?_of_lt_runLength hlt

theorem getElem?_of_closing? (h : closing? t o = some c) : t[c]? = some '}' := by
  have hp := (List.find?_range_eq_some.1 h).1
  simp only [decide_eq_true_eq] at hp
  exact hp.2.1.1

/-! ### The hole between two braces -/

theorem name_append_spec (hoc : o < c) :
    (holeBetween t o c).name ++ (holeBetween t o c).spec = slice t (o + 1) c := by
  obtain ⟨hlt, hle, -⟩ := nameEnd_spec (t := t) hoc
  exact (slice_append hlt hle).symm

theorem written_holeBetween (hoc : o < c) (ho : t[o]? = some '{') (hc : t[c]? = some '}') :
    (holeBetween t o c).written = slice t o (c + 1) := by
  rw [Hole.written, name_append_spec hoc, slice_succ (Nat.le_of_lt hoc) hc,
    slice_append (Nat.le_succ o) hoc, slice_succ (Nat.le_refl o) ho, slice_self]
  rfl

theorem isHoleOf_holeBetween (hoc : o < c) (ho : t[o]? = some '{') (hc : t[c]? = some '}') :
    IsHoleOf t (holeBetween t o c) where
  slice := by
    rw [written_holeBetween hoc ho hc]
    exact byteSlice?_take t (by omega)
  name_undelimited x hx := by
    obtain ⟨-, -, hbefore, -⟩ := nameEnd_spec (t := t) hoc
    obtain ⟨i, hi, hlt, he⟩ := mem_slice hx
    have hne := hbefore i hi hlt
    rw [he] at hne
    exact ⟨fun h => hne.1 (congrArg some h), fun h => hne.2 (congrArg some h)⟩
  spec_delimited x hx := by
    obtain ⟨-, -, -, hat⟩ := nameEnd_spec (t := t) hoc
    rw [Option.mem_def, show (holeBetween t o c).spec = slice t (nameEnd t o c) c from rfl, slice,
      List.head?_drop, List.getElem?_take] at hx
    split at hx
    · next hlt =>
      have hdelimiter := hat hlt
      rw [hx, Option.some_inj, Option.some_inj] at hdelimiter
      exact hdelimiter
    · cases hx

/-! ### The holes of a template -/

theorem exists_of_mem_holesByRuns (h : hole ∈ holesByRuns t p) :
    ∃ o c, p ≤ o ∧ o < c ∧ t[o]? = some '{' ∧ t[c]? = some '}' ∧ hole = holeBetween t o c := by
  fun_induction holesByRuns t p with
  | case1 p ho => cases h
  | case2 p o ho hc => cases h
  | case3 p o ho c hc ih =>
    have hpo := le_of_opening? ho
    obtain ⟨hoc, -⟩ := lt_of_closing? hc
    rcases List.mem_cons.1 h with rfl | h
    · exact ⟨o, c, hpo, hoc, getElem?_of_opening? ho, getElem?_of_closing? hc, rfl⟩
    · obtain ⟨o', c', hle, hrest⟩ := ih h
      exact ⟨o', c', by omega, hrest⟩

/-- A hole stops before the next one starts. -/
theorem pairwise_holesByRuns (t : Text) (p : Nat) :
    (holesByRuns t p).Pairwise fun a b => a.stop ≤ b.start := by
  fun_induction holesByRuns t p with
  | case1 p ho => exact .nil
  | case2 p o ho hc => exact .nil
  | case3 p o ho c hc ih =>
    refine .cons (fun later hlater => ?_) ih
    obtain ⟨o', c', hle, -, -, -, rfl⟩ := exists_of_mem_holesByRuns hlater
    exact byteLength_take_mono t hle

theorem holesByRuns_zero (t : Text) : holesByRuns t 0 = scan t :=
  ((Reaches.start t).scanFrom_drop (Nat.zero_le _)).symm

/-- **A template has its holes where they say.** -/
theorem isHoleOf_of_mem_scan (h : hole ∈ scan t) : IsHoleOf t hole := by
  rw [← holesByRuns_zero] at h
  obtain ⟨o, c, -, hoc, ho, hc, rfl⟩ := exists_of_mem_holesByRuns h
  exact isHoleOf_holeBetween hoc ho hc

namespace IsHoleOf

/-- A hole lies within the template and has two braces at least. -/
theorem span_bounds (h : IsHoleOf t hole) :
    hole.start + 2 ≤ hole.stop ∧ hole.stop ≤ Text.byteLength t := by
  obtain ⟨before, behind, rfl, hstart, hstop⟩ := Text.byteSlice?_eq_some_iff.1 h.slice
  rw [Text.byteLength_append, Text.byteLength_append]
  have hopening : Char.utf8Size '{' = 1 := by decide
  have hclosing : Char.utf8Size '}' = 1 := by decide
  rw [Hole.written, Text.byteLength, Text.byteLength_append, Text.byteLength, Text.byteLength,
    hopening, hclosing] at hstop ⊢
  omega

end IsHoleOf

/-- **The holes of a template follow one another.** -/
theorem pairwise_scan (t : Text) :
    (scan t).Pairwise fun a b => a.start < b.start ∧ a.stop ≤ b.start := by
  have hpairwise := pairwise_holesByRuns t 0
  rw [holesByRuns_zero] at hpairwise
  refine hpairwise.imp_of_mem fun ha _ hle => ⟨?_, hle⟩
  have hspan := (isHoleOf_of_mem_scan ha).span_bounds
  omega

end LogCatalog.Template
