import LogCatalog.Proofs.Template.Rendering
import LogCatalog.Proofs.Template.Spans
import Mathlib.Data.List.Basic

/-!
# The order of names

Each name of a template is listed once, where its first hole stands among the first holes of all
names.

* `pairwise_distinct`: without repetitions, texts follow one another as they first occur.
* `IsFirstHole`: the hole that starts before all others of its name.
* `names_by_first_holes`: which names a template has, and in what order.
-/

namespace LogCatalog.Template

/-- A hole has a name, and no hole that starts before it has. -/
structure IsFirstHole (t name : Text) (hole : Hole) : Prop where
  mem : hole ∈ scan t
  name_eq : hole.name = name
  start_le : ∀ other ∈ scan t, other.name = name → hole.start ≤ other.start

/-! ### First occurrences -/

/-- A text that occurs again does not move, and a new one comes behind all others. -/
theorem pairwise_distinct (texts : List Text) :
    (distinct texts).Pairwise fun a b => texts.idxOf a < texts.idxOf b := by
  induction texts using List.reverseRecOn with
  | nil => exact .nil
  | append_singleton texts t ih =>
    have hkeep : ∀ a ∈ distinct texts, (texts ++ [t]).idxOf a = texts.idxOf a := fun a ha =>
      List.idxOf_append_of_mem (mem_distinct.1 ha)
    have hold : (distinct texts).Pairwise fun a b =>
        (texts ++ [t]).idxOf a < (texts ++ [t]).idxOf b := by
      refine ih.imp_of_mem fun ha hb hlt => ?_
      rwa [hkeep _ ha, hkeep _ hb]
    rw [distinct_concat, insertNew]
    split
    · exact hold
    · next hnew =>
      have ht : t ∉ texts := fun h => hnew (List.contains_iff_mem.2 (mem_distinct.2 h))
      refine List.pairwise_append.2 ⟨hold, List.pairwise_singleton .., fun a ha b hb => ?_⟩
      rw [List.mem_singleton.1 hb, hkeep a ha, List.idxOf_append_of_notMem ht]
      exact Nat.lt_add_right _ (List.idxOf_lt_length_of_mem (mem_distinct.1 ha))

theorem idxOf_le_of_getElem? {texts : List Text} {t : Text} {k : Nat} (h : texts[k]? = some t) :
    texts.idxOf t ≤ k := by
  obtain ⟨hk, rfl⟩ := List.getElem?_eq_some_iff.1 h
  refine Nat.le_of_not_lt fun hlt => ?_
  exact Bool.false_ne_true ((List.not_of_lt_findIdx hlt).symm.trans (beq_self_eq_true _))

/-! ### First holes -/

variable {t name : Text} {first second : Hole} {i j : Nat}

theorem start_lt_start (hfirst : (scan t)[i]? = some first) (hsecond : (scan t)[j]? = some second)
    (h : i < j) : first.start < second.start := by
  obtain ⟨hi, rfl⟩ := List.getElem?_eq_some_iff.1 hfirst
  obtain ⟨hj, rfl⟩ := List.getElem?_eq_some_iff.1 hsecond
  exact (List.pairwise_iff_getElem.1 (pairwise_scan t) i j hi hj h).1

/-- The hole at the first place of a name among the names of all holes. -/
theorem exists_isFirstHole (h : name ∈ names t) :
    ∃ hole, (scan t)[((scan t).map Hole.name).idxOf name]? = some hole
      ∧ IsFirstHole t name hole := by
  have hplace := List.idxOf_lt_length_of_mem (mem_distinct.1 h)
  have hat := List.getElem?_eq_getElem hplace
  rw [List.getElem_idxOf hplace, List.getElem?_map] at hat
  obtain ⟨hole, hhole, hname⟩ := Option.map_eq_some_iff.1 hat
  refine ⟨hole, hhole, List.mem_of_getElem? hhole, hname, fun other hother hsame => ?_⟩
  obtain ⟨k, hk⟩ := List.mem_iff_getElem?.1 hother
  have hle : ((scan t).map Hole.name).idxOf name ≤ k := by
    refine idxOf_le_of_getElem? ?_
    rw [List.getElem?_map, hk, Option.map_some, hsame]
  rcases Nat.eq_or_lt_of_le hle with rfl | hlt
  · rw [hhole] at hk
    cases hk
    exact Nat.le_refl _
  · exact Nat.le_of_lt (start_lt_start hhole hk hlt)

theorem IsFirstHole.unique (hfirst : IsFirstHole t name first)
    (hsecond : IsFirstHole t name second) : first = second := by
  obtain ⟨i, hi⟩ := List.mem_iff_getElem?.1 hfirst.mem
  obtain ⟨j, hj⟩ := List.mem_iff_getElem?.1 hsecond.mem
  have hle := hfirst.start_le second hsecond.mem hsecond.name_eq
  have hge := hsecond.start_le first hfirst.mem hfirst.name_eq
  rcases Nat.lt_trichotomy i j with hlt | rfl | hlt
  · have := start_lt_start hi hj hlt
    omega
  · exact Option.some.inj (hi.symm.trans hj)
  · have := start_lt_start hj hi hlt
    omega

/-- **The names of a template.**  No name is listed twice, the names are those of the holes, and
they stand in the order of their first holes. -/
theorem names_by_first_holes (t : Text) :
    (names t).Nodup
      ∧ (∀ name, name ∈ names t ↔ ∃ hole ∈ scan t, hole.name = name)
      ∧ (∀ name ∈ names t, ∃ hole, IsFirstHole t name hole)
      ∧ ∀ (i j : Nat) (a b : Text), i < j → (names t)[i]? = some a → (names t)[j]? = some b →
        ∀ first second, IsFirstHole t a first → IsFirstHole t b second →
          first.start < second.start := by
  refine ⟨nodup_names t, fun name => mem_names, fun name h => ?_, ?_⟩
  · obtain ⟨hole, -, hhole⟩ := exists_isFirstHole h
    exact ⟨hole, hhole⟩
  · intro i j a b hij ha hb first second hfirst hsecond
    obtain ⟨hole, hplace, hhole⟩ := exists_isFirstHole (List.mem_of_getElem? ha)
    obtain ⟨other, hotherplace, hother⟩ := exists_isFirstHole (List.mem_of_getElem? hb)
    rw [hfirst.unique hhole, hsecond.unique hother]
    obtain ⟨hi, rfl⟩ := List.getElem?_eq_some_iff.1 ha
    obtain ⟨hj, rfl⟩ := List.getElem?_eq_some_iff.1 hb
    exact start_lt_start hplace hotherplace
      (List.pairwise_iff_getElem.1 (pairwise_distinct _) i j hi hj hij)

example : names "\x7bb\x7d \x7ba\x7d \x7bb:N\x7d \x7bc\x7d" = ["b", "a", "c"] := by decide

end LogCatalog.Template
