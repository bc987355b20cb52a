import LogCatalog.Template.Comparison
import Mathlib.Data.List.Nodup

/-!
# Matching placeholders

A translation matches its template if it has the same names and none stands at another place.  Read
closely this only says that the names of the template come first in the translation, and that all
its names are names of the template.  So names of the template may come again behind them, unless
the names of the translation are known not to repeat.

* `without_eq_nil_iff`, `misplacedFrom_eq_nil_iff`: what it means that nothing differs.
* `isMatch_iff_append`: a match is the names of the template and repetitions of them.
* `isMatch_compare_iff`: a list without repetition matches only itself.
* `isMatch_compare_iff_repeats`: any other list matches also with some of its names repeated.
-/

namespace LogCatalog.Template

variable {invariant localized : List Text}

theorem without_eq_nil_iff {names others : List Text} :
    without names others = [] ↔ ∀ name ∈ names, name ∈ others := by
  simp [without]

theorem misplacedFrom_eq_nil_iff {localized : List Text} {place : Nat} {names : List Text} :
    misplacedFrom localized place names = [] ↔ names <+: localized.drop place := by
  induction names generalizing place with
  | nil => simp [misplacedFrom]
  | cons name rest ih =>
    rw [misplacedFrom]
    by_cases h : localized[place]? = some name
    · obtain ⟨hlt, hname⟩ := List.getElem?_eq_some_iff.1 h
      rw [if_pos h, ih, List.drop_eq_getElem_cons hlt, hname, List.cons_prefix_cons]
      exact ⟨fun hp => ⟨rfl, hp⟩, And.right⟩
    · rw [if_neg h]
      refine ⟨fun hc => absurd hc (List.cons_ne_nil _ _), fun hp => absurd ?_ h⟩
      obtain ⟨more, hmore⟩ := hp
      rw [← List.head?_drop, ← hmore]
      rfl

/-- **A translation matches if nothing but repetitions comes behind the names of the template.** -/
theorem isMatch_iff_append :
    (compare invariant localized).isMatch = true ↔
      ∃ repeated, localized = invariant ++ repeated ∧ ∀ name ∈ repeated, name ∈ invariant := by
  simp only [Comparison.isMatch, compare, Bool.and_eq_true, List.isEmpty_iff]
  constructor
  · rintro ⟨⟨hmissing, hextra⟩, hplaces⟩
    rw [if_pos ⟨hmissing, hextra⟩, misplacedFrom_eq_nil_iff, List.drop_zero] at hplaces
    obtain ⟨repeated, rfl⟩ := hplaces
    exact ⟨repeated, rfl, fun name hname =>
      without_eq_nil_iff.1 hextra name (List.mem_append_right _ hname)⟩
  · rintro ⟨repeated, rfl, hrepeated⟩
    have hmissing : without invariant (invariant ++ repeated) = [] :=
      without_eq_nil_iff.2 fun name hname => List.mem_append_left _ hname
    have hextra : without (invariant ++ repeated) invariant = [] :=
      without_eq_nil_iff.2 fun name hname => (List.mem_append.1 hname).elim id (hrepeated name)
    rw [if_pos ⟨hmissing, hextra⟩, misplacedFrom_eq_nil_iff, List.drop_zero]
    exact ⟨⟨hmissing, hextra⟩, List.prefix_append invariant repeated⟩

theorem isMatch_compare_self (names : List Text) : (compare names names).isMatch = true :=
  isMatch_iff_append.2
    ⟨[], (List.append_nil names).symm, fun _ hname => absurd hname List.not_mem_nil⟩

/-- **A list without repetition matches only itself.** -/
theorem isMatch_compare_iff (hl : localized.Nodup) :
    (compare invariant localized).isMatch = true ↔ invariant = localized := by
  refine ⟨fun h => ?_, fun h => h ▸ isMatch_compare_self invariant⟩
  obtain ⟨repeated, rfl, hrepeated⟩ := isMatch_iff_append.1 h
  have hnone : repeated = [] := List.eq_nil_iff_forall_not_mem.2 fun name hname =>
    (List.nodup_append.1 hl).2.2 name (hrepeated name hname) name hname rfl
  rw [hnone, List.append_nil]

/-- **Which lists match.**  Two lists match if they are the same, and otherwise exactly if the
second one goes on, behind the names of the first, with repetitions of some of them. -/
theorem isMatch_compare_iff_repeats (invariant localized : List Text) :
    (compare invariant localized).isMatch = true ↔
      invariant = localized
        ∨ ∃ repeated, repeated ≠ [] ∧ localized = invariant ++ repeated
            ∧ ∀ name ∈ repeated, name ∈ invariant := by
  constructor
  · intro h
    obtain ⟨repeated, hlocalized, hrepeated⟩ := isMatch_iff_append.1 h
    by_cases hnone : repeated = []
    · rw [hnone, List.append_nil] at hlocalized
      exact .inl hlocalized.symm
    · exact .inr ⟨repeated, hnone, hlocalized, hrepeated⟩
  · rintro (rfl | ⟨repeated, -, hlocalized, hrepeated⟩)
    · exact isMatch_compare_self invariant
    · exact isMatch_iff_append.2 ⟨repeated, hlocalized, hrepeated⟩

/-- Lists that match need not be the same: the second one may repeat a name at its end. -/
theorem not_isMatch_iff_eq :
    ¬ ∀ invariant localized : List Text,
        (compare invariant localized).isMatch = true ↔ invariant = localized :=
  fun h => absurd ((h ["a"] ["a", "a"]).1 (by decide)) (by decide)

end LogCatalog.Template
