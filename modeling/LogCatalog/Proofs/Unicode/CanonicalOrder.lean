import LogCatalog.Unicode.Normalization

/-!
# Canonical order

Reordering sorts every run of marks by their classes and keeps the starters in place.  It is a fold
of insertions, and insertions of two marks of different classes commute.

* `foldr_reorder`: reordering a part of a text beforehand changes nothing.
* `reorder_reorder`: reordered text stays as it is.
* `reorder_append_starter`: a starter parts the text into two that are reordered by themselves.
* `reorder_mark_append`: a mark may start on either side of marks of lower classes.
* `head?_reorder_of_starter`, `exists_head?_reorder_of_mark`: what a reordered text starts with.
-/

namespace LogCatalog.Unicode

/-! ### Insertions -/

theorem insertMark_of_starter {c : Char} (h : isStarter c = true) (t : Text) :
    insertMark c t = c :: t := by
  have hclass : combiningClass c = 0 := by simpa [isStarter] using h
  cases t with
  | nil => rfl
  | cons d rest => simp [insertMark, hclass]

theorem insertMark_append_starter {d : Char} (h : isStarter d = true) (c : Char) (s t : Text) :
    insertMark c (s ++ d :: t) = insertMark c s ++ d :: t := by
  have hclass : combiningClass d = 0 := by simpa [isStarter] using h
  induction s with
  | nil => simp [insertMark, hclass]
  | cons e rest ih =>
    by_cases he : combiningClass e ≠ 0 ∧ combiningClass e < combiningClass c
    · simp [insertMark, he, ih]
    · simp [insertMark, he]

/-- **Marks of different classes may be inserted in either order.** -/
theorem insertMark_comm {c d : Char} (hd : combiningClass d ≠ 0)
    (h : combiningClass d < combiningClass c) (t : Text) :
    insertMark c (insertMark d t) = insertMark d (insertMark c t) := by
  induction t with
  | nil =>
    have hcd : ¬ (combiningClass c ≠ 0 ∧ combiningClass c < combiningClass d) := by omega
    simp [insertMark, hd, h, hcd]
  | cons e rest ih =>
    by_cases he : combiningClass e ≠ 0 ∧ combiningClass e < combiningClass d
    · -- Both marks pass `e`.
      have hec : combiningClass e ≠ 0 ∧ combiningClass e < combiningClass c := by omega
      simp only [insertMark, if_pos he, if_pos hec, ih]
    · -- `d` stops at `e`, and `c` passes `d` whatever it does at `e`.
      have hdc : combiningClass d ≠ 0 ∧ combiningClass d < combiningClass c := ⟨hd, h⟩
      have hcd : ¬ (combiningClass c ≠ 0 ∧ combiningClass c < combiningClass d) := by omega
      by_cases hec : combiningClass e ≠ 0 ∧ combiningClass e < combiningClass c
      · simp only [insertMark, if_neg he, if_pos hdc, if_pos hec]
      · simp only [insertMark, if_neg he, if_pos hdc, if_neg hec, if_neg hcd]

/-! ### Reordering -/

theorem reorder_eq_foldr (t : Text) : reorder t = t.foldr insertMark [] := by
  induction t with
  | nil => rfl
  | cons c rest ih => rw [reorder, ih, List.foldr_cons]

theorem reorder_append (s t : Text) : reorder (s ++ t) = s.foldr insertMark (reorder t) := by
  rw [reorder_eq_foldr, reorder_eq_foldr, List.foldr_append]

theorem foldr_insertMark (c : Char) (s t : Text) :
    (insertMark c s).foldr insertMark t = insertMark c (s.foldr insertMark t) := by
  induction s with
  | nil => rfl
  | cons d rest ih =>
    rw [insertMark]
    split
    · next hd => rw [List.foldr_cons, ih, List.foldr_cons, insertMark_comm hd.1 hd.2]
    · rfl

/-- Reordering the front of a text beforehand changes nothing. -/
theorem foldr_reorder (s t : Text) :
    (reorder s).foldr insertMark t = s.foldr insertMark t := by
  induction s with
  | nil => rfl
  | cons c rest ih => rw [reorder, foldr_insertMark, ih, List.foldr_cons]

/-- **Reordered text stays as it is.** -/
theorem reorder_reorder (t : Text) : reorder (reorder t) = reorder t := by
  rw [reorder_eq_foldr (reorder t), foldr_reorder, ← reorder_eq_foldr]

theorem reorder_append_congr (s : Text) {t t' : Text} (h : reorder t = reorder t') :
    reorder (s ++ t) = reorder (s ++ t') := by
  rw [reorder_append, reorder_append, h]

/-- **A starter parts a text into two that are reordered by themselves.** -/
theorem reorder_append_starter {d : Char} (h : isStarter d = true) (s t : Text) :
    reorder (s ++ d :: t) = reorder s ++ d :: reorder t := by
  induction s with
  | nil => exact insertMark_of_starter h _
  | cons c rest ih =>
    rw [List.cons_append, reorder, ih, insertMark_append_starter h, reorder]

/-- A mark may start before or after marks of lower classes. -/
theorem reorder_mark_append {c : Char} {held : Text}
    (h : ∀ d ∈ held, combiningClass d ≠ 0 ∧ combiningClass d < combiningClass c) (t : Text) :
    reorder (c :: (held ++ t)) = reorder (held ++ c :: t) := by
  induction held with
  | nil => rfl
  | cons d rest ih =>
    have hd := h d List.mem_cons_self
    have hrest := ih fun e he => h e (List.mem_cons_of_mem d he)
    rw [reorder] at hrest
    rw [reorder, List.cons_append, reorder, insertMark_comm hd.1 hd.2, hrest, List.cons_append,
      reorder]

theorem head?_reorder_of_starter {c : Char} (h : isStarter c = true) (t : Text) :
    (reorder (c :: t)).head? = some c := by
  rw [reorder, insertMark_of_starter h, List.head?_cons]

/-- A mark in front may give way to another mark, and to nothing else. -/
theorem exists_head?_reorder_of_mark {c : Char} (h : isStarter c = false) (t : Text) :
    ∃ d, (reorder (c :: t)).head? = some d ∧ isStarter d = false := by
  rw [reorder]
  cases reorder t with
  | nil => exact ⟨c, rfl, h⟩
  | cons d rest =>
    rw [insertMark]
    split
    · next hd => exact ⟨d, rfl, by simpa [isStarter] using hd.1⟩
    · exact ⟨c, rfl, h⟩

theorem length_reorder (t : Text) : (reorder t).length = t.length := (reorder_perm t).length_eq

end LogCatalog.Unicode
