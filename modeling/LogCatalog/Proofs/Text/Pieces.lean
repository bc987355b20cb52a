import LogCatalog.Text.Basic
import Mathlib.Data.List.Basic

/-!
# Pieces of a text

Separators cut a text into pieces.  A text is either one piece, or a piece with a separator behind
it and then a shorter text.

* `eq_false_of_mem_splitOnP`, `not_mem_of_mem_splitOn`: no piece holds a separator.
* `length_splitOn`: there is one piece more than the text has separators.
* `piece_induction`: what holds of a text without a separator, and of a piece and a separator before
  a text of which it holds, holds of all texts.
-/

namespace LogCatalog.Text

variable {separates : Char → Bool} {separator : Char} {t piece : Text}

theorem eq_false_of_mem_splitOnP (h : piece ∈ t.splitOnP separates) :
    ∀ c ∈ piece, separates c = false := by
  induction t generalizing piece with
  | nil =>
    rw [List.splitOnP_nil] at h
    rw [List.mem_singleton.1 h]
    exact fun c hc => nomatch hc
  | cons c rest ih =>
    rw [List.splitOnP_cons_eq_if_modifyHead] at h
    split at h
    · rcases List.mem_cons.1 h with rfl | h
      · exact fun c hc => nomatch hc
      · exact ih h
    · next hc =>
      -- The first piece of the rest gets the character put in front.
      obtain ⟨first, more, hpieces⟩ :=
        List.exists_cons_of_ne_nil (List.splitOnP_ne_nil separates rest)
      rw [hpieces] at h ih
      rcases List.mem_cons.1 h with rfl | h
      · rw [List.forall_mem_cons]
        exact ⟨Bool.eq_false_iff.2 hc, ih List.mem_cons_self⟩
      · exact ih (List.mem_cons_of_mem _ h)

theorem not_mem_of_mem_splitOn (h : piece ∈ t.splitOn separator) : separator ∉ piece := by
  intro hmem
  have hother := eq_false_of_mem_splitOnP h separator hmem
  rw [beq_self_eq_true] at hother
  cases hother

theorem length_splitOnP (separates : Char → Bool) (t : Text) :
    (t.splitOnP separates).length = t.countP separates + 1 := by
  induction t with
  | nil => rfl
  | cons c rest ih =>
    rw [List.splitOnP_cons_eq_if_modifyHead, List.countP_cons]
    split
    · rw [List.length_cons, ih]
    · rw [List.length_modifyHead, ih, Nat.add_zero]

theorem length_splitOn (separator : Char) (t : Text) :
    (t.splitOn separator).length = t.count separator + 1 :=
  length_splitOnP _ t

/-- **Induction over the pieces of a text.** -/
theorem piece_induction (separator : Char) {P : Text → Prop}
    (last : ∀ piece, separator ∉ piece → P piece)
    (next : ∀ piece rest, separator ∉ piece → P rest → P (piece ++ separator :: rest)) (t : Text) :
    P t := by
  induction hn : t.length using Nat.strongRecOn generalizing t with
  | ind n ih =>
    by_cases hmem : separator ∈ t
    · obtain ⟨piece, rest, rfl, hpiece⟩ := List.eq_append_cons_of_mem hmem
      have hshorter : rest.length < n := by
        rw [← hn, List.length_append, List.length_cons]
        omega
      exact next piece rest hpiece (ih _ hshorter rest rfl)
    · exact last t hmem

end LogCatalog.Text
