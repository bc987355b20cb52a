import LogCatalog.Proofs.Text.Pieces
import LogCatalog.Text.Blank
import Mathlib.Data.List.DropRight
import Mathlib.Data.List.ModifyLast

/-!
# Trimming a text

Dropping the characters of a class at an end of a text stops at the first character that is not of
the class.  So what stands behind that character does not matter; and if it is a separator, only the
first or the last piece of the text loses anything.

* `trim_eq_nil_iff`: trimming leaves nothing exactly of a blank text.
* `strip_padded`, `exists_eq_padded_strip`: a text and what is left of it differ by characters of
  the class at the two ends.
* `head?_strip`, `getLast?_strip`, `strip_strip`: what was trimmed has no ends to trim.
* `splitOn_dropWhile`, `splitOn_rdropWhile`: the pieces of a text that was trimmed.
-/

namespace LogCatalog.Text

variable {p q : Char → Bool} {c : Char} {s t : Text}

def trimEnd (t : Text) : Text := t.rdropWhile isBlank

/-! ### The ends of a text -/

theorem strip_eq (p : Char → Bool) (t : Text) : strip p t = (t.dropWhile p).rdropWhile p := rfl

theorem strip_eq_nil_iff : strip p t = [] ↔ ∀ c ∈ t, p c = true := by
  rw [strip_eq, List.rdropWhile_eq_nil_iff]
  constructor
  · intro h c hc
    rw [← List.takeWhile_append_dropWhile (p := p) (l := t)] at hc
    rcases List.mem_append.1 hc with hc | hc
    · exact List.mem_takeWhile_imp hc
    · exact h c hc
  · exact fun h c hc => h c ((List.dropWhile_sublist p).subset hc)

theorem trim_eq_nil_iff : trim t = [] ↔ ∀ c ∈ t, isBlank c = true := strip_eq_nil_iff

theorem dropWhile_append_cons (hc : p c = false) :
    (s ++ c :: t).dropWhile p = s.dropWhile p ++ c :: t := by
  rw [List.dropWhile_append]
  split
  · next hs =>
    rw [List.isEmpty_iff.1 hs, List.nil_append, List.dropWhile_cons_of_neg (Bool.eq_false_iff.1 hc)]
  · rfl

theorem rdropWhile_append_of_all (h : ∀ c ∈ t, p c = true) :
    (s ++ t).rdropWhile p = s.rdropWhile p := by
  rw [List.rdropWhile, List.reverse_append,
    List.dropWhile_append_of_pos fun c hc => h c (List.mem_reverse.1 hc), ← List.rdropWhile]

theorem rdropWhile_append_cons (hc : p c = false) :
    (s ++ c :: t).rdropWhile p = s ++ c :: t.rdropWhile p := by
  rw [List.rdropWhile, List.reverse_append, List.reverse_cons, List.append_assoc,
    List.singleton_append, dropWhile_append_cons hc, List.reverse_append, List.reverse_cons,
    List.reverse_reverse, List.append_assoc, List.singleton_append, ← List.rdropWhile]

theorem dropWhile_congr (h : ∀ c ∈ t, p c = q c) :
    t.dropWhile p = t.dropWhile q := by
  induction t with
  | nil => rfl
  | cons c rest ih =>
    rw [List.dropWhile_cons, List.dropWhile_cons, h c List.mem_cons_self,
      ih fun d hd => h d (List.mem_cons_of_mem _ hd)]

theorem rdropWhile_congr (h : ∀ c ∈ t, p c = q c) :
    t.rdropWhile p = t.rdropWhile q := by
  rw [List.rdropWhile, List.rdropWhile, dropWhile_congr fun c hc => h c (List.mem_reverse.1 hc)]

/-- Only what stands between the ends counts. -/
theorem strip_padded {before after : Text} (hbefore : ∀ c ∈ before, p c = true)
    (hafter : ∀ c ∈ after, p c = true) : strip p (before ++ t ++ after) = strip p t := by
  rw [strip_eq, List.append_assoc, List.dropWhile_append_of_pos hbefore, List.dropWhile_append]
  split
  -- Nothing is left of `t`, so dropping goes on behind it.
  · next hempty =>
    rw [List.dropWhile_eq_nil_iff.2 hafter, strip_eq, List.isEmpty_iff.1 hempty]
  · exact rdropWhile_append_of_all hafter

/-- What is taken off at the ends is of the class. -/
theorem exists_eq_padded_strip (p : Char → Bool) (t : Text) :
    ∃ before after, t = before ++ strip p t ++ after
      ∧ (∀ c ∈ before, p c = true) ∧ ∀ c ∈ after, p c = true := by
  refine ⟨t.takeWhile p, (t.dropWhile p).rtakeWhile p, ?_, fun c hc => List.mem_takeWhile_imp hc,
    fun c hc => List.mem_rtakeWhile_imp hc⟩
  rw [strip_eq, List.append_assoc, List.rdropWhile_append_rtakeWhile,
    List.takeWhile_append_dropWhile]

theorem strip_strip (p : Char → Bool) (t : Text) : strip p (strip p t) = strip p t := by
  obtain ⟨before, after, ht, hbefore, hafter⟩ := exists_eq_padded_strip p t
  have hstrip := strip_padded (t := strip p t) hbefore hafter
  rw [← ht] at hstrip
  exact hstrip.symm

theorem head?_dropWhile (h : c ∈ (t.dropWhile p).head?) : p c = false := by
  have hhead := List.head?_dropWhile_not p t
  rw [Option.mem_def.1 h] at hhead
  exact hhead

/-- A text that was trimmed starts with no character of the class. -/
theorem head?_strip (h : c ∈ (strip p t).head?) : p c = false := by
  cases hrest : t.dropWhile p with
  | nil =>
    rw [strip, hrest] at h
    cases h
  | cons d more =>
    have hd : p d = false := by
      refine head?_dropWhile (t := t) ?_
      rw [hrest]
      rfl
    have hstrip : strip p t = d :: more.rdropWhile p := by
      rw [strip_eq, hrest]
      exact rdropWhile_append_cons (s := []) hd
    rw [hstrip] at h
    obtain rfl : d = c := Option.some.inj h
    exact hd

theorem getLast?_strip (h : c ∈ (strip p t).getLast?) : p c = false := by
  rw [strip, List.getLast?_reverse] at h
  exact head?_dropWhile h

theorem strip_eq_self_of_ends (hfirst : ∀ c ∈ t.head?, p c = false)
    (hlast : ∀ c ∈ t.getLast?, p c = false) : strip p t = t := by
  have hstart : t.dropWhile p = t := List.dropWhile_eq_self_iff.2 fun hpos =>
    Bool.eq_false_iff.1 (hfirst _ (List.head?_eq_getElem?.trans (List.getElem?_eq_getElem hpos)))
  have hend : t.rdropWhile p = t := List.rdropWhile_eq_self_iff.2 fun hne =>
    Bool.eq_false_iff.1 (hlast _ (List.getLast?_eq_some_getLast hne))
  rw [strip_eq, hstart, hend]

theorem strip_eq_self (h : ∀ c ∈ t, p c = false) : strip p t = t :=
  strip_eq_self_of_ends (fun c hc => h c (List.mem_of_mem_head? hc))
    fun c hc => h c (List.mem_of_mem_getLast? hc)

theorem strip_eq_self_of_length_le (h : t.length ≤ (strip p t).length) : strip p t = t := by
  obtain ⟨before, after, ht, -, -⟩ := exists_eq_padded_strip p t
  have hlength : t.length = before.length + (strip p t).length + after.length := by
    rw [← List.length_append, ← List.length_append, ← ht]
  obtain rfl : before = [] := List.eq_nil_of_length_eq_zero (by omega)
  obtain rfl : after = [] := List.eq_nil_of_length_eq_zero (by omega)
  rw [List.nil_append, List.append_nil] at ht
  exact ht.symm

/-! ### The pieces of a trimmed text -/

section

variable {separator : Char}

/-- A text that is trimmed at its start loses nothing but what its first piece loses.  Within the
piece it makes no difference whether the separator is of the class. -/
theorem splitOn_dropWhile (h : p separator = false) (hq : ∀ c, c ≠ separator → p c = q c)
    (t : Text) :
    (t.dropWhile p).splitOn separator = (t.splitOn separator).modifyHead (·.dropWhile q) := by
  have hpiece : ∀ piece : Text, separator ∉ piece →
      piece.dropWhile p = piece.dropWhile q ∧ separator ∉ piece.dropWhile q := by
    intro piece hmem
    refine ⟨dropWhile_congr fun c hc => hq c fun heq => hmem (heq ▸ hc), fun hrest => hmem ?_⟩
    exact (List.dropWhile_sublist q).subset hrest
  induction t using piece_induction separator with
  | last piece hmem =>
    obtain ⟨heq, hrest⟩ := hpiece piece hmem
    rw [heq, List.splitOn_eq_singleton hmem, List.splitOn_eq_singleton hrest, List.modifyHead_cons]
  | next piece rest hmem _ =>
    obtain ⟨heq, hfirst⟩ := hpiece piece hmem
    rw [dropWhile_append_cons h, heq, List.splitOn_append_cons_self_of_not_mem hmem,
      List.splitOn_append_cons_self_of_not_mem hfirst, List.modifyHead_cons]

/-- A text that is trimmed at its end loses nothing but what its last piece loses. -/
theorem splitOn_rdropWhile (h : p separator = false) (hq : ∀ c, c ≠ separator → p c = q c)
    (t : Text) :
    (t.rdropWhile p).splitOn separator = (t.splitOn separator).modifyLast (·.rdropWhile q) := by
  induction t using piece_induction separator with
  | last piece hmem =>
    have heq : piece.rdropWhile p = piece.rdropWhile q :=
      rdropWhile_congr fun c hc => hq c fun heq => hmem (heq ▸ hc)
    have hrest : separator ∉ piece.rdropWhile q := fun hrest =>
      hmem ((List.rdropWhile_prefix q piece).subset hrest)
    rw [heq, List.splitOn_eq_singleton hmem, List.splitOn_eq_singleton hrest]
    rfl
  | next piece rest hmem ih =>
    rw [rdropWhile_append_cons h, List.splitOn_append_cons_self_of_not_mem hmem,
      List.splitOn_append_cons_self_of_not_mem hmem, ih]
    exact (List.modifyLast_append_of_right_ne_nil _ [piece] _
      (List.splitOn_ne_nil separator rest)).symm

end

end LogCatalog.Text
