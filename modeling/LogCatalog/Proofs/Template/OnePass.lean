import LogCatalog.Proofs.Template.BraceRuns
import LogCatalog.Proofs.Template.Reading

/-!
# One pass over a template

`scan` reads a template once, from the left, and never looks ahead.  `holesByRuns` looks for whole
runs of braces.  They find the same holes, because a place of the one pass says all that matters of
the run that ends there (`Reaches`).

* `Reaches.step`: one character keeps this, and closes the holes that are next by runs.
* `scan_eq_holesByRuns`: so one pass finds the holes that the runs of braces give.
-/

namespace LogCatalog.Template

/-! ### What a place says of the characters before it -/

/-- Between two holes, with `t[s, k)` the run of `{` that ends before index `k`. -/
structure InText (t : Text) (p s k : Nat) (odd : Bool) : Prop where
  p_le : p ≤ s
  le : s ≤ k
  run : ∀ i, s ≤ i → i < k → t[i]? = some '{'
  before : s = 0 ∨ t[s - 1]? ≠ some '{'
  parity : odd = decide ((k - s) % 2 = 1)
  even : ∀ j, p ≤ j → j < s → BeginsRun '{' t j → runLength '{' t j % 2 = 0

/-- Behind the opening brace `o` of a hole, with `t[c, k)` the run of `}` that ends before `k`. -/
structure InHole (t : Text) (o c k : Nat) : Prop where
  lt : o < c
  le : c ≤ k
  run : ∀ i, c ≤ i → i < k → t[i]? = some '}'
  before : t[c - 1]? ≠ some '}'
  escape : ∀ j, o < j → j < c → BeginsRun '}' t j → IsEscape t j

/-- The place at index `k` of a template whose holes before `p` have been given. -/
inductive Reaches (t : Text) (p k : Nat) : Place → Prop
  | text {s : Nat} {odd : Bool} : InText t p s k odd → Reaches t p k (.text odd)
  | hole {o c : Nat} : opening? t p = some o → InHole t o c k →
      Reaches t p k (.hole (Text.byteLength (t.take o)) (slice t (o + 1) c).reverse (k - c))

namespace InText

variable {t : Text} {p s k : Nat}

theorem next_brace {odd : Bool} (h : InText t p s k odd) (hk : t[k]? = some '{') :
    InText t p s (k + 1) !odd where
  p_le := h.p_le
  le := Nat.le_succ_of_le h.le
  run i hsi hik := by
    rcases Nat.lt_succ_iff_lt_or_eq.1 hik with hlt | rfl
    · exact h.run i hsi hlt
    · exact hk
  before := h.before
  parity := by
    have := h.le
    rw [h.parity, ← decide_not, decide_eq_decide]
    omega
  even := h.even

theorem even_upto (h : InText t p s k false) (hk : t[k]? ≠ some '{') :
    ∀ j, p ≤ j → j ≤ k → BeginsRun '{' t j → runLength '{' t j % 2 = 0 := by
  intro j hpj hjk hj
  rcases Nat.lt_trichotomy j s with hjs | rfl | hjs
  · exact h.even j hpj hjs hj
  · rw [runLength_eq hjk h.run hk]
    have := h.parity
    simp only [Bool.false_eq, decide_eq_false_iff_not] at this
    omega
  · -- behind the first brace of the run no run begins
    rcases hj.2 with h0 | hprev
    · omega
    · exact absurd (h.run (j - 1) (by omega) (by omega)) hprev

theorem next_other (h : InText t p s k false) (hk : t[k]? ≠ some '{') :
    InText t p (k + 1) (k + 1) false where
  p_le := by have := h.p_le; have := h.le; omega
  le := Nat.le_refl _
  run i h1 h2 := by omega
  before := .inr hk
  parity := by simp
  even j hpj hjk := h.even_upto hk j hpj (Nat.lt_succ_iff.1 hjk)

theorem opens (h : InText t p s k true) (hk : t[k]? ≠ some '{') :
    s < k ∧ opening? t p = some (k - 1) := by
  have hpar := h.parity
  simp only [Bool.true_eq, decide_eq_true_eq] at hpar
  have hlt : s < k := by omega
  have hlen : runLength '{' t s = k - s := runLength_eq h.le h.run hk
  refine ⟨hlt, ?_⟩
  rw [opening?_eq h.p_le ⟨h.run s (Nat.le_refl s) hlt, h.before⟩ (by rw [hlen, hpar]) h.even, hlen]
  congr 1
  omega

end InText

namespace InHole

variable {t : Text} {o c k : Nat}

/-- Right behind the opening brace nothing of the hole has been read. -/
theorem start (ho : t[o]? = some '{') : InHole t o (o + 1) (o + 1) where
  lt := Nat.lt_succ_self o
  le := Nat.le_refl _
  run i h1 h2 := by omega
  before := by rw [Nat.add_sub_cancel, ho]; decide
  escape j h1 h2 := by omega

theorem next_brace (h : InHole t o c k) (hk : t[k]? = some '}') : InHole t o c (k + 1) where
  lt := h.lt
  le := Nat.le_succ_of_le h.le
  run i hci hik := by
    rcases Nat.lt_succ_iff_lt_or_eq.1 hik with hlt | rfl
    · exact h.run i hci hlt
    · exact hk
  before := h.before
  escape := h.escape

theorem runLength_eq (h : InHole t o c k) (hk : t[k]? ≠ some '}') :
    runLength '}' t c = k - c := Template.runLength_eq h.le h.run hk

/-- If the run before `k` is an escape, then so are all runs up to `k`. -/
theorem escape_upto (h : InHole t o c k) (hk : t[k]? ≠ some '}') (heven : (k - c) % 2 = 0)
    (hend : c < k → k ≠ t.length) :
    ∀ j, o < j → j ≤ k → BeginsRun '}' t j → IsEscape t j := by
  intro j hoj hjk hj
  rcases Nat.lt_trichotomy j c with hjc | rfl | hjc
  · exact h.escape j hoj hjc hj
  · have hne : j ≠ k := fun e => hk (e ▸ hj.1)
    have hj' := h.runLength_eq hk
    have := hend (by omega)
    exact ⟨by rw [hj', heven], by omega⟩
  · rcases hj.2 with h0 | hprev
    · omega
    · exact absurd (h.run (j - 1) (by omega) (by omega)) hprev

theorem next_other (h : InHole t o c k) {ch : Char} (hk : t[k]? = some ch) (hne : ch ≠ '}')
    (heven : (k - c) % 2 = 0) : InHole t o (k + 1) (k + 1) where
  lt := by have := h.lt; have := h.le; omega
  le := Nat.le_refl _
  run i h1 h2 := by omega
  before := by rw [Nat.add_sub_cancel, hk]; simpa using hne
  escape j hoj hjk := by
    have hlt := (List.getElem?_eq_some_iff.1 hk).1
    exact h.escape_upto (by rw [hk]; simpa using hne) heven (by omega) j hoj
      (Nat.lt_succ_iff.1 hjk)

theorem closes (h : InHole t o c k) (hck : c < k) (hk : t[k]? ≠ some '}')
    (hcloses : (k - c) % 2 = 1 ∨ k = t.length) : closing? t o = some c := by
  have hc : BeginsRun '}' t c := ⟨h.run c (Nat.le_refl c) hck, .inr h.before⟩
  refine closing?_eq h.lt hc (fun hesc => ?_) h.escape
  have hlen := h.runLength_eq hk
  rw [IsEscape, hlen] at hesc
  omega

/-- What is left of a closing run is text. -/
theorem inText (h : InHole t o c k) (hck : c < k) : InText t (c + 1) k k false where
  p_le := hck
  le := Nat.le_refl k
  run i h1 h2 := by omega
  before := by
    refine .inr ?_
    rw [h.run (k - 1) (by omega) (by omega)]
    decide
  parity := by simp
  even j hcj hjk hj := by
    have := hj.1
    rw [h.run j (by omega) hjk] at this
    exact absurd this (by decide)

end InHole

/-- The content of a hole in which a run of `}` turned out to be an escape. -/
theorem InHole.slice_next {t : Text} {o c k : Nat} (h : InHole t o c k) {ch : Char}
    (hk : t[k]? = some ch) :
    (slice t (o + 1) (k + 1)).reverse =
      ch :: (List.replicate (k - c) '}' ++ (slice t (o + 1) c).reverse) := by
  have := h.lt
  have := h.le
  rw [slice_succ (by omega) hk, slice_run h.lt h.le h.run]
  simp

theorem InHole.ofContent_eq {t : Text} {o c k : Nat} (h : InHole t o c k) (hck : c < k) :
    Hole.ofContent (slice t (o + 1) c).reverse.reverse (Text.byteLength (t.take o))
      (Text.byteLength (t.take k) - (k - c)) = holeBetween t o c := by
  rw [List.reverse_reverse, byteLength_take_run h.le h.run, Nat.add_sub_cancel]
  exact ofContent_slice h.lt (h.run c (Nat.le_refl c) hck)

/-- What a character does inside a hole. -/
theorem InHole.step {t : Text} {p o c k : Nat} {ch : Char} (ho : opening? t p = some o)
    (h : InHole t o c k) (hch : t[k]? = some ch) :
    let place := Place.hole (Text.byteLength (t.take o)) (slice t (o + 1) c).reverse (k - c)
    ∃ q, Reaches t q (k + 1) (place.next (Text.byteLength (t.take k)) ch)
      ∧ holesByRuns t p = place.closed (Text.byteLength (t.take k)) ch ++ holesByRuns t q := by
  intro place
  have hle := h.le
  have hlt := (List.getElem?_eq_some_iff.1 hch).1
  by_cases hbrace : ch = '}'
  · subst hbrace
    refine ⟨p, ?_, by simp [place, Place.closed]⟩
    have hnext := Reaches.hole ho (h.next_brace hch)
    rw [Nat.succ_sub hle] at hnext
    simpa only [place, Place.next, if_true] using hnext
  have hk : t[k]? ≠ some '}' := by rw [hch]; simpa using hbrace
  by_cases hodd : (k - c) % 2 = 1
  · -- the run closes the hole; behind its first brace the template is text again
    have hck : c < k := by omega
    refine ⟨c + 1, ?_, ?_⟩
    · simp only [place, Place.next, if_neg hbrace, if_pos hodd]
      by_cases hopen : ch = '{'
      · subst hopen
        exact .text ((h.inText hck).next_brace hch)
      · rw [beq_eq_false_iff_ne.2 hopen]
        exact .text ((h.inText hck).next_other (by rw [hch]; simpa using hopen))
    · simp only [place, Place.closed, if_neg hbrace, if_pos hodd]
      rw [holesByRuns_eq, ho]
      simp only [h.closes hck hk (.inl hodd), h.ofContent_eq hck, List.singleton_append]
  · refine ⟨p, ?_, by simp only [place, Place.closed, if_neg hbrace, if_neg hodd]; rfl⟩
    have hnext := Reaches.hole ho (h.next_other hch hbrace (by omega))
    rw [h.slice_next hch, Nat.sub_self] at hnext
    simpa only [place, Place.next, if_neg hbrace, if_neg hodd] using hnext

/-- **What one character does.**  The holes that it closes are the next ones of the reading by
runs, and the rest of them lie behind. -/
theorem Reaches.step {t : Text} {p k : Nat} {place : Place} {ch : Char} (h : Reaches t p k place)
    (hch : t[k]? = some ch) :
    ∃ q, Reaches t q (k + 1) (place.next (Text.byteLength (t.take k)) ch)
      ∧ holesByRuns t p = place.closed (Text.byteLength (t.take k)) ch ++ holesByRuns t q := by
  cases h with
  | hole ho hh => exact hh.step ho hch
  | @text s odd hs =>
    by_cases hopen : ch = '{'
    · subst hopen
      exact ⟨p, .text (hs.next_brace hch), rfl⟩
    have hk : t[k]? ≠ some '{' := by rw [hch]; simpa using hopen
    cases odd with
    | false =>
      refine ⟨p, ?_, rfl⟩
      simp only [Place.next, if_neg hopen]
      exact .text (hs.next_other hk)
    | true =>
      -- the brace before `k` opens a hole, of which `ch` is the first character
      obtain ⟨hsk, ho⟩ := hs.opens hk
      have hbrace : t[k - 1]? = some '{' := hs.run (k - 1) (by omega) (by omega)
      have hin : InHole t (k - 1) k k := by
        have := InHole.start hbrace
        rwa [Nat.sub_add_cancel (by omega)] at this
      obtain ⟨q, hq, he⟩ := hin.step ho hch
      have hpos : Text.byteLength (t.take (k - 1)) = Text.byteLength (t.take k) - 1 := by
        have := byteLength_take_succ hbrace
        rw [Nat.sub_add_cancel (by omega)] at this
        rw [this]
        rfl
      rw [Nat.sub_self, Nat.sub_add_cancel (by omega), slice_self, hpos] at hq he
      refine ⟨q, ?_, ?_⟩
      · simpa [Place.next, hopen] using hq
      · simpa [Place.closed] using he

theorem getElem?_length_ne (t : Text) (c : Char) : t[t.length]? ≠ some c := by
  rw [List.getElem?_eq_none (Nat.le_refl _)]
  exact nofun

/-- No hole opens behind an even run of `{` at the end of a template. -/
theorem InText.opening?_atEnd {t : Text} {p s : Nat} (h : InText t p s t.length false) :
    opening? t p = none := by
  refine opening?_eq_none fun j hpj hj => ?_
  have hlt := (List.getElem?_eq_some_iff.1 hj.1).1
  exact h.even_upto (getElem?_length_ne t '{') j hpj (Nat.le_of_lt hlt) hj

/-- A hole in which no run of `}` is left at the end of a template is never closed. -/
theorem InHole.closing?_atEnd {t : Text} {o c : Nat} (h : InHole t o c t.length)
    (hc : t.length ≤ c) : closing? t o = none := by
  refine closing?_eq_none fun j hoj hj => ?_
  have hlt := (List.getElem?_eq_some_iff.1 hj.1).1
  exact h.escape j hoj (by omega) hj

theorem InText.atEnd {t : Text} {p s : Nat} {odd : Bool} (h : InText t p s t.length odd) :
    holesByRuns t p = [] := by
  have hend := getElem?_length_ne t '{'
  cases odd with
  | false => rw [holesByRuns_eq, h.opening?_atEnd]
  | true =>
    obtain ⟨hs, ho⟩ := h.opens hend
    have hc : closing? t (t.length - 1) = none := by
      refine closing?_eq_none fun j hoj hj => ?_
      have hlt := (List.getElem?_eq_some_iff.1 hj.1).1
      omega
    rw [holesByRuns_eq, ho]
    simp only [hc]

/-- At the end of a template at most one hole is left, which an even run of `}` may close. -/
theorem Reaches.atEnd {t : Text} {p : Nat} {place : Place} (h : Reaches t p t.length place) :
    holesByRuns t p = place.closedAtEnd (Text.byteLength t) := by
  cases h with
  | text hs => exact hs.atEnd
  | @hole o c ho hh =>
    have hle := hh.le
    have hend := getElem?_length_ne t '}'
    rw [Place.closedAtEnd]
    split
    · next hrun =>
      rw [holesByRuns_eq, ho]
      simp only [hh.closing?_atEnd (Nat.le_of_sub_eq_zero hrun)]
    · next hrun =>
      have hck : c < t.length := by omega
      have heq := hh.ofContent_eq hck
      rw [List.take_length] at heq
      rw [holesByRuns_eq, ho]
      simp only [hh.closes hck hend (.inr rfl), (hh.inText hck).atEnd, heq]

theorem of_drop_eq_cons {t rest : Text} {k : Nat} {ch : Char} (h : t.drop k = ch :: rest) :
    k < t.length ∧ t[k]? = some ch ∧ t.drop (k + 1) = rest := by
  have hch : t[k]? = some ch := by rw [← List.head?_drop, h, List.head?_cons]
  exact ⟨(List.getElem?_eq_some_iff.1 hch).1, hch, by rw [← List.tail_drop, h, List.tail_cons]⟩

theorem Reaches.scanFrom_drop {t : Text} {p k : Nat} {place : Place} (h : Reaches t p k place)
    (hk : k ≤ t.length) :
    scanFrom (Text.byteLength (t.take k)) place (t.drop k) = holesByRuns t p := by
  induction hrest : t.drop k generalizing p k place with
  | nil =>
    obtain rfl : k = t.length := Nat.le_antisymm hk (List.drop_eq_nil_iff.1 hrest)
    rw [scanFrom_nil, List.take_length, h.atEnd]
  | cons ch rest ih =>
    obtain ⟨hlt, hch, hdrop⟩ := of_drop_eq_cons hrest
    obtain ⟨q, hnext, hholes⟩ := h.step hch
    rw [scanFrom_cons, ← byteLength_take_succ hch, ih hnext hlt hdrop, hholes]

theorem Reaches.start (t : Text) : Reaches t 0 0 (.text false) :=
  .text { p_le := Nat.le_refl 0, le := Nat.le_refl 0, run := by simp, before := .inl rfl
          parity := rfl, even := by simp }

/-- **One pass finds the holes that the runs of braces give.** -/
theorem scan_eq_holesByRuns (template : Text) : scan template = holesByRuns template 0 :=
  (Reaches.start template).scanFrom_drop (Nat.zero_le _)

end LogCatalog.Template
