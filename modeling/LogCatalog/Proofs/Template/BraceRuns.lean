import LogCatalog.Template
import Mathlib.Data.Nat.Init

/-!
# Runs of braces

A template is read here by its runs of braces, as one would read it with the eye: the next run of
`{` of odd length opens a hole with its last brace, the next run of `}` after it that is odd or
reaches the end closes the hole with its first brace, and so on behind that brace.  Indices count
characters; the start and the stop of a hole are in bytes.

* `holesByRuns`: the holes that this reading gives.
* `opening?_eq`, `closing?_eq`: which run opens a hole, and which one closes it.
* `ofContent_slice`: the content of a hole is cut into name and spec in the same way by both
  readings.
-/

namespace LogCatalog.Template

/-! ### The reading by runs -/

def runLength (brace : Char) (t : Text) (i : Nat) : Nat :=
  ((t.drop i).takeWhile (· == brace)).length

/-- A maximal run of braces of one kind begins at an index. -/
def BeginsRun (brace : Char) (t : Text) (i : Nat) : Prop :=
  t[i]? = some brace ∧ (i = 0 ∨ t[i - 1]? ≠ some brace)

instance (brace : Char) (t : Text) (i : Nat) : Decidable (BeginsRun brace t i) :=
  inferInstanceAs (Decidable (_ ∧ _))

/-- The last brace of the first run of `{` that begins at or after `p` and has odd length. -/
def opening? (t : Text) (p : Nat) : Option Nat :=
  ((List.range t.length).find? fun i =>
    p ≤ i ∧ BeginsRun '{' t i ∧ runLength '{' t i % 2 = 1).map fun i => i + runLength '{' t i - 1

/-- The first brace of the first run of `}` after `o` that has odd length or reaches the end. -/
def closing? (t : Text) (o : Nat) : Option Nat :=
  (List.range t.length).find? fun c =>
    o < c ∧ BeginsRun '}' t c ∧ (runLength '}' t c % 2 = 1 ∨ c + runLength '}' t c = t.length)

def slice (t : Text) (first last : Nat) : Text := (t.take last).drop first

/-- Where the name of a hole ends: at the first comma or colon between its braces, or else at the
closing brace. -/
def nameEnd (t : Text) (o c : Nat) : Nat :=
  ((List.range c).find? fun i => o < i ∧ (t[i]? = some ',' ∨ t[i]? = some ':')).getD c

def holeBetween (t : Text) (o c : Nat) : Hole where
  name := slice t (o + 1) (nameEnd t o c)
  spec := slice t (nameEnd t o c) c
  start := Text.byteLength (t.take o)
  stop := Text.byteLength (t.take (c + 1))

theorem le_of_opening? {t : Text} {p o : Nat} (h : opening? t p = some o) : p ≤ o := by
  obtain ⟨i, hi, rfl⟩ := Option.map_eq_some_iff.1 h
  have hp := (List.find?_range_eq_some.1 hi).1
  simp only [decide_eq_true_eq] at hp
  omega

theorem lt_of_closing? {t : Text} {o c : Nat} (h : closing? t o = some c) :
    o < c ∧ c < t.length := by
  obtain ⟨hp, hc, _⟩ := List.find?_range_eq_some.1 h
  simp only [decide_eq_true_eq] at hp
  exact ⟨hp.1, List.mem_range.1 hc⟩

/-- The holes of a template from an index on, read by runs of braces. -/
def holesByRuns (t : Text) (p : Nat) : List Hole :=
  match _ho : opening? t p with
  | none => []
  | some o =>
    match _hc : closing? t o with
    | none => []
    | some c => holeBetween t o c :: holesByRuns t (c + 1)
termination_by t.length - p
decreasing_by
  have h1 := le_of_opening? _ho
  have h2 := lt_of_closing? _hc
  omega

theorem holesByRuns_eq (t : Text) (p : Nat) :
    holesByRuns t p =
      match opening? t p with
      | none => []
      | some o =>
        match closing? t o with
        | none => []
        | some c => holeBetween t o c :: holesByRuns t (c + 1) := by
  rw [holesByRuns]
  split
  · next ho => rw [ho]
  · next o ho =>
    rw [ho]
    dsimp only
    split
    · next hc => rw [hc]
    · next c hc => rw [hc]

/-! ### Runs and slices -/

theorem runLength_eq {brace : Char} {t : Text} {i k : Nat} (hik : i ≤ k)
    (hrun : ∀ j, i ≤ j → j < k → t[j]? = some brace) (hend : t[k]? ≠ some brace) :
    runLength brace t i = k - i := by
  induction hn : k - i generalizing i with
  | zero =>
    obtain rfl : i = k := by omega
    rw [runLength]
    cases hd : t.drop i with
    | nil => rfl
    | cons c rest =>
      rw [← List.head?_drop, hd, List.head?_cons] at hend
      have hc : ¬ (c == brace) = true := fun h => hend (congrArg some (beq_iff_eq.1 h))
      rw [List.takeWhile_cons, if_neg hc, List.length_nil]
  | succ n ih =>
    obtain ⟨hlt, hi⟩ := List.getElem?_eq_some_iff.1 (hrun i (Nat.le_refl i) (by omega))
    have hrest : runLength brace t (i + 1) = n :=
      ih (by omega) (fun j hj => hrun j (by omega)) (by omega)
    rw [runLength] at hrest ⊢
    rw [List.drop_eq_getElem_cons hlt, List.takeWhile_cons, if_pos (beq_iff_eq.2 hi),
      List.length_cons, hrest]

theorem opening?_eq {t : Text} {p i : Nat} (hpi : p ≤ i) (hi : BeginsRun '{' t i)
    (hodd : runLength '{' t i % 2 = 1)
    (heven : ∀ j, p ≤ j → j < i → BeginsRun '{' t j → runLength '{' t j % 2 = 0) :
    opening? t p = some (i + runLength '{' t i - 1) := by
  refine Option.map_eq_some_iff.2 ⟨i, List.find?_range_eq_some.2 ⟨?_, ?_, ?_⟩, rfl⟩
  · simp only [decide_eq_true_eq]
    exact ⟨hpi, hi, hodd⟩
  · exact List.mem_range.2 (List.getElem?_eq_some_iff.1 hi.1).1
  · intro j hj
    simp only [Bool.not_eq_true', decide_eq_false_iff_not]
    rintro ⟨hpj, hb, ho⟩
    have := heven j hpj hj hb
    omega

theorem opening?_eq_none {t : Text} {p : Nat}
    (heven : ∀ j, p ≤ j → BeginsRun '{' t j → runLength '{' t j % 2 = 0) :
    opening? t p = none := by
  refine Option.map_eq_none_iff.2 (List.find?_range_eq_none.2 fun j _ => ?_)
  simp only [Bool.not_eq_true', decide_eq_false_iff_not]
  rintro ⟨hpj, hb, ho⟩
  have := heven j hpj hb
  omega

/-- A run of `}` that closes no hole: it is even, and something follows it. -/
def IsEscape (t : Text) (j : Nat) : Prop :=
  runLength '}' t j % 2 = 0 ∧ j + runLength '}' t j ≠ t.length

theorem closing?_eq {t : Text} {o c : Nat} (hoc : o < c) (hc : BeginsRun '}' t c)
    (hcloses : ¬ IsEscape t c) (hescape : ∀ j, o < j → j < c → BeginsRun '}' t j → IsEscape t j) :
    closing? t o = some c := by
  refine List.find?_range_eq_some.2 ⟨?_, ?_, ?_⟩
  · simp only [decide_eq_true_eq]
    refine ⟨hoc, hc, ?_⟩
    rw [IsEscape] at hcloses
    omega
  · exact List.mem_range.2 (List.getElem?_eq_some_iff.1 hc.1).1
  · intro j hj
    simp only [Bool.not_eq_true', decide_eq_false_iff_not]
    rintro ⟨hoj, hb, hcl⟩
    have := hescape j hoj hj hb
    rw [IsEscape] at this
    omega

theorem closing?_eq_none {t : Text} {o : Nat}
    (hescape : ∀ j, o < j → BeginsRun '}' t j → IsEscape t j) : closing? t o = none := by
  refine List.find?_range_eq_none.2 fun j _ => ?_
  simp only [Bool.not_eq_true', decide_eq_false_iff_not]
  rintro ⟨hoj, hb, hcl⟩
  have := hescape j hoj hb
  rw [IsEscape] at this
  omega

theorem slice_self (t : Text) (a : Nat) : slice t a a = [] := by
  rw [slice, List.drop_eq_nil_iff]
  exact List.length_take_le _ _

theorem slice_succ {t : Text} {a k : Nat} {c : Char} (hak : a ≤ k) (hc : t[k]? = some c) :
    slice t a (k + 1) = slice t a k ++ [c] := by
  obtain ⟨hlt, rfl⟩ := List.getElem?_eq_some_iff.1 hc
  rw [slice, slice, List.take_succ_eq_append_getElem hlt, List.drop_append_of_le_length]
  rw [List.length_take]
  omega

theorem slice_run {t : Text} {a c k : Nat} {brace : Char} (hac : a ≤ c) (hck : c ≤ k)
    (hrun : ∀ i, c ≤ i → i < k → t[i]? = some brace) :
    slice t a k = slice t a c ++ List.replicate (k - c) brace := by
  induction k, hck using Nat.le_induction with
  | base => simp
  | succ k hck ih =>
    rw [slice_succ (by omega) (hrun k hck (by omega)), ih fun i h1 h2 => hrun i h1 (by omega),
      List.append_assoc, ← List.replicate_succ', Nat.succ_sub hck]

theorem byteLength_take_succ {t : Text} {k : Nat} {c : Char} (hc : t[k]? = some c) :
    Text.byteLength (t.take (k + 1)) = Text.byteLength (t.take k) + c.utf8Size := by
  obtain ⟨hlt, rfl⟩ := List.getElem?_eq_some_iff.1 hc
  rw [List.take_succ_eq_append_getElem hlt, Text.byteLength_append]
  rfl

theorem byteLength_take_run {t : Text} {c k : Nat} (hck : c ≤ k)
    (hrun : ∀ i, c ≤ i → i < k → t[i]? = some '}') :
    Text.byteLength (t.take k) = Text.byteLength (t.take c) + (k - c) := by
  induction k, hck using Nat.le_induction with
  | base => simp
  | succ k hck ih =>
    rw [byteLength_take_succ (hrun k hck (by omega)), ih fun i h1 h2 => hrun i h1 (by omega)]
    have : Char.utf8Size '}' = 1 := by decide
    omega

/-! ### The hole between two braces -/

theorem nameEnd_spec {t : Text} {o c : Nat} (hoc : o < c) :
    o < nameEnd t o c ∧ nameEnd t o c ≤ c
      ∧ (∀ i, o < i → i < nameEnd t o c → t[i]? ≠ some ',' ∧ t[i]? ≠ some ':')
      ∧ (nameEnd t o c < c → t[nameEnd t o c]? = some ',' ∨ t[nameEnd t o c]? = some ':') := by
  rw [nameEnd]
  cases hf : (List.range c).find? fun i => o < i ∧ (t[i]? = some ',' ∨ t[i]? = some ':') with
  | none =>
    refine ⟨hoc, Nat.le_refl c, fun i hoi hic => ?_, fun h => absurd h (Nat.lt_irrefl c)⟩
    have := List.find?_range_eq_none.1 hf i hic
    simp only [Bool.not_eq_true', decide_eq_false_iff_not, not_and, not_or] at this
    exact this hoi
  | some d =>
    obtain ⟨hd, hdc, hbefore⟩ := List.find?_range_eq_some.1 hf
    simp only [decide_eq_true_eq] at hd
    refine ⟨hd.1, Nat.le_of_lt (List.mem_range.1 hdc), fun i hoi hid => ?_, fun _ => hd.2⟩
    have := hbefore i hid
    simp only [Bool.not_eq_true', decide_eq_false_iff_not, not_and, not_or] at this
    exact this hoi

theorem take_append_slice (t : Text) {a b : Nat} (h : a ≤ b) :
    t.take a ++ slice t a b = t.take b := by
  have hcut := List.take_append_drop a (t.take b)
  rwa [List.take_take, Nat.min_eq_left h] at hcut

theorem slice_append {t : Text} {a b c : Nat} (hab : a ≤ b) (hbc : b ≤ c) :
    slice t a c = slice t a b ++ slice t b c := by
  have hcut : t.take b ++ (t.take c).drop b = t.take c := take_append_slice t hbc
  rw [slice, slice, slice]
  by_cases hat : a ≤ t.length
  · rw [← List.drop_append_of_le_length (by rw [List.length_take]; omega), hcut]
  · rw [List.drop_eq_nil_of_le, List.drop_eq_nil_of_le, List.drop_eq_nil_of_le]
    · rfl
    all_goals rw [List.length_take]; omega

theorem mem_slice {t : Text} {a b : Nat} {x : Char} (h : x ∈ slice t a b) :
    ∃ i, a ≤ i ∧ i < b ∧ t[i]? = some x := by
  obtain ⟨n, hn⟩ := List.mem_iff_getElem?.1 h
  rw [slice, List.getElem?_drop, List.getElem?_take] at hn
  split at hn
  · next hlt => exact ⟨a + n, by omega, hlt, hn⟩
  · cases hn

/-- The rule for names and specs, once by indices and once by what comes first in the content. -/
theorem ofContent_slice {t : Text} {o c : Nat} (hoc : o < c) (hc : t[c]? = some '}') :
    Hole.ofContent (slice t (o + 1) c) (Text.byteLength (t.take o)) (Text.byteLength (t.take c))
      = holeBetween t o c := by
  obtain ⟨hod, hdc, hbefore, hat⟩ := nameEnd_spec (t := t) hoc
  have hname : ∀ x ∈ slice t (o + 1) (nameEnd t o c), (!isDelimiter x) = true := by
    intro x hx
    obtain ⟨i, hi, hid, he⟩ := mem_slice hx
    have := hbefore i hi hid
    simp only [he, ne_eq, Option.some.injEq] at this
    simp [isDelimiter, this]
  have hspec : slice t (nameEnd t o c) c = [] ∨
      ∃ x rest, slice t (nameEnd t o c) c = x :: rest ∧ (!isDelimiter x) = false := by
    rcases Nat.lt_or_eq_of_le hdc with hlt | he
    · have hx : ∃ x, t[nameEnd t o c]? = some x ∧ (!isDelimiter x) = false := by
        rcases hat hlt with h | h
        · exact ⟨',', h, rfl⟩
        · exact ⟨':', h, rfl⟩
      obtain ⟨x, hx, hdel⟩ := hx
      refine .inr ⟨x, slice t (nameEnd t o c + 1) c, ?_, hdel⟩
      rw [slice_append (Nat.le_succ _) hlt, slice_succ (Nat.le_refl _) hx, slice_self]
      rfl
    · exact .inl (by rw [he, slice_self])
  have hcut := slice_append (t := t) (a := o + 1) hod hdc
  rw [Hole.ofContent, holeBetween, byteLength_take_succ hc, hcut,
    List.takeWhile_append_of_pos hname, List.dropWhile_append_of_pos hname]
  rcases hspec with hnil | ⟨x, rest, hcons, hdel⟩
  · rw [hnil, List.takeWhile_nil, List.dropWhile_nil, List.append_nil]
    rfl
  · rw [hcons, List.takeWhile_cons, List.dropWhile_cons, hdel, if_neg Bool.false_ne_true,
      if_neg Bool.false_ne_true, List.append_nil]
    rfl

end LogCatalog.Template
