import LogCatalog.Proofs.Template.BraceBytes

/-!
# Holes cut out by byte positions

The scanner over bytes seeks the braces of one hole after the other and cuts name and spec out of
the template at the byte positions it has found.  A cut may fail: at a position beyond the end or
inside a character, or where a slice would end before it starts.  None of its cuts does.

* `scanBytes?`: the scanner over bytes.
* `nextBraces?_eq`, `delimiterAt_eq`, `cutHole?_eq`: the positions it finds, as the runs of braces
  give them.
* `spans_of_scan`: it gives the holes of the template, and their spans follow one another within
  the template.
-/

namespace LogCatalog.Template

open Text (byteLength byteSlice?)
open Text.Utf8 (encode)

/-! ### The scanner -/

/-- The positions of the next braces that stand around a hole, if there are any. -/
def nextBraces? (bytes : List UInt8) (start : Nat) : Option (Nat × Nat) :=
  if bytes.length ≤ start then none
  else
    let opening := findBrace '{' bytes start
    if opening = bytes.length then none
    else
      let closing := findBrace '}' bytes opening
      if closing = bytes.length then none else some (opening, closing)

def isDelimiterByte (b : UInt8) : Bool := b == byteOf ',' || b == byteOf ':'

def delimiterAt (bytes : List UInt8) (opening closing : Nat) : Nat :=
  (((bytes.take closing).drop opening).findIdx? isDelimiterByte).elim closing (opening + ·)

/-- Cuts out the hole between two braces, unless one of the cuts fails. -/
def cutHole? (t : Text) (opening closing : Nat) : Option Hole :=
  if opening ≤ closing ∧ closing ≤ byteLength t then do
    let delimiter := delimiterAt (encode t) opening closing
    let name ← byteSlice? t (opening + 1) delimiter
    let spec ← byteSlice? t delimiter closing
    return { name, spec, start := opening, stop := closing + 1 }
  else none

theorem nextBraces?_bounds {bytes : List UInt8} {start opening closing : Nat}
    (h : nextBraces? bytes start = some (opening, closing)) :
    start < bytes.length ∧ start ≤ closing := by
  rw [nextBraces?] at h
  split at h
  · cases h
  · next hstart =>
    dsimp only at h
    split at h
    · cases h
    split at h
    · cases h
    · cases h
      have hle : start ≤ bytes.length := by omega
      exact ⟨by omega, le_findBraceFrom hle (le_findBrace hle) hle⟩

/-- The holes from a byte position on, unless a cut fails. -/
def scanBytesFrom? (t : Text) (start : Nat) : Option (List Hole) :=
  match _h : nextBraces? (encode t) start with
  | none => some []
  | some (opening, closing) => do
    let hole ← cutHole? t opening closing
    let holes ← scanBytesFrom? t (closing + 1)
    return hole :: holes
termination_by byteLength t - start
decreasing_by
  have hbounds := nextBraces?_bounds _h
  rw [Text.Utf8.length_encode] at hbounds
  omega

def scanBytes? (t : Text) : Option (List Hole) := scanBytesFrom? t 0

/-! ### What it finds -/

variable {t : Text} {p o c k : Nat}

theorem byteLength_take_lt {x : Char} (h : t[k]? = some x) :
    byteLength (t.take k) < byteLength t := by
  have hle := byteLength_take_mono t (List.getElem?_eq_some_iff.1 h).1
  rw [List.take_length, byteLength_take_succ h] at hle
  have := x.utf8Size_pos
  omega

theorem bracesFrom_eq (ho : t[o]? = some '{') :
    (if findBrace '}' (encode t) (byteLength (t.take o)) = byteLength t then none
      else some (byteLength (t.take o), findBrace '}' (encode t) (byteLength (t.take o))))
      = (closing? t o).map fun c => (byteLength (t.take o), byteLength (t.take c)) := by
  rw [findBrace_closing ho]
  cases hc : closing? t o with
  | none => exact if_pos rfl
  | some c => exact if_neg (Nat.ne_of_lt (byteLength_take_lt (getElem?_of_closing? hc)))

/-- The braces around the next hole are those of the reading by runs. -/
theorem nextBraces?_eq (hp : p ≤ t.length) (hbefore : p = 0 ∨ t[p - 1]? ≠ some '{') :
    nextBraces? (encode t) (byteLength (t.take p))
      = (opening? t p).bind fun o => (closing? t o).map fun c =>
          (byteLength (t.take o), byteLength (t.take c)) := by
  have hopening := isOpening_findBrace hp hbefore
  rw [nextBraces?, Text.Utf8.length_encode]
  generalize findBrace '{' (encode t) (byteLength (t.take p)) = found at hopening
  dsimp only
  split
  · next hend =>
    cases ho : opening? t p with
    | none => rfl
    | some o =>
      have hle := byteLength_take_mono t (le_of_opening? ho)
      have hlt := byteLength_take_lt (getElem?_of_opening? ho)
      omega
  cases hopening with
  | hole ho =>
    have hbrace := getElem?_of_opening? ho
    rw [if_neg (Nat.ne_of_lt (byteLength_take_lt hbrace)), bracesFrom_eq hbrace, ho,
      Option.bind_some]
  | none ho => rw [if_pos rfl, ho, Option.bind_none]
  | @atEnd o ho hbrace hlast =>
    -- nothing stands behind the brace that was found
    have hc : closing? t o = none := by
      cases hc : closing? t o with
      | none => rfl
      | some c =>
        have := lt_of_closing? hc
        omega
    rw [if_neg (Nat.ne_of_lt (byteLength_take_lt hbrace)), bracesFrom_eq hbrace, hc, ho,
      Option.map_none, Option.bind_none]

/-! ### What it cuts out -/

theorem isDelimiterByte_iff {b : UInt8} :
    isDelimiterByte b = true ↔ b = byteOf ',' ∨ b = byteOf ':' := by
  rw [isDelimiterByte, Bool.or_eq_true, beq_iff_eq, beq_iff_eq]

theorem findIdx?_encode_eq_none {s : Text} (hcomma : ',' ∉ s) (hcolon : ':' ∉ s) :
    (encode s).findIdx? isDelimiterByte = none := by
  refine List.findIdx?_eq_none_iff.2 fun b hb => Bool.eq_false_iff.2 fun hdelimiter => ?_
  rcases isDelimiterByte_iff.1 hdelimiter with rfl | rfl
  · exact hcomma ((byteOf_mem_encode_iff (by decide)).1 hb)
  · exact hcolon ((byteOf_mem_encode_iff (by decide)).1 hb)

theorem findIdx?_encode_cons {x : Char} (hx : x = ',' ∨ x = ':') (s : Text) :
    (encode (x :: s)).findIdx? isDelimiterByte = some 0 := by
  rcases hx with rfl | rfl
  · rw [encode_cons_of_lt (by decide), List.findIdx?_cons, if_pos (by decide)]
  · rw [encode_cons_of_lt (by decide), List.findIdx?_cons, if_pos (by decide)]

theorem slice_encode {a b : Nat} (h : a ≤ b) :
    ((encode t).take (byteLength (t.take b))).drop (byteLength (t.take a))
      = encode (slice t a b) := by
  have hdrop := drop_encode (t.take b) a
  rwa [List.take_take, Nat.min_eq_left h, ← take_encode] at hdrop

theorem delimiterAt_eq (hoc : o < c) (ho : t[o]? = some '{') :
    delimiterAt (encode t) (byteLength (t.take o)) (byteLength (t.take c))
      = byteLength (t.take (nameEnd t o c)) := by
  obtain ⟨hon, hnc, hbefore, hat⟩ := nameEnd_spec (t := t) hoc
  have hplain (x : Char) (hx : x = ',' ∨ x = ':') : x ∉ slice t o (nameEnd t o c) := by
    intro hmem
    obtain ⟨i, hi, hin, he⟩ := mem_slice hmem
    rcases Nat.eq_or_lt_of_le hi with rfl | hoi
    · rw [ho] at he
      rcases hx with rfl | rfl <;> cases he
    · rcases hx with rfl | rfl
      · exact (hbefore i hoi hin).1 he
      · exact (hbefore i hoi hin).2 he
  have hlength : byteLength (t.take o) + byteLength (slice t o (nameEnd t o c))
      = byteLength (t.take (nameEnd t o c)) := by
    rw [← Text.byteLength_append, take_append_slice t (Nat.le_of_lt hon)]
  rw [delimiterAt, slice_encode (Nat.le_of_lt hoc), slice_append (Nat.le_of_lt hon) hnc,
    Text.Utf8.encode_append, List.findIdx?_append,
    findIdx?_encode_eq_none (hplain ',' (.inl rfl)) (hplain ':' (.inr rfl)), Option.none_or,
    Text.Utf8.length_encode]
  -- Either the name is all that stands between the braces, or a delimiter comes right behind it.
  rcases Nat.eq_or_lt_of_le hnc with hnc | hnc
  · rw [hnc, slice_self]
    rfl
  · obtain ⟨x, hx, hdelimiter⟩ : ∃ x, t[nameEnd t o c]? = some x ∧ (x = ',' ∨ x = ':') := by
      rcases hat hnc with h | h
      · exact ⟨_, h, .inl rfl⟩
      · exact ⟨_, h, .inr rfl⟩
    rw [slice_append (Nat.le_succ _) hnc, slice_succ (Nat.le_refl _) hx, slice_self,
      List.nil_append, List.singleton_append, findIdx?_encode_cons hdelimiter, Option.map_some,
      Nat.zero_add]
    exact hlength

/-- **The hole between two braces can be cut out.** -/
theorem cutHole?_eq (hoc : o < c) (ho : t[o]? = some '{') (hc : t[c]? = some '}') :
    cutHole? t (byteLength (t.take o)) (byteLength (t.take c)) = some (holeBetween t o c) := by
  obtain ⟨hon, hnc, -⟩ := nameEnd_spec (t := t) hoc
  have hopening : byteLength (t.take o) + 1 = byteLength (t.take (o + 1)) :=
    (byteLength_take_succ ho).symm
  have hclosing : byteLength (t.take c) + 1 = byteLength (t.take (c + 1)) :=
    (byteLength_take_succ hc).symm
  have hbounds : byteLength (t.take o) ≤ byteLength (t.take c)
      ∧ byteLength (t.take c) ≤ byteLength t :=
    ⟨byteLength_take_mono t (Nat.le_of_lt hoc), Nat.le_of_lt (byteLength_take_lt hc)⟩
  have hname : byteSlice? t (byteLength (t.take (o + 1))) (byteLength (t.take (nameEnd t o c)))
      = some (holeBetween t o c).name := byteSlice?_take t hon
  have hspec : byteSlice? t (byteLength (t.take (nameEnd t o c))) (byteLength (t.take c))
      = some (holeBetween t o c).spec := byteSlice?_take t hnc
  rw [cutHole?, if_pos hbounds, delimiterAt_eq hoc ho, hopening, hclosing]
  dsimp only
  rw [hname, hspec]
  rfl

/-! ### All holes -/

theorem scanBytesFrom?_of_none {start : Nat} (h : nextBraces? (encode t) start = none) :
    scanBytesFrom? t start = some [] := by
  rw [scanBytesFrom?]
  split
  · rfl
  · next hbraces =>
    rw [h] at hbraces
    cases hbraces

theorem scanBytesFrom?_of_some {start opening closing : Nat}
    (h : nextBraces? (encode t) start = some (opening, closing)) :
    scanBytesFrom? t start = (cutHole? t opening closing).bind fun hole =>
      (scanBytesFrom? t (closing + 1)).bind fun holes => some (hole :: holes) := by
  rw [scanBytesFrom?]
  split
  · next hbraces =>
    rw [h] at hbraces
    cases hbraces
  · next hbraces =>
    rw [h] at hbraces
    cases hbraces
    rfl

/-- From the beginning of a template, or from behind a hole, no cut fails. -/
theorem scanBytesFrom?_eq (hp : p ≤ t.length) (hbefore : p = 0 ∨ t[p - 1]? ≠ some '{') :
    scanBytesFrom? t (byteLength (t.take p)) = some (holesByRuns t p) := by
  have hbraces := nextBraces?_eq hp hbefore
  fun_induction holesByRuns t p with
  | case1 p ho =>
    rw [ho, Option.bind_none] at hbraces
    exact scanBytesFrom?_of_none hbraces
  | case2 p o ho hc =>
    rw [ho, Option.bind_some, hc, Option.map_none] at hbraces
    exact scanBytesFrom?_of_none hbraces
  | case3 p o ho c hc ih =>
    rw [ho, Option.bind_some, hc, Option.map_some] at hbraces
    obtain ⟨hoc, hlt⟩ := lt_of_closing? hc
    have hclosing := getElem?_of_closing? hc
    have hbehind : c + 1 = 0 ∨ t[c + 1 - 1]? ≠ some '{' := by
      rw [Nat.add_sub_cancel, hclosing]
      exact .inr (by decide)
    have hrest := ih hlt hbehind (nextBraces?_eq hlt hbehind)
    have hstop : byteLength (t.take (c + 1)) = byteLength (t.take c) + 1 :=
      byteLength_take_succ hclosing
    rw [scanBytesFrom?_of_some hbraces, cutHole?_eq hoc (getElem?_of_opening? ho) hclosing,
      Option.bind_some, ← hstop, hrest, Option.bind_some]

/-- **The spans of the holes of a template.**  Every cut of the scanner over bytes succeeds, at
positions that bound whole characters, and gives the holes.  Each of them takes up some of the
template, which reads there as the hole is written, and ends before the next one starts. -/
theorem spans_of_scan (t : Text) :
    scanBytes? t = some (scan t)
      ∧ (∀ hole ∈ scan t, hole.start < hole.stop ∧ hole.stop ≤ byteLength t
        ∧ byteSlice? t hole.start hole.stop = some ('{' :: (hole.name ++ hole.spec ++ ['}']))
        ∧ (∀ c ∈ hole.name, c ≠ ',' ∧ c ≠ ':') ∧ ∀ c ∈ hole.spec.head?, c = ',' ∨ c = ':')
      ∧ (scan t).Pairwise fun a b => a.start < b.start ∧ a.stop ≤ b.start := by
  refine ⟨?_, fun hole hmem => ?_, pairwise_scan t⟩
  · rw [← holesByRuns_zero]
    exact scanBytesFrom?_eq (Nat.zero_le _) (.inl rfl)
  · have hhole := isHoleOf_of_mem_scan hmem
    have hspan := hhole.span_bounds
    exact ⟨by omega, hspan.2, hhole.slice, hhole.name_undelimited, hhole.spec_delimited⟩

example : (scan "é\x7bñ:x\x7d").map (fun hole => (hole.start, hole.stop)) = [(2, 8)] := by decide

end LogCatalog.Template
