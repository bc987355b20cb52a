import LogCatalog.Proofs.Template.Spans

/-!
# Searching braces in bytes

The braces around a hole can be sought in the bytes of a template, without decoding them.  A brace
is a byte of its own there, and no other character has that byte.  So a search over bytes ends
where the runs of braces say, in front of a whole character.

* `findBrace`: the search, which counts braces and gives up a run of them that turns out even.
* `isOpening_findBrace`, `findBrace_closing`: what it finds.
-/

namespace LogCatalog.Template

open Text (byteLength)
open Text.Utf8 (encode encodeChar)

/-! ### The search -/

def byteOf (c : Char) : UInt8 := .ofNat c.toNat

/-- Goes on with the search for a brace at an index.  `run` braces stand right before the index, and
`found` is what the search gives if nothing follows. -/
def findBraceFrom (brace : Char) (size : Nat) : Nat → Nat → Nat → List UInt8 → Nat
  | _, _, found, [] => found
  | index, run, found, b :: rest =>
    if 0 < run ∧ b ≠ byteOf brace then
      if run % 2 = 0 then findBraceFrom brace size (index + 1) 0 size rest else found
    else if b = byteOf brace then
      -- an opening brace is the last one of its run, a closing brace the first one
      let found := if brace = '{' ∨ run = 0 then index else found
      findBraceFrom brace size (index + 1) (run + 1) found rest
    else findBraceFrom brace size (index + 1) run found rest

/-- The index of the next brace that opens or closes a hole, or the number of bytes. -/
def findBrace (brace : Char) (bytes : List UInt8) (start : Nat) : Nat :=
  findBraceFrom brace bytes.length start 0 bytes.length (bytes.drop start)

theorem le_findBraceFrom {brace : Char} {size least index run found : Nat} {bytes : List UInt8}
    (hsize : least ≤ size) (hindex : least ≤ index) (hfound : least ≤ found) :
    least ≤ findBraceFrom brace size index run found bytes := by
  induction bytes generalizing index run found with
  | nil => exact hfound
  | cons b rest ih =>
    rw [findBraceFrom]
    split
    · split
      · exact ih (Nat.le_succ_of_le hindex) hsize
      · exact hfound
    split
    · refine ih (Nat.le_succ_of_le hindex) ?_
      split
      · exact hindex
      · exact hfound
    · exact ih (Nat.le_succ_of_le hindex) hfound

theorem le_findBrace {brace : Char} {bytes : List UInt8} {start : Nat} (h : start ≤ bytes.length) :
    start ≤ findBrace brace bytes start := le_findBraceFrom h (Nat.le_refl _) h

/-! ### Bytes of characters -/

theorem toNat_byteOf {c : Char} (hc : c.toNat < 0x80) : (byteOf c).toNat = c.toNat :=
  Text.Utf8.toNat_ofNat_lt (by omega)

/-- The byte of a brace is the whole of that brace and no part of another character. -/
theorem byteOf_mem_encodeChar_iff {c d : Char} (hc : c.toNat < 0x80) :
    byteOf c ∈ encodeChar d ↔ d = c := by
  rw [Text.Utf8.mem_encodeChar_iff (by rw [toNat_byteOf hc]; exact hc), toNat_byteOf hc,
    Char.toNat_inj]

theorem byteOf_mem_encode_iff {c : Char} {t : Text} (hc : c.toNat < 0x80) :
    byteOf c ∈ encode t ↔ c ∈ t := by
  rw [encode, List.mem_flatMap]
  constructor
  · rintro ⟨d, hd, hbyte⟩
    rwa [← (byteOf_mem_encodeChar_iff hc).1 hbyte]
  · intro h
    exact ⟨c, h, (byteOf_mem_encodeChar_iff hc).2 rfl⟩

theorem encode_cons_of_lt {c : Char} (hc : c.toNat < 0x80) (t : Text) :
    encode (c :: t) = byteOf c :: encode t := by
  rw [Text.Utf8.encode_cons, Text.Utf8.encodeChar_of_lt hc]
  rfl

theorem encode_take_append_drop (t : Text) (k : Nat) :
    encode (t.take k) ++ encode (t.drop k) = encode t := by
  rw [← Text.Utf8.encode_append, List.take_append_drop]

theorem take_encode (t : Text) (k : Nat) :
    (encode t).take (byteLength (t.take k)) = encode (t.take k) := by
  rw [← encode_take_append_drop t k]
  exact List.take_left' (Text.Utf8.length_encode _)

theorem drop_encode (t : Text) (k : Nat) :
    (encode t).drop (byteLength (t.take k)) = encode (t.drop k) := by
  rw [← encode_take_append_drop t k]
  exact List.drop_left' (Text.Utf8.length_encode _)

/-! ### What one character does to the search -/

section Character

variable {brace c : Char} {size index run found : Nat}

theorem findBraceFrom_of_not_mem {piece : List UInt8} (h : byteOf brace ∉ piece)
    (rest : List UInt8) :
    findBraceFrom brace size index 0 found (piece ++ rest)
      = findBraceFrom brace size (index + piece.length) 0 found rest := by
  induction piece generalizing index with
  | nil => rfl
  | cons b more ih =>
    obtain ⟨hb, hmore⟩ := List.ne_and_not_mem_of_not_mem_cons h
    rw [List.cons_append, findBraceFrom, if_neg (fun hrun => Nat.lt_irrefl 0 hrun.1),
      if_neg hb.symm, ih hmore, List.length_cons, Nat.add_assoc, Nat.add_comm 1]

theorem findBraceFrom_brace (hbrace : brace.toNat < 0x80) (rest : Text) :
    findBraceFrom brace size index run found (encode (brace :: rest))
      = findBraceFrom brace size (index + brace.utf8Size) (run + 1)
          (if brace = '{' ∨ run = 0 then index else found) (encode rest) := by
  have hsize : brace.utf8Size = 1 := by
    rw [← Text.Utf8.length_encodeChar, Text.Utf8.encodeChar_of_lt hbrace, List.length_singleton]
  rw [encode_cons_of_lt hbrace, findBraceFrom, if_neg (fun h => h.2 rfl), if_pos rfl, hsize]

/-- Behind an even run of braces the search begins again. -/
theorem findBraceFrom_other (hbrace : brace.toNat < 0x80) (hc : c ≠ brace) (heven : run % 2 = 0)
    (hfound : run = 0 → found = size) (rest : Text) :
    findBraceFrom brace size index run found (encode (c :: rest))
      = findBraceFrom brace size (index + c.utf8Size) 0 size (encode rest) := by
  have hmem : byteOf brace ∉ encodeChar c := fun h => hc ((byteOf_mem_encodeChar_iff hbrace).1 h)
  rw [Text.Utf8.encode_cons, ← Text.Utf8.length_encodeChar]
  rcases Nat.eq_zero_or_pos run with rfl | hrun
  · rw [hfound rfl, findBraceFrom_of_not_mem hmem]
  · -- the first byte ends the run, the others are passed over
    obtain ⟨b, more, hbytes⟩ := List.exists_cons_of_ne_nil (Text.Utf8.encodeChar_ne_nil c)
    rw [hbytes] at hmem ⊢
    obtain ⟨hb, hmore⟩ := List.ne_and_not_mem_of_not_mem_cons hmem
    rw [List.cons_append, findBraceFrom, if_pos ⟨hrun, hb.symm⟩, if_pos heven,
      findBraceFrom_of_not_mem hmore, List.length_cons, Nat.add_assoc, Nat.add_comm 1]

/-- Behind an odd run of braces the search ends. -/
theorem findBraceFrom_other_of_odd (hbrace : brace.toNat < 0x80) (hc : c ≠ brace)
    (hodd : run % 2 = 1) (rest : Text) :
    findBraceFrom brace size index run found (encode (c :: rest)) = found := by
  have hmem : byteOf brace ∉ encodeChar c := fun h => hc ((byteOf_mem_encodeChar_iff hbrace).1 h)
  obtain ⟨b, more, hbytes⟩ := List.exists_cons_of_ne_nil (Text.Utf8.encodeChar_ne_nil c)
  rw [hbytes] at hmem
  obtain ⟨hb, -⟩ := List.ne_and_not_mem_of_not_mem_cons hmem
  rw [Text.Utf8.encode_cons, hbytes, List.cons_append, findBraceFrom, if_pos ⟨by omega, hb.symm⟩,
    if_neg (by omega)]

end Character

/-! ### Opening braces -/

variable {t : Text} {p o c s k : Nat}

/-- What the search for an opening brace ends with.  An even run at the end of a template is found
as well, but there is no hole behind it. -/
inductive IsOpening (t : Text) (p : Nat) : Nat → Prop
  | hole {o : Nat} : opening? t p = some o → IsOpening t p (byteLength (t.take o))
  | none : opening? t p = none → IsOpening t p (byteLength t)
  | atEnd {o : Nat} : opening? t p = none → t[o]? = some '{' → o + 1 = t.length →
      IsOpening t p (byteLength (t.take o))

theorem InText.isOpening {odd : Bool} (h : InText t p s k odd) (hk : k ≤ t.length) :
    IsOpening t p (findBraceFrom '{' (byteLength t) (byteLength (t.take k)) (k - s)
      (if k = s then byteLength t else byteLength (t.take (k - 1))) (encode (t.drop k))) := by
  induction hrest : t.drop k generalizing s k odd with
  | nil =>
    obtain rfl : k = t.length := Nat.le_antisymm hk (List.drop_eq_nil_iff.1 hrest)
    rw [Text.Utf8.encode_nil, findBraceFrom]
    have hle := h.le
    split
    · next hs =>
      cases odd with
      | false => exact .none h.opening?_atEnd
      | true =>
        obtain ⟨hlt, -⟩ := h.opens (getElem?_length_ne t '{')
        omega
    · next hs =>
      cases odd with
      | false => exact .atEnd h.opening?_atEnd (h.run _ (by omega) (by omega)) (by omega)
      | true => exact .hole (h.opens (getElem?_length_ne t '{')).2
  | cons ch rest ih =>
    obtain ⟨hlt, hch, hdrop⟩ := of_drop_eq_cons hrest
    have hle := h.le
    by_cases hopen : ch = '{'
    · subst hopen
      have hnext := ih (h.next_brace hch) hlt hdrop
      rw [if_neg (by omega), Nat.add_sub_cancel, Nat.succ_sub hle] at hnext
      rwa [findBraceFrom_brace (by decide), if_pos (.inl rfl), ← byteLength_take_succ hch]
    have hne : t[k]? ≠ some '{' := by rw [hch]; simpa using hopen
    have hparity := h.parity
    -- An even run opens nothing, and the search goes on behind it.
    cases odd with
    | false =>
      simp only [Bool.false_eq, decide_eq_false_iff_not] at hparity
      have hnext := ih (h.next_other hne) hlt hdrop
      rw [Nat.sub_self, if_pos rfl] at hnext
      rwa [findBraceFrom_other (by decide) hopen (by omega) (fun hrun => if_pos (by omega)),
        ← byteLength_take_succ hch]
    | true =>
      simp only [Bool.true_eq, decide_eq_true_eq] at hparity
      rw [findBraceFrom_other_of_odd (by decide) hopen hparity, if_neg (by omega)]
      exact .hole (h.opens hne).2

/-- **The search for an opening brace ends where the runs of braces say.** -/
theorem isOpening_findBrace (hp : p ≤ t.length) (hbefore : p = 0 ∨ t[p - 1]? ≠ some '{') :
    IsOpening t p (findBrace '{' (encode t) (byteLength (t.take p))) := by
  have hstart : InText t p p p false :=
    { p_le := Nat.le_refl p, le := Nat.le_refl p, run := fun i h1 h2 => by omega
      before := hbefore, parity := by simp, even := fun j h1 h2 => by omega }
  have hopening := hstart.isOpening hp
  rw [Nat.sub_self, if_pos rfl] at hopening
  rwa [findBrace, Text.Utf8.length_encode, drop_encode]

/-! ### Closing braces -/

theorem InHole.findBraceFrom_eq (h : InHole t o c k) (hk : k ≤ t.length) :
    findBraceFrom '}' (byteLength t) (byteLength (t.take k)) (k - c)
        (if k = c then byteLength t else byteLength (t.take c)) (encode (t.drop k))
      = (closing? t o).elim (byteLength t) fun c => byteLength (t.take c) := by
  induction hrest : t.drop k generalizing c k with
  | nil =>
    obtain rfl : k = t.length := Nat.le_antisymm hk (List.drop_eq_nil_iff.1 hrest)
    have hle := h.le
    rw [Text.Utf8.encode_nil, findBraceFrom]
    split
    · next hc =>
      rw [h.closing?_atEnd (Nat.le_of_eq hc)]
      rfl
    · next hc =>
      rw [h.closes (by omega) (getElem?_length_ne t '}') (.inr rfl)]
      rfl
  | cons ch rest ih =>
    obtain ⟨hlt, hch, hdrop⟩ := of_drop_eq_cons hrest
    have hle := h.le
    by_cases hclose : ch = '}'
    · subst hclose
      have hfound : (if '}' = '{' ∨ k - c = 0 then byteLength (t.take k)
          else if k = c then byteLength t else byteLength (t.take c)) = byteLength (t.take c) := by
        rcases Nat.eq_or_lt_of_le hle with rfl | hck
        · rw [if_pos (.inr (Nat.sub_self _))]
        · rw [if_neg (not_or.2 ⟨by decide, by omega⟩), if_neg (by omega)]
      have hnext := ih (h.next_brace hch) hlt hdrop
      rw [if_neg (by omega), Nat.succ_sub hle] at hnext
      rwa [findBraceFrom_brace (by decide), hfound, ← byteLength_take_succ hch]
    have hne : t[k]? ≠ some '}' := by rw [hch]; simpa using hclose
    -- A run with something behind it closes the hole if it is odd.
    by_cases hodd : (k - c) % 2 = 1
    · have hck : c < k := by omega
      rw [findBraceFrom_other_of_odd (by decide) hclose hodd, if_neg (by omega),
        h.closes hck hne (.inl hodd)]
      rfl
    · have hnext := ih (h.next_other hch hclose (by omega)) hlt hdrop
      rw [Nat.sub_self, if_pos rfl] at hnext
      rwa [findBraceFrom_other (by decide) hclose (by omega) (fun hrun => if_pos (by omega)),
        ← byteLength_take_succ hch]

/-- **The search for a closing brace ends where the runs of braces say.** -/
theorem findBrace_closing (ho : t[o]? = some '{') :
    findBrace '}' (encode t) (byteLength (t.take o))
      = (closing? t o).elim (byteLength t) fun c => byteLength (t.take c) := by
  obtain ⟨hlt, hbrace⟩ := List.getElem?_eq_some_iff.1 ho
  have hclosing := (InHole.start ho).findBraceFrom_eq hlt
  rw [Nat.sub_self, if_pos rfl, byteLength_take_succ ho] at hclosing
  rw [findBrace, Text.Utf8.length_encode, drop_encode, List.drop_eq_getElem_cons hlt, hbrace,
    findBraceFrom_other (by decide) (by decide) rfl fun _ => rfl, hclosing]

end LogCatalog.Template
