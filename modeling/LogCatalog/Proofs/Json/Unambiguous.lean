import LogCatalog.Json.Reading
import LogCatalog.Json.Value
import Mathlib.Data.List.TakeWhile

/-!
# JSON texts are unambiguous

The text of a value determines the value.  Values are told apart by their first character; strings
end with a quotation mark, which stands escaped within them; numbers end before the first character
that is no digit; and arrays and objects end where a line begins with a bracket in place of a comma
before it.  So nothing that follows a value can be taken for a part of it.

* `ReadsAs`, `readsAs_quote`: strings are read as they were before they were quoted.
* `Legible`: what something is written as shows what it is, whatever follows.
* `legible_render`: values are legible at every depth.
* `pretty_injective`: different values have different texts.
-/

namespace LogCatalog.Json

/-! ### Strings -/

/-- A text that follows an opening quotation mark is read as a string, and `rest` is left. -/
def ReadsAs (t s rest : Text) : Prop := ∃ h, readString t = .ok ⟨(s, rest), h⟩

theorem readNumber_controlDigits : ∀ n < 0x20,
    Text.readNumber 16 ['0', '0', Nat.digitChar (n / 16), Nat.digitChar (n % 16)] = some n := by
  decide

theorem readCodePoint_control {c : Char} (hc : c.toNat < 0x20) (u : Text) :
    ∃ h, readCodePoint ('0' :: '0' :: Nat.digitChar (c.toNat / 16)
        :: Nat.digitChar (c.toNat % 16) :: u) = .ok ⟨(c, u), h⟩ := by
  have hlow : isLowSurrogate c.toNat = false := by
    rw [isLowSurrogate, Bool.and_eq_false_iff]
    exact .inl (decide_eq_false (by omega))
  have hhigh : isHighSurrogate c.toNat = false := by
    rw [isHighSurrogate, Bool.and_eq_false_iff]
    exact .inl (decide_eq_false (by omega))
  have hread : readFourDigits ('0' :: '0' :: Nat.digitChar (c.toNat / 16)
      :: Nat.digitChar (c.toNat % 16) :: u)
      = .ok ⟨(c.toNat, u), by simp only [List.length_cons]; omega⟩ := by
    rw [readFourDigits, readNumber_controlDigits c.toNat hc]
  refine ⟨by simp only [List.length_cons]; omega, ?_⟩
  rw [readCodePoint, hread]
  show (if isLowSurrogate c.toNat = true then _ else
    if isHighSurrogate c.toNat = false then _ else _) = _
  rw [if_neg (Bool.eq_false_iff.1 hlow), if_pos hhigh]
  congr
  exact Char.ofNat_toNat c

theorem readEscape_control {c : Char} (hc : c.toNat < 0x20) (u : Text) :
    ∃ h, readEscape ('u' :: '0' :: '0' :: Nat.digitChar (c.toNat / 16)
        :: Nat.digitChar (c.toNat % 16) :: u) = .ok ⟨(c, u), h⟩ := by
  obtain ⟨h, hread⟩ := readCodePoint_control hc u
  refine ⟨by simp only [List.length_cons]; omega, ?_⟩
  rw [readEscape, hread]
  rfl

theorem readEscape_of_escaped? {e c : Char} (he : escaped? e = some c) (u : Text) :
    ∃ h, readEscape (e :: u) = .ok ⟨(c, u), h⟩ := by
  refine ⟨by simp, ?_⟩
  rw [readEscape]
  · rw [he]
  · rintro rfl
    cases he

theorem readsAs_end (rest : Text) : ReadsAs ('"' :: rest) [] rest :=
  ⟨by simp, by rw [readString]⟩

theorem ReadsAs.escape {t u s rest : Text} {c : Char} (h : ReadsAs u s rest)
    (hescape : ∃ h', readEscape t = .ok ⟨(c, u), h'⟩) :
    ReadsAs ('\\' :: t) (c :: s) rest := by
  obtain ⟨hlength, hread⟩ := h
  obtain ⟨hlength', hescape⟩ := hescape
  refine ⟨by simp only [List.length_cons] at hlength hlength' ⊢; omega, ?_⟩
  rw [readString, hescape]
  dsimp only [bind, Except.bind]
  rw [hread]

theorem ReadsAs.plain {u s rest : Text} {c : Char} (h : ReadsAs u s rest) (hquote : c ≠ '"')
    (hbackslash : c ≠ '\\') (hplain : ¬ c.toNat < 0x20) : ReadsAs (c :: u) (c :: s) rest := by
  obtain ⟨hlength, hread⟩ := h
  refine ⟨by simp only [List.length_cons] at hlength ⊢; omega, ?_⟩
  rw [readString]
  · rw [if_neg hplain, hread]
    rfl
  · exact hquote
  · exact hbackslash

/-- **A character of a string is read as it was before it was escaped.**  The cases are those of
`escapeChar`. -/
theorem ReadsAs.escapeChar {u s rest : Text} (h : ReadsAs u s rest) (c : Char) :
    ReadsAs (escapeChar c ++ u) (c :: s) rest := by
  rw [Json.escapeChar]
  split
  · next hc => subst hc; exact h.escape (readEscape_of_escaped? rfl u)
  split
  · next hc => subst hc; exact h.escape (readEscape_of_escaped? rfl u)
  split
  · next hc => subst hc; exact h.escape (readEscape_of_escaped? rfl u)
  split
  · next hc => subst hc; exact h.escape (readEscape_of_escaped? rfl u)
  split
  · next hc => subst hc; exact h.escape (readEscape_of_escaped? rfl u)
  split
  · next hc => subst hc; exact h.escape (readEscape_of_escaped? rfl u)
  split
  · next hc => subst hc; exact h.escape (readEscape_of_escaped? rfl u)
  split
  · next hcontrol => exact h.escape (readEscape_control hcontrol u)
  · next hquote hbackslash _ _ _ _ _ hplain => exact h.plain hquote hbackslash hplain

/-- **Strings are read as they were before they were quoted.** -/
theorem readsAs_quote (t rest : Text) :
    ReadsAs (t.flatMap escapeChar ++ '"' :: rest) t rest := by
  induction t with
  | nil => exact readsAs_end rest
  | cons c t ih =>
    rw [List.flatMap_cons, List.append_assoc]
    exact ih.escapeChar c

theorem quote_append (t rest : Text) :
    quote t ++ rest = '"' :: (t.flatMap escapeChar ++ '"' :: rest) := by
  rw [quote, List.cons_append, List.cons_append, List.append_assoc, List.singleton_append]

theorem ReadsAs.unique {u a b s t : Text} (ha : ReadsAs u a s) (hb : ReadsAs u b t) :
    a = b ∧ s = t := by
  obtain ⟨_, ha⟩ := ha
  obtain ⟨_, hb⟩ := hb
  exact Prod.mk.inj (congrArg Subtype.val (Except.ok.inj (ha.symm.trans hb)))

theorem quote_append_inj {a b s t : Text} (h : quote a ++ s = quote b ++ t) : a = b ∧ s = t := by
  rw [quote_append, quote_append] at h
  have ha := readsAs_quote a s
  rw [List.tail_eq_of_cons_eq h] at ha
  exact ha.unique (readsAs_quote b t)

/-! ### Numbers -/

/-- A text that cannot go on with a number before it. -/
def NoDigitFirst (t : Text) : Prop := ∀ c ∈ t.head?, c.isDigit = false

theorem noDigitFirst_nil : NoDigitFirst [] := fun _ h => nomatch h

theorem noDigitFirst_cons {c : Char} (h : c.isDigit = false) (t : Text) : NoDigitFirst (c :: t) :=
  fun _ hc => Option.some.inj hc ▸ h

theorem isDigit_of_mem_ofNat {n : Nat} {c : Char} (h : c ∈ Text.ofNat n) : c.isDigit = true :=
  Nat.isDigit_of_mem_toDigits (by decide) (by decide) h

theorem takeWhile_isDigit_ofNat (n : Nat) {t : Text} (h : NoDigitFirst t) :
    (Text.ofNat n ++ t).takeWhile Char.isDigit = Text.ofNat n := by
  rw [List.takeWhile_append_of_pos fun c hc => isDigit_of_mem_ofNat hc]
  cases t with
  | nil => exact List.append_nil _
  | cons c rest =>
    rw [List.takeWhile_cons_of_neg (Bool.eq_false_iff.1 (h c rfl)), List.append_nil]

theorem ofNat_append_inj {m n : Nat} {s t : Text} (hs : NoDigitFirst s) (ht : NoDigitFirst t)
    (h : Text.ofNat m ++ s = Text.ofNat n ++ t) : m = n ∧ s = t := by
  have hdigits : Text.ofNat m = Text.ofNat n := by
    rw [← takeWhile_isDigit_ofNat m hs, h, takeWhile_isDigit_ofNat n ht]
  rw [hdigits] at h
  refine ⟨?_, List.append_cancel_left h⟩
  rw [← Nat.ofDigitChars_toDigits (n := m) (by decide) (Nat.le_refl 10),
    ← Nat.ofDigitChars_toDigits (n := n) (by decide) (Nat.le_refl 10)]
  exact congrArg (Nat.ofDigitChars 10 · 0) hdigits

/-! ### Blocks -/

/-- What something is written as shows what it is, whatever follows, unless this goes on with a
number. -/
def Legible {α : Type} (write : α → Text) (a : α) : Prop :=
  ∀ b s t, NoDigitFirst s → NoDigitFirst t → write a ++ s = write b ++ t → a = b ∧ s = t

def blockTail (depth : Nat) (closing : Char) : List Text → Text
  | [] => newLine depth ++ [closing]
  | entry :: rest => ',' :: (newLine (depth + 1) ++ (entry ++ blockTail depth closing rest))

theorem block_cons (depth : Nat) (opening closing : Char) (entry : Text) (rest : List Text) :
    block depth opening closing (entry :: rest)
      = opening :: (newLine (depth + 1) ++ (entry ++ blockTail depth closing rest)) := by
  have htail : ∀ entry : Text,
      [','].intercalate ((entry :: rest).map (newLine (depth + 1) ++ ·))
          ++ (newLine depth ++ [closing])
        = newLine (depth + 1) ++ (entry ++ blockTail depth closing rest) := by
    induction rest with
    | nil => intro entry; simp [blockTail, List.intercalate]
    | cons next rest ih =>
      intro entry
      rw [List.map_cons, List.map_cons, List.intercalate_cons_cons, ← List.map_cons,
        List.append_assoc, List.append_assoc, ih next, blockTail]
      simp
  rw [block, List.cons_append, List.cons_append, List.append_assoc, htail entry]
  simp

theorem noDigitFirst_blockTail (depth : Nat) (closing : Char) (entries : List Text) (t : Text) :
    NoDigitFirst (blockTail depth closing entries ++ t) := by
  cases entries with
  | nil => exact noDigitFirst_cons rfl _
  | cons entry rest => exact noDigitFirst_cons rfl _

section

variable {α : Type} {write : α → Text} {depth : Nat} {opening closing : Char} {items : List α}

theorem blockTail_append_inj (h : ∀ a ∈ items, Legible write a) {others : List α} {s t : Text}
    (heq : blockTail depth closing (items.map write) ++ s
      = blockTail depth closing (others.map write) ++ t) : items = others ∧ s = t := by
  induction items generalizing others with
  | nil =>
    cases others with
    | nil => exact ⟨rfl, List.append_cancel_left heq⟩
    | cons b more => cases heq
  | cons a rest ih =>
    cases others with
    | nil => cases heq
    | cons b more =>
      rw [List.map_cons, List.map_cons, blockTail, blockTail] at heq
      simp only [List.cons_append, List.append_assoc] at heq
      have hentry := List.append_cancel_left (List.tail_eq_of_cons_eq heq)
      obtain ⟨rfl, hrest⟩ := h a (List.mem_cons_self ..) b _ _
        (noDigitFirst_blockTail _ _ _ _) (noDigitFirst_blockTail _ _ _ _) hentry
      obtain ⟨rfl, rfl⟩ := ih (fun c hc => h c (List.mem_cons_of_mem _ hc)) hrest
      exact ⟨rfl, rfl⟩

/-- **Blocks of legible entries are legible.** -/
theorem block_append_inj (h : ∀ a ∈ items, Legible write a) (hclosing : closing ≠ '\n')
    {others : List α} {s t : Text}
    (heq : block depth opening closing (items.map write) ++ s
      = block depth opening closing (others.map write) ++ t) : items = others ∧ s = t := by
  cases items with
  | nil =>
    cases others with
    | nil => exact ⟨rfl, List.append_cancel_left heq⟩
    | cons b more =>
      rw [List.map_cons, block_cons] at heq
      exact absurd (List.head_eq_of_cons_eq (List.tail_eq_of_cons_eq heq)) hclosing
  | cons a rest =>
    cases others with
    | nil =>
      rw [List.map_cons, block_cons] at heq
      exact absurd (List.head_eq_of_cons_eq (List.tail_eq_of_cons_eq heq)).symm hclosing
    | cons b more =>
      rw [List.map_cons, List.map_cons, block_cons, block_cons] at heq
      have hentries : blockTail depth closing ((a :: rest).map write) ++ s
          = blockTail depth closing ((b :: more).map write) ++ t :=
        congrArg (',' :: ·) (List.tail_eq_of_cons_eq heq)
      exact blockTail_append_inj h hentries

end

/-! ### Values -/

inductive Kind where
  | null | bool | number | string | array | object

def Value.kind : Value → Kind
  | .null => .null
  | .bool _ => .bool
  | .number _ => .number
  | .string _ => .string
  | .array _ => .array
  | .object _ => .object

def Kind.ofFirst : Char → Kind
  | 'n' => .null
  | 't' | 'f' => .bool
  | '"' => .string
  | '[' => .array
  | '\x7b' => .object
  | _ => .number

theorem Kind.ofFirst_of_isDigit {c : Char} (h : c.isDigit = true) : ofFirst c = .number := by
  unfold ofFirst
  split <;> first | rfl | cases h

theorem exists_block_eq (depth : Nat) (opening closing : Char) (entries : List Text) :
    ∃ rest, block depth opening closing entries = opening :: rest := by
  cases entries with
  | nil => exact ⟨_, rfl⟩
  | cons entry rest => exact ⟨_, block_cons ..⟩

/-- The first character of a value shows its kind. -/
theorem exists_render_eq (depth : Nat) (v : Value) :
    ∃ c rest, render depth v = c :: rest ∧ Kind.ofFirst c = v.kind := by
  cases v with
  | null => exact ⟨_, _, rfl, rfl⟩
  | bool b => cases b <;> exact ⟨_, _, rfl, rfl⟩
  | number n =>
    rw [render]
    cases hdigits : Text.ofNat n with
    | nil => exact absurd hdigits Nat.toDigits_ne_nil
    | cons c rest =>
      refine ⟨c, rest, rfl, Kind.ofFirst_of_isDigit ?_⟩
      exact isDigit_of_mem_ofNat (hdigits ▸ List.mem_cons_self ..)
  | string t => exact ⟨_, _, rfl, rfl⟩
  | array items =>
    rw [render]
    obtain ⟨rest, hrest⟩ := exists_block_eq depth '[' ']' (renderItems (depth + 1) items)
    exact ⟨_, rest, hrest, rfl⟩
  | object fields =>
    rw [render]
    obtain ⟨rest, hrest⟩ :=
      exists_block_eq depth '\x7b' '\x7d' (renderFields (depth + 1) fields)
    exact ⟨_, rest, hrest, rfl⟩

theorem kind_eq_of_render_append_eq {depth : Nat} {v w : Value} {s t : Text}
    (h : render depth v ++ s = render depth w ++ t) : v.kind = w.kind := by
  obtain ⟨c, rest, hv, hc⟩ := exists_render_eq depth v
  obtain ⟨d, more, hw, hd⟩ := exists_render_eq depth w
  rw [hv, hw] at h
  rw [← hc, ← hd, List.head_eq_of_cons_eq h]

def renderField (depth : Nat) (field : Text × Value) : Text :=
  quote field.1 ++ ": " ++ render depth field.2

theorem renderItems_eq_map (depth : Nat) (items : List Value) :
    renderItems depth items = items.map (render depth) := by
  induction items with
  | nil => rfl
  | cons item rest ih => rw [renderItems, ih, List.map_cons]

theorem renderFields_eq_map (depth : Nat) (fields : List (Text × Value)) :
    renderFields depth fields = fields.map (renderField depth) := by
  induction fields with
  | nil => rfl
  | cons field rest ih =>
    rw [renderFields, ih]
    rfl

theorem legible_renderField {depth : Nat} {field : Text × Value}
    (h : Legible (render depth) field.2) : Legible (renderField depth) field := by
  obtain ⟨name, value⟩ := field
  rintro ⟨name', value'⟩ s t hs ht heq
  simp only [renderField, List.append_assoc] at heq
  obtain ⟨rfl, hvalue⟩ := quote_append_inj heq
  obtain ⟨rfl, rfl⟩ := h value' s t hs ht (List.append_cancel_left hvalue)
  exact ⟨rfl, rfl⟩

@[elab_as_elim]
theorem Value.induction {P : Value → Prop} (null : P .null) (bool : ∀ b, P (.bool b))
    (number : ∀ n, P (.number n)) (string : ∀ t, P (.string t))
    (array : ∀ items, (∀ item ∈ items, P item) → P (.array items))
    (object : ∀ fields, (∀ field ∈ fields, P field.2) → P (.object fields)) : ∀ v, P v
  | .null => null
  | .bool b => bool b
  | .number n => number n
  | .string t => string t
  | .array items =>
    array items fun item _ => Value.induction null bool number string array object item
  | .object fields =>
    object fields fun field _ => Value.induction null bool number string array object field.2
  termination_by v => v
  decreasing_by
    · decreasing_tactic
    · have hsize := List.sizeOf_lt_of_mem ‹field ∈ fields›
      obtain ⟨name, value⟩ := field
      simp only [Prod.mk.sizeOf_spec, Value.object.sizeOf_spec] at hsize ⊢
      omega

/-- **Values are legible**, the entries of a block one level deeper than the block. -/
theorem legible_render (depth : Nat) (v : Value) : Legible (render depth) v := by
  induction v using Value.induction generalizing depth with
  | null =>
    intro w s t hs ht h
    match w, kind_eq_of_render_append_eq h with
    | .null, _ => exact ⟨rfl, List.append_cancel_left h⟩
  | bool b =>
    intro w s t hs ht h
    match b, w, kind_eq_of_render_append_eq h with
    | true, .bool true, _ | false, .bool false, _ => exact ⟨rfl, List.append_cancel_left h⟩
    | true, .bool false, _ | false, .bool true, _ => cases h
  | number m =>
    intro w s t hs ht h
    match w, kind_eq_of_render_append_eq h with
    | .number n, _ =>
      obtain ⟨rfl, rfl⟩ := ofNat_append_inj hs ht h
      exact ⟨rfl, rfl⟩
  | string a =>
    intro w s t hs ht h
    match w, kind_eq_of_render_append_eq h with
    | .string b, _ =>
      obtain ⟨rfl, rfl⟩ := quote_append_inj h
      exact ⟨rfl, rfl⟩
  | array items ih =>
    intro w s t hs ht h
    match w, kind_eq_of_render_append_eq h with
    | .array others, _ =>
      rw [render, render, renderItems_eq_map, renderItems_eq_map] at h
      obtain ⟨rfl, rfl⟩ := block_append_inj (fun item hitem => ih item hitem (depth + 1))
        (by decide) h
      exact ⟨rfl, rfl⟩
  | object fields ih =>
    intro w s t hs ht h
    match w, kind_eq_of_render_append_eq h with
    | .object others, _ =>
      rw [render, render, renderFields_eq_map, renderFields_eq_map] at h
      obtain ⟨rfl, rfl⟩ := block_append_inj
        (fun field hfield => legible_renderField (ih field hfield (depth + 1))) (by decide) h
      exact ⟨rfl, rfl⟩

/-- **Different values have different texts.** -/
theorem pretty_injective : Function.Injective pretty := by
  intro v w h
  refine (legible_render 0 v w [] [] noDigitFirst_nil noDigitFirst_nil ?_).1
  rw [List.append_nil, List.append_nil]
  exact h

end LogCatalog.Json
