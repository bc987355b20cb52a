import LogCatalog.Locale.Configured
import LogCatalog.Proofs.Locale.Subtags

/-!
# How a list of tags is read

Tags are read in order, and the first one that names no locale ends the reading.  Only a list of
which every tag was read is searched for repetitions.  So a bad tag is reported even behind a
repetition.

* `Names`, `Refused`: what a cell names, or why it names nothing.
* `readTags_eq_ok_iff`, `readTags_eq_error_iff`: reading a list, cell by cell.
* `firstRepeat?_eq_some_iff`: which locale counts as repeated.
* `ofTags_outcome`: exactly when a list of tags ends in which way.
-/

namespace LogCatalog.Locales

/-- A cell names a locale: it is not blank, and it holds a tag of the locale. -/
def Names (cell : Text) (l : Locale) : Prop :=
  Text.trim cell ≠ [] ∧ Locale.ofTag (Text.trim cell) = .ok l

/-- Why a cell at a position names no locale. -/
inductive Refused (position : Nat) (cell : Text) : LocalesFault → Prop
  | blank (h : Text.trim cell = []) : Refused position cell (.blank position)
  | invalid {fault : TagFault} (hcell : Text.trim cell ≠ [])
      (h : Locale.ofTag (Text.trim cell) = .error fault) :
      Refused position cell (.invalid (Text.trim cell) fault)

section

variable {position : Nat} {cell : Text} {tags : List Text} {l : Locale} {list : List Locale}
  {fault : LocalesFault}

/-! ### One cell -/

theorem names_iff : Names cell l ↔ Locale.ofTag (Text.trim cell) = .ok l := by
  refine ⟨And.right, fun h => ⟨fun hblank => ?_, h⟩⟩
  rw [hblank] at h
  cases h

theorem names_or_refused (position : Nat) (cell : Text) :
    (∃ l, Names cell l) ∨ ∃ fault, Refused position cell fault := by
  by_cases hcell : Text.trim cell = []
  · exact .inr ⟨_, .blank hcell⟩
  · cases htag : Locale.ofTag (Text.trim cell) with
    | ok l => exact .inl ⟨l, hcell, htag⟩
    | error fault => exact .inr ⟨_, .invalid hcell htag⟩

theorem Refused.not_names (h : Refused position cell fault) : ¬ Names cell l := by
  rintro ⟨hne, htag⟩
  cases h with
  | blank hcell => exact hne hcell
  | invalid _ hfault =>
    rw [hfault] at htag
    cases htag

theorem Refused.unique {fault' : LocalesFault} (h : Refused position cell fault)
    (h' : Refused position cell fault') : fault = fault' := by
  cases h with
  | blank hcell =>
    cases h' with
    | blank => rfl
    | invalid hne _ => exact absurd hcell hne
  | invalid hne htag =>
    cases h' with
    | blank hcell => exact absurd hcell hne
    | invalid _ htag' =>
      rw [htag] at htag'
      cases htag'
      rfl

theorem readTags_of_names (h : Names cell l) (position : Nat) (rest : List Text) :
    readTags position (cell :: rest) = (readTags (position + 1) rest).map (l :: ·) := by
  rw [readTags]
  simp only [if_neg h.1, h.2]

theorem readTags_of_refused (h : Refused position cell fault) (rest : List Text) :
    readTags position (cell :: rest) = .error fault := by
  rw [readTags]
  cases h with
  | blank hcell => simp only [if_pos hcell]
  | invalid hcell htag => simp only [if_neg hcell, htag]

/-! ### All cells -/

/-- **A list of tags is read exactly if every tag names a locale.** -/
theorem readTags_eq_ok_iff : readTags position tags = .ok list ↔ List.Forall₂ Names tags list := by
  induction tags generalizing position list with
  | nil =>
    rw [readTags, List.forall₂_nil_left_iff, Except.ok.injEq]
    exact eq_comm
  | cons cell rest ih =>
    rw [List.forall₂_cons_left_iff]
    rcases names_or_refused position cell with ⟨l, hl⟩ | ⟨fault, hfault⟩
    · rw [readTags_of_names hl]
      constructor
      · intro h
        cases hrest : readTags (position + 1) rest with
        | error fault =>
          rw [hrest] at h
          cases h
        | ok more =>
          rw [hrest] at h
          cases h
          exact ⟨l, more, hl, ih.1 hrest, rfl⟩
      · rintro ⟨m, more, hm, hmore, rfl⟩
        obtain rfl : l = m := Except.ok.inj (hl.2.symm.trans hm.2)
        rw [ih.2 hmore]
        rfl
    · rw [readTags_of_refused hfault]
      constructor
      · intro h
        cases h
      · rintro ⟨l, -, hl, -⟩
        exact absurd hl hfault.not_names

/-- **The first tag that names no locale is the one that is reported.** -/
theorem readTags_eq_error_iff :
    readTags position tags = .error fault
      ↔ ∃ before cell after, tags = before ++ cell :: after ∧ (∀ t ∈ before, ∃ l, Names t l)
        ∧ Refused (position + before.length) cell fault := by
  induction tags generalizing position with
  | nil => simp [readTags]
  | cons cell rest ih =>
    rcases names_or_refused position cell with ⟨l, hl⟩ | ⟨fault', hfault'⟩
    · rw [readTags_of_names hl]
      constructor
      · intro h
        cases hrest : readTags (position + 1) rest with
        | ok more =>
          rw [hrest] at h
          cases h
        | error fault' =>
          rw [hrest] at h
          cases h
          obtain ⟨before, other, after, rfl, hbefore, hother⟩ := ih.1 hrest
          refine ⟨cell :: before, other, after, rfl, ?_, ?_⟩
          · exact List.forall_mem_cons.2 ⟨⟨l, hl⟩, hbefore⟩
          · rwa [List.length_cons, Nat.add_comm before.length, ← Nat.add_assoc]
      · rintro ⟨before, other, after, hsplit, hbefore, hother⟩
        cases before with
        | nil =>
          obtain ⟨rfl, rfl⟩ := List.cons.inj hsplit
          exact absurd hl hother.not_names
        | cons first before =>
          obtain ⟨rfl, rfl⟩ := List.cons.inj hsplit
          rw [List.length_cons, Nat.add_comm before.length, ← Nat.add_assoc] at hother
          rw [ih.2 ⟨before, other, after, rfl, (List.forall_mem_cons.1 hbefore).2, hother⟩]
          rfl
    · rw [readTags_of_refused hfault']
      constructor
      · intro h
        cases h
        exact ⟨[], cell, rest, rfl, by simp, hfault'⟩
      · rintro ⟨before, other, after, hsplit, hbefore, hother⟩
        cases before with
        | nil =>
          obtain ⟨rfl, rfl⟩ := List.cons.inj hsplit
          rw [hfault'.unique hother]
        | cons first before =>
          obtain ⟨rfl, rfl⟩ := List.cons.inj hsplit
          obtain ⟨l, hl⟩ := hbefore cell (List.mem_cons_self ..)
          exact absurd hl hfault'.not_names

/-! ### Repetitions -/

/-- **The repeated locale is the first one that equals an earlier one.** -/
theorem firstRepeat?_eq_some_iff {seen : List Locale} :
    firstRepeat? seen list = some l
      ↔ ∃ before after, list = before ++ l :: after ∧ before.Nodup ∧ (∀ m ∈ before, m ∉ seen)
        ∧ (l ∈ seen ∨ l ∈ before) := by
  induction list generalizing seen with
  | nil => simp [firstRepeat?]
  | cons first rest ih =>
    rw [firstRepeat?]
    split
    -- The first locale was seen before, so it is the repeated one.
    · next hseen =>
      constructor
      · intro h
        cases h
        exact ⟨[], rest, rfl, List.nodup_nil, by simp, .inl hseen⟩
      · rintro ⟨before, after, hsplit, -, hbefore, -⟩
        cases before with
        | nil =>
          obtain ⟨rfl, rfl⟩ := List.cons.inj hsplit
          rfl
        | cons other before =>
          obtain ⟨rfl, rfl⟩ := List.cons.inj hsplit
          exact absurd hseen (hbefore first (List.mem_cons_self ..))
    -- It was not, and from here on it counts as seen.
    · next hseen =>
      rw [ih]
      constructor
      · rintro ⟨before, after, rfl, hnodup, hbefore, hl⟩
        refine ⟨first :: before, after, rfl, ?_, ?_, ?_⟩
        · exact List.nodup_cons.2 ⟨fun h => hbefore first h (List.mem_cons_self ..), hnodup⟩
        · exact List.forall_mem_cons.2
            ⟨hseen, fun m hm hmem => hbefore m hm (List.mem_cons_of_mem _ hmem)⟩
        · rcases hl with hl | hl
          · rcases List.mem_cons.1 hl with rfl | hl
            · exact .inr (List.mem_cons_self ..)
            · exact .inl hl
          · exact .inr (List.mem_cons_of_mem _ hl)
      · rintro ⟨before, after, hsplit, hnodup, hbefore, hl⟩
        cases before with
        | nil =>
          obtain ⟨rfl, rfl⟩ := List.cons.inj hsplit
          exact absurd (hl.resolve_right (List.not_mem_nil)) hseen
        | cons other before =>
          obtain ⟨rfl, rfl⟩ := List.cons.inj hsplit
          obtain ⟨hfirst, hnodup⟩ := List.nodup_cons.1 hnodup
          refine ⟨before, after, rfl, hnodup, fun m hm hmem => ?_, ?_⟩
          · rcases List.mem_cons.1 hmem with rfl | hmem
            · exact hfirst hm
            · exact hbefore m (List.mem_cons_of_mem _ hm) hmem
          · rcases hl with hl | hl
            · exact .inl (List.mem_cons_of_mem _ hl)
            · rcases List.mem_cons.1 hl with rfl | hl
              · exact .inl (List.mem_cons_self ..)
              · exact .inr hl

theorem ofList_eq_error_iff :
    ofList list = .error fault ↔ ∃ l, firstRepeat? [] list = some l ∧ fault = .duplicate l := by
  rw [ofList]
  split
  · next l h =>
    constructor
    · intro heq
      cases heq
      exact ⟨l, h, rfl⟩
    · rintro ⟨m, hm, rfl⟩
      rw [Option.some.inj (h.symm.trans hm)]
  · next h =>
    constructor
    · intro heq
      cases heq
    · rintro ⟨l, hl, -⟩
      cases h.symm.trans hl

/-! ### The outcome -/

theorem ofTags_eq_ok_iff {ls : Locales} :
    ofTags tags = .ok ls ↔ List.Forall₂ Names tags ls.toList := by
  rw [ofTags]
  cases hread : readTags 0 tags with
  | ok list =>
    have hlist := readTags_eq_ok_iff.1 hread
    refine ofList_eq_ok_iff.trans ⟨fun h => h ▸ hlist, fun h => ?_⟩
    exact Except.ok.inj ((readTags_eq_ok_iff.2 h).symm.trans hread)
  | error fault =>
    constructor
    · intro h
      cases h
    · intro h
      rw [readTags_eq_ok_iff.2 h] at hread
      cases hread

theorem exists_names_of_mem {ls : Locales} (h : ofTags tags = .ok ls) (hl : l ∈ ls.toList) :
    ∃ cell ∈ tags, Names cell l :=
  exists_of_forall₂_of_mem (ofTags_eq_ok_iff.1 h) hl

theorem ofTags_eq_error_iff :
    ofTags tags = .error fault
      ↔ readTags 0 tags = .error fault
        ∨ ∃ list l, readTags 0 tags = .ok list ∧ firstRepeat? [] list = some l
          ∧ fault = .duplicate l := by
  rw [ofTags]
  cases hread : readTags 0 tags with
  | ok list =>
    refine ofList_eq_error_iff.trans ⟨fun ⟨l, hl, hfault⟩ => .inr ⟨list, l, rfl, hl, hfault⟩, ?_⟩
    rintro (h | ⟨_, l, h, hl, hfault⟩)
    · cases h
    · cases h
      exact ⟨l, hl, hfault⟩
  | error fault' =>
    constructor
    · intro h
      cases h
      exact .inl rfl
    · rintro (h | ⟨list, l, h, -⟩)
      · cases h
        rfl
      · cases h

/-- A tag is at fault exactly if it is the first one that names no locale. -/
theorem ofTags_eq_error_of_refused_iff (hfault : ∀ l, fault ≠ .duplicate l) :
    ofTags tags = .error fault
      ↔ ∃ before cell after, tags = before ++ cell :: after ∧ (∀ t ∈ before, ∃ l, Names t l)
        ∧ Refused before.length cell fault := by
  rw [ofTags_eq_error_iff, readTags_eq_error_iff]
  simp only [Nat.zero_add]
  refine or_iff_left ?_
  rintro ⟨list, l, -, -, hduplicate⟩
  exact hfault l hduplicate

theorem ofTags_eq_duplicate_iff :
    ofTags tags = .error (.duplicate l)
      ↔ ∃ before after, List.Forall₂ Names tags (before ++ l :: after) ∧ before.Nodup
        ∧ l ∈ before := by
  rw [ofTags_eq_error_iff]
  constructor
  · rintro (h | ⟨list, m, hread, hm, hl⟩)
    · obtain ⟨_, _, _, -, -, hrefused⟩ := readTags_eq_error_iff.1 h
      cases hrefused
    · cases hl
      obtain ⟨before, after, rfl, hnodup, -, hmem⟩ := firstRepeat?_eq_some_iff.1 hm
      exact ⟨before, after, readTags_eq_ok_iff.1 hread, hnodup,
        hmem.resolve_left (List.not_mem_nil)⟩
  · rintro ⟨before, after, hread, hnodup, hmem⟩
    refine .inr ⟨_, l, readTags_eq_ok_iff.2 hread, ?_, rfl⟩
    exact firstRepeat?_eq_some_iff.2 ⟨before, after, rfl, hnodup, by simp, .inr hmem⟩

theorem refused_blank_iff {position' : Nat} :
    Refused position cell (.blank position') ↔ position = position' ∧ Text.trim cell = [] := by
  constructor
  · rintro ⟨⟩
    exact ⟨rfl, ‹_›⟩
  · rintro ⟨rfl, h⟩
    exact .blank h

theorem refused_invalid_iff {tag : Text} {fault : TagFault} :
    Refused position cell (.invalid tag fault)
      ↔ Text.trim cell = tag ∧ tag ≠ [] ∧ Locale.ofTag tag = .error fault := by
  constructor
  · rintro ⟨⟩
    exact ⟨rfl, ‹_›, ‹_›⟩
  · rintro ⟨rfl, hne, h⟩
    exact .invalid hne h

end

/-- **How a list of tags ends.**  It is accepted exactly if every tag names a locale and no locale
repeats, and then it gives these locales in order.  The first tag that names none is reported, with
its position if it is blank and with its text otherwise, whatever repeats.  Only where every tag
names a locale, the first locale that equals an earlier one is reported. -/
theorem ofTags_outcome (tags : List Text) :
    (∀ list, (∃ ls, ofTags tags = .ok ls ∧ ls.toList = list)
        ↔ List.Forall₂ Names tags list ∧ list.Nodup)
      ∧ (∀ position, ofTags tags = .error (.blank position)
        ↔ ∃ before cell after, tags = before ++ cell :: after ∧ (∀ t ∈ before, ∃ l, Names t l)
          ∧ before.length = position ∧ Text.trim cell = [])
      ∧ (∀ tag fault, ofTags tags = .error (.invalid tag fault)
        ↔ ∃ before cell after, tags = before ++ cell :: after ∧ (∀ t ∈ before, ∃ l, Names t l)
          ∧ Text.trim cell = tag ∧ tag ≠ [] ∧ Locale.ofTag tag = .error fault)
      ∧ ∀ l, ofTags tags = .error (.duplicate l)
        ↔ ∃ before after, List.Forall₂ Names tags (before ++ l :: after) ∧ before.Nodup
          ∧ l ∈ before := by
  refine ⟨fun list => ?_, fun position => ?_, fun tag fault => ?_,
    fun l => ofTags_eq_duplicate_iff⟩
  · constructor
    · rintro ⟨ls, hls, rfl⟩
      exact ⟨ofTags_eq_ok_iff.1 hls, ls.nodup⟩
    · rintro ⟨hlist, hnodup⟩
      exact ⟨⟨list, hnodup⟩, ofTags_eq_ok_iff.2 hlist, rfl⟩
  · rw [ofTags_eq_error_of_refused_iff (by simp)]
    simp only [refused_blank_iff]
  · rw [ofTags_eq_error_of_refused_iff (by simp)]
    simp only [refused_invalid_iff]

/-- The bad tag is reported, not the repetition before it. -/
example : ofTags ["fr-FR", "FR_fr", " e-n "] = .error (.invalid "e-n" .language) := by rfl

end LogCatalog.Locales
