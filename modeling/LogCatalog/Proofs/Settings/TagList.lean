import LogCatalog.Proofs.Locale.Configured
import LogCatalog.Proofs.Text.Trimming
import LogCatalog.Settings

/-!
# Lists of tags

Commas cut a list into items.  An item is blank and names nothing, or it holds one tag with blanks
around it, so the tags of a list are found item by item, in the order of the list.

* `IsListTag`: the tags that a list can hold.
* `Item`, `joined`, `tagsIn`: what stands between commas, the list of such items, and its tags.
* `ofTagList_append_comma`: two lists with a comma between them hold the tags of both.
* `ofTagList_joined`, `exists_joined_eq`: the tags that were written are read, and every text is
  such a list.
* `localeSet_ofTagList_eq_error`: why the locales of a list are refused.
* `tags_of_list`: what every list holds, however it is written.
-/

namespace LogCatalog.Settings

open Text (isBlank)

variable {tag piece list : Text}

/-! ### Written lists -/

/-- A tag that a list can hold: not empty, without a comma, and with no blank at an end. -/
structure IsListTag (tag : Text) : Prop where
  ne_nil : tag ≠ []
  comma_not_mem : ',' ∉ tag
  head_not_blank : ∀ c ∈ tag.head?, isBlank c = false
  last_not_blank : ∀ c ∈ tag.getLast?, isBlank c = false

/-- What stands between two commas of a list: blanks only, or a tag with blanks around it. -/
inductive Item
  | gap (blanks : Text) (blank : ∀ c ∈ blanks, isBlank c = true)
  | entry (before tag after : Text) (before_blank : ∀ c ∈ before, isBlank c = true)
      (isListTag : IsListTag tag) (after_blank : ∀ c ∈ after, isBlank c = true)

namespace Item

def text : Item → Text
  | gap blanks _ => blanks
  | entry before tag after _ _ _ => before ++ tag ++ after

def tag? : Item → Option Text
  | gap _ _ => none
  | entry _ tag _ _ _ _ => some tag

end Item

def joined (items : List Item) : Text := [','].intercalate (items.map Item.text)

def tagsIn (items : List Item) : List Text := items.filterMap Item.tag?

theorem joined_singleton (i : Item) : joined [i] = i.text := List.intercalate_singleton

theorem joined_cons {items : List Item} (h : items ≠ []) (i : Item) :
    joined (i :: items) = i.text ++ ',' :: joined items := by
  obtain ⟨next, more, rfl⟩ := List.exists_cons_of_ne_nil h
  unfold joined
  rw [List.map_cons, List.map_cons, List.intercalate_cons_cons, List.append_assoc]
  rfl

theorem tagsIn_cons (i : Item) (items : List Item) :
    tagsIn (i :: items) = i.tag?.toList ++ tagsIn items := by
  unfold tagsIn
  cases h : i.tag? with
  | none => rw [List.filterMap_cons_none h]; rfl
  | some tag => rw [List.filterMap_cons_some h]; rfl

/-! ### One item -/

theorem comma_not_mem_of_blank {blanks : Text} (h : ∀ c ∈ blanks, isBlank c = true) :
    ',' ∉ blanks := by
  intro hmem
  exact absurd (h ',' hmem) (by decide)

theorem IsListTag.trim_eq (h : IsListTag tag) : Text.trim tag = tag :=
  Text.strip_eq_self_of_ends h.head_not_blank h.last_not_blank

/-- What is left of a piece between commas is a tag. -/
theorem isListTag_trim (hcomma : ',' ∉ piece) (hblank : Text.trim piece ≠ []) :
    IsListTag (Text.trim piece) := by
  obtain ⟨before, after, hpiece, -, -⟩ := Text.exists_eq_padded_strip isBlank piece
  refine ⟨hblank, ?_, fun c hc => Text.head?_strip hc, fun c hc => Text.getLast?_strip hc⟩
  intro hmem
  apply hcomma
  rw [hpiece]
  exact List.mem_append_left _ (List.mem_append_right _ hmem)

namespace Item

theorem comma_not_mem_text (i : Item) : ',' ∉ i.text := by
  cases i with
  | gap blanks blank => exact comma_not_mem_of_blank blank
  | entry before tag after before_blank isListTag after_blank =>
    intro hmem
    rcases List.mem_append.1 hmem with hmem | hmem
    · rcases List.mem_append.1 hmem with hmem | hmem
      · exact comma_not_mem_of_blank before_blank hmem
      · exact isListTag.comma_not_mem hmem
    · exact comma_not_mem_of_blank after_blank hmem

theorem isListTag_of_tag? {i : Item} (h : i.tag? = some tag) : IsListTag tag := by
  cases i with
  | gap blanks blank => cases h
  | entry before other after before_blank isListTag after_blank =>
    cases h
    exact isListTag

theorem exists_text_eq (h : ',' ∉ piece) : ∃ i : Item, i.text = piece := by
  by_cases hblank : Text.trim piece = []
  · exact ⟨gap piece (Text.trim_eq_nil_iff.1 hblank), rfl⟩
  · obtain ⟨before, after, hpiece, hbefore, hafter⟩ := Text.exists_eq_padded_strip isBlank piece
    exact ⟨entry before _ after hbefore (isListTag_trim h hblank) hafter, hpiece.symm⟩

end Item

/-! ### Reading a list -/

/-- **Two lists with a comma between them hold the tags of both.** -/
theorem ofTagList_append_comma (s t : Text) :
    (ofTagList (s ++ ',' :: t)).locales = (ofTagList s).locales ++ (ofTagList t).locales := by
  show List.filter _ (((s ++ ',' :: t).splitOn ',').map Text.trim) = _
  rw [List.splitOn_append_cons_self, List.map_append, List.filter_append]
  rfl

theorem ofTagList_of_not_mem (h : ',' ∉ piece) :
    (ofTagList piece).locales = if Text.trim piece = [] then [] else [Text.trim piece] := by
  unfold ofTagList
  rw [List.splitOn_eq_singleton h]
  by_cases hblank : Text.trim piece = []
  · simp [hblank]
  · simp [hblank]

theorem ofTagList_text (i : Item) : (ofTagList i.text).locales = i.tag?.toList := by
  rw [ofTagList_of_not_mem i.comma_not_mem_text]
  cases i with
  | gap blanks blank => exact if_pos (Text.trim_eq_nil_iff.2 blank)
  | entry before tag after before_blank isListTag after_blank =>
    have htrim : Text.trim (before ++ tag ++ after) = tag := by
      unfold Text.trim
      rw [Text.strip_padded before_blank after_blank]
      exact isListTag.trim_eq
    unfold Item.text
    rw [htrim, if_neg isListTag.ne_nil]
    rfl

/-- **The tags that were written are read.** -/
theorem ofTagList_joined (items : List Item) :
    (ofTagList (joined items)).locales = tagsIn items := by
  induction items with
  | nil => rfl
  | cons i rest ih =>
    rw [tagsIn_cons]
    by_cases hrest : rest = []
    · subst hrest
      rw [joined_singleton, ofTagList_text]
      exact (List.append_nil _).symm
    · rw [joined_cons hrest, ofTagList_append_comma, ofTagList_text, ih]

/-- **Every text is a list of items.** -/
theorem exists_joined_eq (list : Text) : ∃ items, items ≠ [] ∧ joined items = list := by
  induction list using Text.piece_induction ',' with
  | last piece hcomma =>
    obtain ⟨i, rfl⟩ := Item.exists_text_eq hcomma
    exact ⟨[i], List.cons_ne_nil _ _, joined_singleton i⟩
  | next piece rest hcomma ih =>
    obtain ⟨i, rfl⟩ := Item.exists_text_eq hcomma
    obtain ⟨items, hne, rfl⟩ := ih
    exact ⟨i :: items, List.cons_ne_nil _ _, joined_cons hne i⟩

theorem isListTag_of_mem (h : tag ∈ (ofTagList list).locales) : IsListTag tag := by
  obtain ⟨items, -, rfl⟩ := exists_joined_eq list
  rw [ofTagList_joined] at h
  obtain ⟨i, -, hi⟩ := List.mem_filterMap.1 h
  exact Item.isListTag_of_tag? hi

/-! ### The locales of a list -/

variable {fault : LocalesFault}

/-- **A tag of a list is judged as it stands.**  It is trimmed once more before it is read, but the
blanks that are taken off there are those that were taken off the items of the list. -/
theorem exists_invalid_of_refused {position : Nat} (h : tag ∈ (ofTagList list).locales)
    (hrefused : Locales.Refused position tag fault) :
    ∃ tagFault, fault = .invalid tag tagFault ∧ Locale.ofTag tag = .error tagFault := by
  have htag : IsListTag tag := isListTag_of_mem h
  cases hrefused with
  | blank hblank => exact absurd (htag.trim_eq.symm.trans hblank) htag.ne_nil
  | invalid _ hfault =>
    rw [htag.trim_eq] at hfault ⊢
    exact ⟨_, rfl, hfault⟩

/-- Where the locales of a list are refused, the fault is a tag of the list that names no locale, or
a repeated locale. -/
theorem localeSet_ofTagList_eq_error (h : (ofTagList list).localeSet = .error fault) :
    (∃ tag ∈ (ofTagList list).locales, ∃ tagFault, fault = .invalid tag tagFault
        ∧ Locale.ofTag tag = .error tagFault)
      ∨ ∃ l, fault = .duplicate l := by
  rcases Locales.ofTags_eq_error_iff.1 h with hread | ⟨_, l, -, -, hl⟩
  · obtain ⟨before, tag, after, htags, -, hrefused⟩ := Locales.readTags_eq_error_iff.1 hread
    have hmem : tag ∈ (ofTagList list).locales := by
      rw [htags]
      exact List.mem_append_right _ List.mem_cons_self
    exact .inl ⟨tag, hmem, exists_invalid_of_refused hmem hrefused⟩
  · exact .inr ⟨l, hl⟩

theorem localeSet_ofTagList_ne_blank (list : Text) (position : Nat) :
    (ofTagList list).localeSet ≠ .error (.blank position) := by
  intro h
  rcases localeSet_ofTagList_eq_error h with ⟨tag, -, tagFault, hfault, -⟩ | ⟨l, hl⟩
  · cases hfault
  · cases hl

/-- **The tags of a list.**  No tag that is read is empty, holds a comma or has a blank at an end.
The tags come in the order of the list, in which nothing else stands but blanks and commas.  A list
in which tags are joined by commas, with any blanks around them and any blank items among them, is
read as these tags.  And the locales of a list are never refused for a blank tag. -/
theorem tags_of_list (list : Text) :
    (∀ tag ∈ (ofTagList list).locales, IsListTag tag)
      ∧ (∃ items, joined items = list ∧ (ofTagList list).locales = tagsIn items)
      ∧ (∀ items, (ofTagList (joined items)).locales = tagsIn items)
      ∧ ∀ position, (ofTagList list).localeSet ≠ .error (.blank position) := by
  refine ⟨fun tag htag => isListTag_of_mem htag, ?_, ofTagList_joined,
    localeSet_ofTagList_ne_blank list⟩
  obtain ⟨items, -, hitems⟩ := exists_joined_eq list
  refine ⟨items, hitems, ?_⟩
  rw [← hitems]
  exact ofTagList_joined items

/-- Blank items are passed over, at the end of the list too. -/
example : (ofTagList " fr-FR,\u3000, ja,").locales = ["fr-FR".toList, "ja".toList] := by rfl

end LogCatalog.Settings
