import LogCatalog.Proofs.Text.Trimming
import LogCatalog.ValueType

/-!
# Types by their words

The names and the aliases of the known types share some words, but no word stands for two types.
So a type that a cell names is the type that its label names, and no word that is passed on spells a
name or an alias.

* `ValueType.lookup_of_mem_words`: no entry of the two tables hides a different one.
* `ValueType.ofWord_cases`: a word stands in a table, or it is passed on.
* `ValueType.ofWord_label_ofWord`: a type that a word names is named by its label.
* `ValueType.ofCell?_stable`: the same for cells, with what the case of letters does.
-/

namespace LogCatalog.ValueType

/-! ### Words -/

theorem mem_known_of_mem_words {word : Text} {type : ValueType} (h : (word, type) ∈ words) :
    type ∈ known := by
  have hall : ∀ entry ∈ words, entry.2 ∈ known := by decide
  exact hall _ h

/-- **No word stands for two types**: an alias that is also a name stands for the type of that
name. -/
theorem lookup_of_mem_words {word : Text} {type : ValueType} (h : (word, type) ∈ words) :
    words.lookup word = some type := by
  have hall : ∀ entry ∈ words, words.lookup entry.1 = some entry.2 := by decide
  exact hall _ h

theorem ofWord_of_mem_words {word : Text} {type : ValueType}
    (h : (asciiLower word, type) ∈ words) : ofWord word = type := by
  rw [ofWord, lookup_of_mem_words h, Option.getD_some]

/-- A word stands in a table, in some case of its letters, or it is passed on. -/
theorem ofWord_cases (word : Text) :
    (asciiLower word, ofWord word) ∈ words
      ∨ ofWord word = other word ∧ ∀ entry ∈ words, asciiLower word ≠ entry.1 := by
  cases hknown : words.lookup (asciiLower word) with
  | none =>
    refine .inr ⟨by rw [ofWord, hknown, Option.getD_none], fun entry hentry heq => ?_⟩
    rw [heq, lookup_of_mem_words hentry] at hknown
    cases hknown
  | some type =>
    obtain ⟨before, after, hsplit, -⟩ := List.lookup_eq_some_iff.1 hknown
    have hmem : (asciiLower word, type) ∈ words := by
      rw [hsplit]
      exact List.mem_append_right _ (List.mem_cons_self ..)
    rw [ofWord_of_mem_words hmem]
    exact .inl hmem

theorem ofWord_label {type : ValueType} (h : type ∈ known) : ofWord type.label = type :=
  ofWord_of_mem_words (List.mem_append_left _ (List.mem_map.2 ⟨type, h, rfl⟩))

/-- **A type that a word names is named by its label**: the word itself, where no known type has
it. -/
theorem ofWord_label_ofWord (word : Text) : ofWord (ofWord word).label = ofWord word := by
  rcases ofWord_cases word with hmem | ⟨hother, -⟩
  · exact ofWord_label (mem_known_of_mem_words hmem)
  · rw [hother]
    exact hother

/-- A word that is passed on spells no name and no alias, in any case of its letters. -/
theorem ne_of_ofWord_eq_other {word name : Text} (h : ofWord word = other name) :
    name = word ∧ ∀ entry ∈ words, asciiLower name ≠ entry.1 := by
  rcases ofWord_cases word with hmem | ⟨hother, hall⟩
  · rw [h] at hmem
    exact absurd (mem_known_of_mem_words hmem) (by simp [known])
  · rw [h] at hother
    obtain rfl : name = word := other.inj hother
    exact ⟨rfl, hall⟩

/-- **The case of the letters counts only for a word that is passed on.** -/
theorem ofWord_of_asciiLower_eq {word word' : Text} (h : asciiLower word = asciiLower word') :
    ofWord word ∈ known ∧ ofWord word' = ofWord word
      ∨ ofWord word = other word ∧ ofWord word' = other word' := by
  rcases ofWord_cases word with hmem | ⟨hother, hall⟩
  · exact .inl ⟨mem_known_of_mem_words hmem, ofWord_of_mem_words (h ▸ hmem)⟩
  · rcases ofWord_cases word' with hmem' | ⟨hother', -⟩
    · exact absurd h (hall _ hmem')
    · exact .inr ⟨hother, hother'⟩

/-! ### Cells -/

theorem ofCell?_eq_some_iff {cell : Text} {type : ValueType} :
    ofCell? cell = some type ↔ Text.trim cell ≠ [] ∧ ofWord (Text.trim cell) = type := by
  rw [ofCell?]
  split
  · next h => simp [h]
  · next h => simp [h]

theorem trim_label_of_ofCell? {cell : Text} {type : ValueType} (h : ofCell? cell = some type) :
    Text.trim type.label = type.label ∧ type.label ≠ [] := by
  have hknown : ∀ type ∈ known, Text.trim type.label = type.label ∧ type.label ≠ [] := by decide
  obtain ⟨hcell, rfl⟩ := ofCell?_eq_some_iff.1 h
  rcases ofWord_cases (Text.trim cell) with hmem | ⟨hother, -⟩
  · exact hknown _ (mem_known_of_mem_words hmem)
  · rw [hother]
    exact ⟨Text.strip_strip _ _, hcell⟩

theorem ofCell?_label {cell : Text} {type : ValueType} (h : ofCell? cell = some type) :
    ofCell? type.label = some type := by
  obtain ⟨htrim, hne⟩ := trim_label_of_ofCell? h
  obtain ⟨-, rfl⟩ := ofCell?_eq_some_iff.1 h
  rw [ofCell?_eq_some_iff, htrim]
  exact ⟨hne, ofWord_label_ofWord _⟩

/-- Types that cells name are told apart by their labels. -/
theorem eq_of_label_eq {cell cell' : Text} {type type' : ValueType}
    (h : ofCell? cell = some type) (h' : ofCell? cell' = some type')
    (hlabel : type.label = type'.label) : type = type' := by
  refine Option.some.inj ?_
  rw [← ofCell?_label h, ← ofCell?_label h', hlabel]

/-- **Types survive being written down.**  The label of a type that a cell names is a cell for the
same type, and for no other type that a cell names; a type that is passed on never has the spelling
of a name or an alias; and of two cells with one word, up to the case of its letters, both name the
same known type or both are passed on. -/
theorem ofCell?_stable (cell cell' : Text) :
    (∀ type, ofCell? cell = some type → ofCell? type.label = some type)
      ∧ (∀ type type', ofCell? cell = some type → ofCell? cell' = some type' →
        type.label = type'.label → type = type')
      ∧ (∀ name, ofCell? cell = some (other name) →
        (∀ type ∈ known, asciiLower name ≠ asciiLower type.label)
          ∧ ∀ entry ∈ aliases, asciiLower name ≠ asciiLower entry.1)
      ∧ (Text.trim cell ≠ [] → Text.trim cell' ≠ [] →
        asciiLower (Text.trim cell) = asciiLower (Text.trim cell') →
          (∃ type ∈ known, ofCell? cell = some type ∧ ofCell? cell' = some type)
            ∨ ∃ name name', ofCell? cell = some (other name)
              ∧ ofCell? cell' = some (other name')) := by
  refine ⟨fun type => ofCell?_label, fun type type' => eq_of_label_eq, fun name hname => ?_,
    fun hcell hcell' hword => ?_⟩
  · obtain ⟨-, hword⟩ := ofCell?_eq_some_iff.1 hname
    obtain ⟨-, hall⟩ := ne_of_ofWord_eq_other hword
    have hsmall : ∀ entry ∈ aliases, asciiLower entry.1 = entry.1 := by decide
    refine ⟨fun type htype => hall _ (List.mem_append_left _ (List.mem_map.2 ⟨type, htype, rfl⟩)),
      fun entry hentry => ?_⟩
    rw [hsmall entry hentry]
    exact hall _ (List.mem_append_right _ hentry)
  · rcases ofWord_of_asciiLower_eq hword with ⟨hknown, heq⟩ | ⟨hother, hother'⟩
    · exact .inl ⟨_, hknown, ofCell?_eq_some_iff.2 ⟨hcell, rfl⟩,
        ofCell?_eq_some_iff.2 ⟨hcell', heq⟩⟩
    · exact .inr ⟨_, _, ofCell?_eq_some_iff.2 ⟨hcell, hother⟩,
        ofCell?_eq_some_iff.2 ⟨hcell', hother'⟩⟩

theorem ofCell?_stable_timeSpan :
    ofCell? " TimeSpan" = some timeSpan ∧ ofCell? timeSpan.label = some timeSpan
      ∧ asciiLower (Text.trim " TimeSpan") = asciiLower (Text.trim "timespan\t")
      ∧ ((∃ type ∈ known, ofCell? " TimeSpan" = some type ∧ ofCell? "timespan\t" = some type)
        ∨ ∃ name name', ofCell? " TimeSpan" = some (other name)
          ∧ ofCell? "timespan\t" = some (other name')) := by
  obtain ⟨hlabel, -, -, hcase⟩ := ofCell?_stable " TimeSpan" "timespan\t"
  exact ⟨by decide, hlabel _ (by decide), by decide, hcase (by decide) (by decide) (by decide)⟩

end LogCatalog.ValueType
