import LogCatalog.Proofs.Locale.Spelling

/-!
# Tags of locales

A locale that a tag names has a tag of its own.  The subtags hold no hyphen, so the tag shows them;
and each shows by its length and its first letter whether it is a script, a region or a variant.

* `formOf`: what a subtag after the language is.
* `Spelled`: the parts of a locale are spelled as in a tag; `eq_of_tag_eq`: such a locale is
  determined by its tag.
* `spelled_of_ofTag`: this holds of every locale that a tag names.
-/

namespace LogCatalog

namespace Locale

/-! ### Subtags -/

inductive Form where
  | script | region | variant
  deriving DecidableEq, Repr

/-- What a subtag is, by its length and its first letter. -/
def formOf (s : Text) : Form :=
  if s.length < 4 then .region else if s.head?.any Char.isUpper then .script else .variant

section

variable {s t : Text}

theorem toLower_ne_hyphen {c : Char} (h : c ≠ '-') : c.toLower ≠ '-' := by
  intro heq
  have hcode : c.toLower.toNat = 45 := congrArg Char.toNat heq
  rw [toNat_toLower] at hcode
  split at hcode
  · omega
  · exact h (Char.toNat_inj.1 hcode)

/-- The case of the letters brings no hyphen. -/
theorem hyphen_not_mem_of_map_toLower (h : t.map Char.toLower = s.map Char.toLower)
    (hs : '-' ∉ s) : '-' ∉ t := by
  intro hmem
  have hsmall : '-' ∈ s.map Char.toLower := h ▸ List.mem_map_of_mem (f := Char.toLower) hmem
  obtain ⟨c, hc, heq⟩ := List.mem_map.1 hsmall
  exact toLower_ne_hyphen (fun e => hs (e ▸ hc)) heq

theorem hyphen_not_mem_of_all {p : Char → Bool} (hp : p '-' = false) (h : s.all p = true) :
    '-' ∉ s := fun hmem => by
  rw [List.all_eq_true.1 h _ hmem] at hp
  cases hp

theorem hyphen_not_mem_of_language? (h : language? s = some t) : '-' ∉ t :=
  hyphen_not_mem_of_map_toLower (map_toLower_of_language? h)
    (hyphen_not_mem_of_all rfl (language?_eq_some_iff.1 h).1)

theorem of_script? (h : script? s = some t) : formOf t = .script ∧ '-' ∉ t := by
  have hletters := map_toLower_of_script? h
  obtain ⟨hlength, hall, rfl⟩ := script?_eq_some_iff.1 h
  refine ⟨?_, hyphen_not_mem_of_map_toLower hletters (hyphen_not_mem_of_all rfl hall)⟩
  cases s with
  | nil => cases hlength
  | cons c rest =>
    rw [List.all_cons, Bool.and_eq_true] at hall
    rw [List.length_cons] at hlength
    rw [formOf, capitalized, List.length_cons, List.length_map, hlength, List.head?_cons,
      Option.any_some, Char.isUpper_toUpper_eq_isAlpha, hall.1]
    rfl

theorem of_region? (h : region? s = some t) : formOf t = .region ∧ '-' ∉ t := by
  have hletters := map_toLower_of_region? h
  have hlength := length_eq_of_map_toLower hletters
  rcases region?_eq_some_iff.1 h with ⟨htwo, hall, -⟩ | ⟨hthree, hall, -⟩
  · refine ⟨?_, hyphen_not_mem_of_map_toLower hletters (hyphen_not_mem_of_all rfl hall)⟩
    rw [formOf, hlength, htwo]
    rfl
  · refine ⟨?_, hyphen_not_mem_of_map_toLower hletters (hyphen_not_mem_of_all rfl hall)⟩
    rw [formOf, hlength, hthree]
    rfl

theorem of_variant? (h : variant? s = some t) (hs : '-' ∉ s) : formOf t = .variant ∧ '-' ∉ t := by
  refine ⟨?_, hyphen_not_mem_of_map_toLower (map_toLower_of_variant? h) hs⟩
  obtain ⟨hshape, rfl⟩ := variant?_eq_some_iff.1 h
  have hlength : 4 ≤ s.length := by
    rcases hshape with ⟨hlong, -⟩ | ⟨hshort, -⟩ <;> omega
  have hhead : (s.map Char.toLower).head?.any Char.isUpper = false := by
    rw [List.head?_map]
    cases s.head? with
    | none => rfl
    | some c => exact Char.isUpper_toLower_eq_false c
  rw [formOf, if_neg (by rw [List.length_map]; omega), hhead]
  rfl

end

/-! ### Locales -/

/-- The parts of a locale are spelled as in a tag. -/
structure Spelled (l : Locale) : Prop where
  language : ∃ s, language? s = some l.language
  script : ∀ s ∈ l.script, ∃ t, script? t = some s
  region : ∀ r ∈ l.region, ∃ t, region? t = some r
  variants : ∀ v ∈ l.variants, ∃ t, '-' ∉ t ∧ variant? t = some v

section

variable {l m : Locale}

theorem Spelled.hyphen_not_mem (h : l.Spelled) : ∀ s ∈ l.subtags, '-' ∉ s := by
  intro s hs
  obtain ⟨t, ht⟩ := h.language
  rw [subtags, List.mem_cons, List.mem_append, List.mem_append, Option.mem_toList,
    Option.mem_toList] at hs
  rcases hs with rfl | (hs | hs) | hs
  · exact hyphen_not_mem_of_language? ht
  · obtain ⟨t, ht⟩ := h.script s hs
    exact (of_script? ht).2
  · obtain ⟨t, ht⟩ := h.region s hs
    exact (of_region? ht).2
  · obtain ⟨t, ht, hv⟩ := h.variants s hs
    exact (of_variant? hv ht).2

theorem Spelled.subtags_eq (hl : l.Spelled) (hm : m.Spelled) (h : l.tag = m.tag) :
    l.subtags = m.subtags := by
  rw [← List.splitOn_intercalate '-' hl.hyphen_not_mem (List.cons_ne_nil _ _),
    ← List.splitOn_intercalate '-' hm.hyphen_not_mem (List.cons_ne_nil _ _)]
  exact congrArg (List.splitOn '-') h

def partsOf (l : Locale) : Form → List Text
  | .script => l.script.toList
  | .region => l.region.toList
  | .variant => l.variants

def laterSubtags (l : Locale) : List Text :=
  l.partsOf .script ++ l.partsOf .region ++ l.partsOf .variant

theorem Spelled.formOf_eq (h : l.Spelled) (f : Form) : ∀ s ∈ l.partsOf f, formOf s = f := by
  intro s hs
  cases f with
  | script =>
    obtain ⟨t, ht⟩ := h.script s (Option.mem_toList.1 hs)
    exact (of_script? ht).1
  | region =>
    obtain ⟨t, ht⟩ := h.region s (Option.mem_toList.1 hs)
    exact (of_region? ht).1
  | variant =>
    obtain ⟨t, ht, hv⟩ := h.variants s hs
    exact (of_variant? hv ht).1

theorem filter_formOf {subtags : List Text} {f : Form} (h : ∀ s ∈ subtags, formOf s = f)
    (g : Form) : subtags.filter (formOf · = g) = if f = g then subtags else [] := by
  split
  · next heq => exact List.filter_eq_self.2 fun s hs => decide_eq_true ((h s hs).trans heq)
  · next hne =>
    exact List.filter_eq_nil_iff.2 fun s hs => by
      rw [decide_eq_true_eq, h s hs]
      exact hne

/-- The form of the subtags of a locale shows its parts. -/
theorem Spelled.filter_laterSubtags (h : l.Spelled) (f : Form) :
    l.laterSubtags.filter (formOf · = f) = l.partsOf f := by
  rw [laterSubtags, List.filter_append, List.filter_append,
    filter_formOf (h.formOf_eq .script), filter_formOf (h.formOf_eq .region),
    filter_formOf (h.formOf_eq .variant)]
  cases f with
  | script => simp [partsOf]
  | region => simp [partsOf]
  | variant => simp [partsOf]

/-- **A locale is determined by its tag.**  This does not follow by reading the tag again: what is
written first may be read as another part. -/
theorem eq_of_tag_eq (hl : l.Spelled) (hm : m.Spelled) (h : l.tag = m.tag) : l = m := by
  have hsubtags := hl.subtags_eq hm h
  have hlanguage : l.language = m.language := List.head_eq_of_cons_eq hsubtags
  have hlater : l.laterSubtags = m.laterSubtags := List.tail_eq_of_cons_eq hsubtags
  have hparts : ∀ f, l.partsOf f = m.partsOf f := fun f => by
    rw [← hl.filter_laterSubtags, ← hm.filter_laterSubtags, hlater]
  have hscript : l.script = m.script := by
    rw [← Option.head?_toList (o := l.script), ← Option.head?_toList (o := m.script)]
    exact congrArg List.head? (hparts .script)
  have hregion : l.region = m.region := by
    rw [← Option.head?_toList (o := l.region), ← Option.head?_toList (o := m.region)]
    exact congrArg List.head? (hparts .region)
  have hvariants : l.variants = m.variants := hparts .variant
  cases l
  cases m
  congr

end

/-! ### Locales that tags name -/

theorem Written.spelled {l : Locale} (h : l.Written) : l.Spelled where
  language := ⟨_, h.language⟩
  script s hs := ⟨s, h.script s hs⟩
  region r hr := ⟨r, h.region r hr⟩
  variants v hv := by
    have hmem : v ∈ l.subtags := by simp [subtags, hv]
    exact ⟨v, fun hyphen => Bool.noConfusion (h.undivided v hmem '-' hyphen), h.variants v hv⟩

/-- **A locale that a tag names is spelled as in a tag.** -/
theorem spelled_of_ofTag {tag : Text} {l : Locale} (h : ofTag tag = .ok l) : l.Spelled :=
  (written_of_ofTag h).spelled

end Locale

end LogCatalog
