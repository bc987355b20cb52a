import LogCatalog.Proofs.Row.Fields
import LogCatalog.Proofs.Template.Matching

/-!
# Translations of an accepted row

An accepted row has a column for every configured locale.  The translation there is kept if it has
the names of the template, in their order.  Otherwise it lacks some of them or adds others, and each
such name is remarked on; had it only moved them, the row would have been rejected.

* `mem_localizations`: the translations that are kept are those with the names of the template.
* `foldl_putTranslation`: distinct locales do not overwrite each other in an ordered map.
* `HoldsTranslations`: what the definition of a row has for the configured locales.
* `translations_of_accepted`: every accepted row holds its translations.
-/

namespace LogCatalog.Row

set_option maxRecDepth 16384

variable {columns names : List Text} {locales : Locales} {locale : Locale} {place : Nat}

/-! ### What is kept -/

theorem localization?_eq_some_iff {cell : Option Text} {entry : Locale × Text} :
    localization? names locale cell = some entry ↔
      ∃ text, cell = some text ∧ Template.names text = names ∧ entry = (locale, text) := by
  cases cell with
  | none =>
    constructor
    · intro h
      cases h
    · rintro ⟨text, h, -⟩
      cases h
  | some text =>
    rw [localization?]
    constructor
    · intro h
      split at h
      · next hmatch =>
        have hnames := (Template.isMatch_compare_iff (Template.nodup_names text)).1 hmatch
        exact ⟨text, rfl, hnames.symm, (Option.some.inj h).symm⟩
      · cases h
    · rintro ⟨_, ⟨⟩, hnames, rfl⟩
      have hmatch := (Template.isMatch_compare_iff (Template.nodup_names text)).2 hnames.symm
      rw [if_pos hmatch]

/-- **The translations that are kept are those with the names of the template.** -/
theorem mem_localizations {text : Text} :
    (locale, text) ∈ localizations columns names locales ↔
      ∃ place, locales.toList[place]? = some locale
        ∧ columns[localizationColumn place]? = some text ∧ Template.names text = names := by
  rw [localizations, List.mem_filterMap]
  constructor
  · rintro ⟨⟨place, locale', cell⟩, hcell, hkept⟩
    obtain ⟨text', rfl, hnames, heq⟩ := localization?_eq_some_iff.1 hkept
    obtain ⟨i, hi⟩ := List.getElem?_of_mem hcell
    rw [getElem?_localizationCells, Option.map_eq_some_iff] at hi
    obtain ⟨locale'', hlocale, hentry⟩ := hi
    simp only [Prod.mk.injEq] at hentry heq
    obtain ⟨rfl, rfl, hcolumn⟩ := hentry
    obtain ⟨rfl, rfl⟩ := heq
    exact ⟨i, hlocale, hcolumn, hnames⟩
  · rintro ⟨place, hlocale, hcolumn, hnames⟩
    refine ⟨(place, locale, some text), List.mem_of_getElem? (i := place) ?_, ?_⟩
    · rw [getElem?_localizationCells, hlocale, ← hcolumn]
      rfl
    · exact localization?_eq_some_iff.2 ⟨text, rfl, hnames, rfl⟩

/-- A locale is configured at one place only, so only the column there can be kept for it. -/
theorem mem_localizations_iff (hlocale : locales.toList[place]? = some locale) {text : Text} :
    (locale, text) ∈ localizations columns names locales ↔
      columns[localizationColumn place]? = some text ∧ Template.names text = names := by
  rw [mem_localizations]
  constructor
  · rintro ⟨other, hother, hkept⟩
    have hlt := (List.getElem?_eq_some_iff.1 hother).1
    rwa [(List.getElem?_inj hlt locales.nodup).1 (hother.trans hlocale.symm)] at hkept
  · exact fun hkept => ⟨place, hlocale, hkept⟩

/-! ### The order of the translations -/

theorem map_filterMap_sublist {α β γ : Type} {f : α → Option β} {g : β → γ} {k : α → γ}
    (h : ∀ a b, f a = some b → g b = k a) (l : List α) :
    ((l.filterMap f).map g).Sublist (l.map k) := by
  induction l with
  | nil => exact .slnil
  | cons a rest ih =>
    rw [List.map_cons, List.filterMap_cons]
    cases hf : f a with
    | none => exact ih.cons _
    | some b =>
      rw [List.map_cons, h a b hf]
      exact ih.cons_cons _

theorem map_localizationCells (columns : List Text) (locales : Locales) :
    (localizationCells columns locales).map (fun cell => cell.2.1) = locales.toList := by
  refine List.ext_getElem? fun i => ?_
  rw [List.getElem?_map, getElem?_localizationCells, Option.map_map]
  exact Option.map_id'

theorem map_fst_localizations_sublist (columns names : List Text) (locales : Locales) :
    ((localizations columns names locales).map Prod.fst).Sublist locales.toList := by
  rw [← map_localizationCells columns locales, localizations]
  refine map_filterMap_sublist ?_ _
  rintro ⟨place, locale, cell⟩ entry hkept
  obtain ⟨text, -, -, rfl⟩ := localization?_eq_some_iff.1 hkept
  rfl

/-- Puts a translation into an ordered map: it replaces the one for its locale or, where there is
none, comes last. -/
def putTranslation (entries : List (Locale × Text)) (entry : Locale × Text) :
    List (Locale × Text) :=
  if entry.1 ∈ entries.map Prod.fst then entries.map fun e => if e.1 = entry.1 then entry else e
  else entries ++ [entry]

/-- **Distinct locales do not overwrite each other.** -/
theorem foldl_putTranslation {front entries : List (Locale × Text)}
    (h : ((front ++ entries).map Prod.fst).Nodup) :
    entries.foldl putTranslation front = front ++ entries := by
  induction entries generalizing front with
  | nil => rw [List.foldl_nil, List.append_nil]
  | cons entry rest ih =>
    have hnew : entry.1 ∉ front.map Prod.fst := by
      intro hmem
      rw [List.map_append, List.map_cons, List.nodup_append] at h
      exact h.2.2 entry.1 hmem entry.1 List.mem_cons_self rfl
    rw [List.append_cons] at h ⊢
    rw [List.foldl_cons, putTranslation, if_neg hnew, ih h]

/-! ### What is remarked on -/

theorem without_eq_filter (names others : List Text) :
    Template.without names others = names.filter (· ∉ others) := by
  simp [Template.without]

/-- The remarks on a translation with the names `localized`, for a template with the names `names`:
one for each name that it lacks, then one for each name that it adds. -/
def mismatchNotes (line place : Nat) (locale : Locale) (names localized : List Text) :
    List Diagnostic :=
  let note (f : Finding) : Diagnostic :=
    { line, field := some (18 + place), kind := .localizationPlaceholderMismatch
      message := f.message }
  (names.filter (· ∉ localized)).map (fun name => note (.missingInLocalization place locale name))
    ++ (localized.filter (· ∉ names)).map
        (fun name => note (.extraInLocalization place locale name))

/-- A translation in which nothing is fatal is there and moves no name. -/
theorem exists_of_harmless_localizationFindings {cell : Option Text}
    (h : Harmless (localizationFindings names place locale cell)) :
    ∃ text, cell = some text ∧ (Template.compare names (Template.names text)).misplaced = [] := by
  cases cell with
  | none => exact Bool.noConfusion (h _ (List.mem_singleton.2 rfl))
  | some text =>
    refine ⟨text, rfl, List.eq_nil_iff_forall_not_mem.2 fun m hm => ?_⟩
    have hmem : Finding.misplacedInLocalization place locale m
        ∈ localizationFindings names place locale (some text) :=
      List.mem_append_right _ (List.mem_map_of_mem hm)
    exact Bool.noConfusion (h _ hmem)

theorem map_onLine_localizationFindings {text : Text} (line : Nat)
    (h : (Template.compare names (Template.names text)).misplaced = []) :
    (localizationFindings names place locale (some text)).map (·.onLine line)
      = mismatchNotes line place locale names (Template.names text) := by
  rw [localizationFindings, h, List.map_nil, List.append_nil, List.map_append, List.map_map,
    List.map_map, mismatchNotes, ← without_eq_filter, ← without_eq_filter]
  rfl

/-- Names that differ and are not moved are lacking or added. -/
theorem mismatchNotes_ne_nil {localized : List Text} (hl : localized.Nodup)
    (h : (Template.compare names localized).misplaced = []) (hne : localized ≠ names)
    (line : Nat) : mismatchNotes line place locale names localized ≠ [] := by
  intro hnil
  rw [mismatchNotes, ← without_eq_filter, ← without_eq_filter, List.append_eq_nil_iff,
    List.map_eq_nil_iff, List.map_eq_nil_iff] at hnil
  refine hne ((Template.isMatch_compare_iff hl).1 ?_).symm
  rw [Template.Comparison.isMatch, h]
  simp only [Template.compare, hnil, List.isEmpty_nil, Bool.and_true]

/-! ### Accepted rows -/

/-- What the definition of the row on a line has for the locale at a place, whose column is
`cell`. -/
structure HoldsTranslation (line place : Nat) (locale : Locale) (cell : Text) (d : Definition) :
    Prop where
  /-- A translation is kept exactly if it has the names of the template, in their order. -/
  kept_iff : (∃ text, (locale, text) ∈ d.localizations) ↔
    Template.names cell = Template.names d.message
  /-- It is kept as it stands in its column. -/
  verbatim : ∀ text, (locale, text) ∈ d.localizations → text = cell
  /-- Where none is kept, the warnings about the column are the remarks on the names that it lacks
  and adds, and there are some. -/
  remarked : (¬ ∃ text, (locale, text) ∈ d.localizations) →
    d.warnings.filter (·.field = some (18 + place))
        = mismatchNotes line place locale (Template.names d.message) (Template.names cell)
      ∧ mismatchNotes line place locale (Template.names d.message) (Template.names cell) ≠ []

/-- What the definition of the row on a line has for the configured locales. -/
structure HoldsTranslations (locales : Locales) (columns : List Text) (line : Nat)
    (d : Definition) : Prop where
  /-- The translations are in the order of the configured locales. -/
  ordered : (d.localizations.map Prod.fst).Sublist locales.toList
  /-- Put into an ordered map one after the other, none of them overwrites another. -/
  apart : d.localizations.foldl putTranslation [] = d.localizations
  /-- Every configured locale has its column. -/
  each : ∀ place locale, locales.toList[place]? = some locale →
    ∃ cell, columns[18 + place]? = some cell ∧ HoldsTranslation line place locale cell d

namespace Draft

variable {line : Nat} {r : Registry} {d : Definition}

theorem Accepts.filter_warnings (h : (ofColumns locales columns line).Accepts r d)
    (hlocale : locales.toList[place]? = some locale) :
    d.warnings.filter (·.field = some (localizationColumn place))
      = (localizationFindings (Template.names d.message) place locale
          columns[localizationColumn place]?).map (·.onLine line) := by
  have hlabels : (labelFindings columns).filter (·.column = some (localizationColumn place)) = [] :=
    filter_column_eq_nil fun f hf => (between_of_mem_labelFindings hf).column_ne (by
      rw [levelColumn, localizationColumn, firstLocalizationColumn]
      omega)
  rw [h.warnings_eq_map, h.message_eq, ← filter_column_contentFindings hlocale, List.filter_map]
  show ((labelFindings columns ++ contentFindings locales columns).filter
    (·.column = some (localizationColumn place))).map _ = _
  rw [List.filter_append, hlabels, List.nil_append]

theorem Accepts.harmless_localizationFindings (h : (ofColumns locales columns line).Accepts r d)
    (hlocale : locales.toList[place]? = some locale) :
    Harmless (localizationFindings (Template.names d.message) place locale
      columns[localizationColumn place]?) := by
  obtain ⟨-, -, hharmless, -⟩ := h.read
  rw [h.message_eq, ← filter_column_contentFindings hlocale]
  exact fun f hf => hharmless f (List.mem_filter.1 hf).1

theorem Accepts.holdsTranslation (h : (ofColumns locales columns line).Accepts r d)
    (hlocale : locales.toList[place]? = some locale) :
    ∃ cell, columns[localizationColumn place]? = some cell
      ∧ HoldsTranslation line place locale cell d := by
  obtain ⟨cell, hcell, hplaces⟩ :=
    exists_of_harmless_localizationFindings (h.harmless_localizationFindings hlocale)
  have hmem : ∀ text, (locale, text) ∈ d.localizations ↔
      cell = text ∧ Template.names text = Template.names d.message := by
    intro text
    rw [h.localizations_eq, mem_localizations_iff hlocale, hcell, Option.some.injEq]
  have hkept : (∃ text, (locale, text) ∈ d.localizations) ↔
      Template.names cell = Template.names d.message := by
    simp only [hmem, exists_eq_left']
  refine ⟨cell, hcell, hkept, fun text htext => ((hmem text).1 htext).1.symm, fun hnone => ?_⟩
  rw [hkept] at hnone
  refine ⟨?_, mismatchNotes_ne_nil (Template.nodup_names cell) hplaces hnone line⟩
  rw [← map_onLine_localizationFindings line hplaces, ← hcell]
  exact h.filter_warnings hlocale

end Draft

/-- **Every accepted row holds its translations.**  Every configured locale has its column; the
translation there is kept, as it stands, exactly if it has the names of the template in their order;
the translations are in the order of the configured locales; and where none is kept, the warnings
name what it lacks and what it adds, one at least. -/
theorem translations_of_accepted {line : Nat} {r : Registry} {d : Definition}
    (h : (validate locales columns line r).1.definition? = some d) :
    HoldsTranslations locales columns line d := by
  have hacc := Draft.definition?_commit_eq_some_iff.1 h
  have hordered : (d.localizations.map Prod.fst).Sublist locales.toList := by
    rw [hacc.localizations_eq]
    exact map_fst_localizations_sublist columns _ locales
  exact ⟨hordered, foldl_putTranslation (hordered.nodup locales.nodup),
    fun place locale hlocale => hacc.holdsTranslation hlocale⟩

/-- A row with three translations, of which the second one lacks a name and adds two. -/
def welcomeColumns : List Text :=
  ["7", "A.B", "I", "", "\x7buser\x7d has \x7bcount:N0\x7d new",
    "user", "string", "count", "int", "", "", "", "", "", "", "", "", "",
    "\x7buser\x7d hat \x7bcount\x7d neue", "\x7btotal\x7d, \x7buser\x7d, \x7brest\x7d",
    "\x7buser\x7d\x7bcount\x7d"]

def language (tag : Text) : Locale :=
  { language := tag, script := none, region := none, variants := [] }

def threeLocales : Locales := ⟨[language "de", language "fr", language "ja"], by decide⟩

def welcome : Definition where
  id := 7
  name := "A.B"
  identifier := "A_B"
  level := .information
  hasException := false
  message := "\x7buser\x7d has \x7bcount:N0\x7d new"
  placeholders := [⟨"user", .string⟩, ⟨"count", .int32⟩]
  comment := none
  localizations :=
    [(language "de", "\x7buser\x7d hat \x7bcount\x7d neue"),
      (language "ja", "\x7buser\x7d\x7bcount\x7d")]
  warnings := mismatchNotes 3 1 (language "fr") ["user", "count"] ["total", "user", "rest"]

theorem translations_of_accepted_welcome :
    (validate threeLocales welcomeColumns 3 .empty).1.definition? = some welcome
      ∧ HoldsTranslations threeLocales welcomeColumns 3 welcome := by
  have haccepted :
      (validate threeLocales welcomeColumns 3 .empty).1.definition? = some welcome := by rfl
  exact ⟨haccepted, translations_of_accepted haccepted⟩

end LogCatalog.Row
