import LogCatalog.Proofs.Row.Labels
import LogCatalog.Proofs.Run.Verdicts

/-!
# The first accepted row wins

A line that yields a definition takes its name and its identifier from all later lines, and no other
line does.

* `TakenAt`: a line takes a text as a label.
* `line?_registryBefore`: the registry cites the line that took a label.
* `takenAt_unique`: no two lines take the same label.
* `first_accepted_wins`: which lines yield definitions, in what order, and what the others are told.
-/

namespace LogCatalog.Run

open Row
open Unicode (lowercase)

variable {locales : Locales} {lines : List Text} {place : Nat} {label : Label} {text : Text}

/-- The line at a place yields a definition and so takes a text as a label, without regard to
case. -/
def TakenAt (locales : Locales) (lines : List Text) (label : Label) (text : Text)
    (place : Nat) : Prop :=
  ∃ d, definitionAt? locales lines place = some d
    ∧ lowercase (label.ofDefinition d) = lowercase text

theorem takenAt_iff {d : Definition} (h : definitionAt? locales lines place = some d) :
    TakenAt locales lines label text place ↔
      lowercase text = lowercase (label.ofDefinition d) := by
  constructor
  · rintro ⟨other, hother, hkey⟩
    cases h.symm.trans hother
    exact hkey.symm
  · intro hkey
    exact ⟨d, h, hkey.symm⟩

theorem not_takenAt (h : definitionAt? locales lines place = none) :
    ¬ TakenAt locales lines label text place := by
  rintro ⟨d, hd, -⟩
  rw [h] at hd
  cases hd

/-! ### Which line took a label -/

theorem line?_registryBefore_succ {line : Nat} :
    label.line? (registryBefore locales lines (place + 1)) text = some line ↔
      label.line? (registryBefore locales lines place) text = some line
        ∨ TakenAt locales lines label text place ∧ line = place + 1 := by
  rw [registryBefore_succ]
  cases hyield : definitionAt? locales lines place with
  | none =>
    exact ⟨.inl, fun h => h.resolve_right fun htaken => not_takenAt hyield htaken.1⟩
  | some d =>
    obtain ⟨columns, -, hacc⟩ := definitionAt?_eq_some_iff.1 hyield
    dsimp only
    rw [Label.line?_insert, takenAt_iff hyield]
    by_cases hkey : lowercase text = lowercase (label.ofDefinition d)
    · -- The label of an accepted row was free, so the line is the first with it.
      have hfree : label.line? (registryBefore locales lines place) text = none := by
        rw [Label.line?, hkey]
        exact hacc.line?_eq_none label
      rw [hfree, if_pos hkey, Option.none_or, Option.some_inj]
      constructor
      · rintro rfl
        exact .inr ⟨hkey, rfl⟩
      · rintro (h | ⟨-, rfl⟩)
        · cases h
        · rfl
    · rw [if_neg hkey, Option.or_none]
      exact ⟨.inl, fun h => h.resolve_right fun htaken => hkey htaken.1⟩

/-- **The registry cites the line that took a label.** -/
theorem line?_registryBefore {line : Nat} :
    label.line? (registryBefore locales lines place) text = some line ↔
      ∃ earlier < place, TakenAt locales lines label text earlier ∧ line = earlier + 1 := by
  induction place with
  | zero =>
    constructor
    · intro h
      cases label with
      | name => cases h
      | identifier => cases h
    · rintro ⟨earlier, hlt, -⟩
      cases hlt
  | succ place ih =>
    rw [line?_registryBefore_succ, ih]
    constructor
    · rintro (⟨earlier, hlt, htaken⟩ | htaken)
      · exact ⟨earlier, Nat.lt_succ_of_lt hlt, htaken⟩
      · exact ⟨place, Nat.lt_succ_self place, htaken⟩
    · rintro ⟨earlier, hlt, htaken⟩
      rcases Nat.lt_succ_iff_lt_or_eq.1 hlt with hlt | rfl
      · exact .inl ⟨earlier, hlt, htaken⟩
      · exact .inr htaken

theorem line?_registryBefore_eq_none :
    label.line? (registryBefore locales lines place) text = none ↔
      ∀ earlier < place, ¬ TakenAt locales lines label text earlier := by
  rw [Option.eq_none_iff_forall_ne_some]
  constructor
  · intro h earlier hlt htaken
    exact h _ (line?_registryBefore.2 ⟨earlier, hlt, htaken, rfl⟩)
  · intro h line hline
    obtain ⟨earlier, hlt, htaken, -⟩ := line?_registryBefore.1 hline
    exact h earlier hlt htaken

/-- **No two lines take the same label.** -/
theorem takenAt_unique {other : Nat} (h : TakenAt locales lines label text place)
    (hother : TakenAt locales lines label text other) : other = place := by
  have hline : ∀ p < max place other + 1, TakenAt locales lines label text p →
      label.line? (registryBefore locales lines (max place other + 1)) text = some (p + 1) :=
    fun p hlt htaken => line?_registryBefore.2 ⟨p, hlt, htaken, rfl⟩
  have hsame := (hline other (Nat.lt_succ_of_le (Nat.le_max_right ..)) hother).symm.trans
    (hline place (Nat.lt_succ_of_le (Nat.le_max_left ..)) h)
  exact Nat.succ.inj (Option.some.inj hsame)

/-! ### Which lines yield definitions -/

theorem lt_length_of_isSome (h : (definitionAt? locales lines place).isSome) :
    place < lines.length := by
  obtain ⟨d, hd⟩ := Option.isSome_iff_exists.1 h
  obtain ⟨columns, hcolumns, -⟩ := definitionAt?_eq_some_iff.1 hd
  obtain ⟨line, hline, -⟩ := Option.bind_eq_some_iff.1 hcolumns
  exact (List.getElem?_eq_some_iff.1 hline).1

theorem definitions_in_order (locales : Locales) (lines : List Text) :
    ∃ places : List Nat, places.Pairwise (· < ·)
      ∧ (∀ place, place ∈ places ↔ (definitionAt? locales lines place).isSome)
      ∧ (ofLines locales lines).definitions.map some
        = places.map (definitionAt? locales lines) := by
  refine ⟨(List.range lines.length).filter fun place => (definitionAt? locales lines place).isSome,
    List.pairwise_lt_range.filter _, fun place => ?_, ?_⟩
  · rw [List.mem_filter, List.mem_range]
    exact ⟨And.right, fun h => ⟨lt_length_of_isSome h, h⟩⟩
  · rw [definitions_ofLines, List.map_filterMap_some_eq_filter_map_isSome, List.filter_map]
    rfl

/-- **A line yields a definition exactly if it has a row in which nothing fatal is found and whose
labels no earlier line took.** -/
theorem isSome_definitionAt?_iff :
    (definitionAt? locales lines place).isSome ↔
      ∃ draft, draftAt? locales lines place = some draft
        ∧ draft.diagnostics.any Diagnostic.isFatal = false
        ∧ ∀ name, draft.name? = some name → ∀ label : Label, ∀ earlier < place,
            ¬ TakenAt locales lines label (label.ofName name) earlier := by
  simp only [← line?_registryBefore_eq_none]
  rw [Option.isSome_iff_exists]
  constructor
  · rintro ⟨d, hd⟩
    obtain ⟨columns, hcolumns, hacc⟩ := definitionAt?_eq_some_iff.1 hd
    exact ⟨_, draftAt?_eq_some_iff.2 ⟨columns, hcolumns, rfl⟩,
      Draft.exists_accepts_iff.1 ⟨d, hacc⟩⟩
  · rintro ⟨draft, hdraft, hfree⟩
    obtain ⟨columns, hcolumns, rfl⟩ := draftAt?_eq_some_iff.1 hdraft
    obtain ⟨d, hacc⟩ := Draft.exists_accepts_iff.2 hfree
    exact ⟨d, definitionAt?_eq_some_iff.2 ⟨columns, hcolumns, hacc⟩⟩

/-! ### What is told of a label that was taken -/

theorem filter_kind_verdictAt? {columns : List Text} {name : CanonicalName} {verdict : Verdict}
    (hcolumns : lines[place]?.bind columns? = some columns)
    (hwidth : minimumColumns ≤ columns.length)
    (hname : CanonicalName.ofLabel? (cellAt columns nameColumn) = some name)
    (hverdict : verdictAt? locales lines place = some verdict) (label : Label) :
    verdict.diagnostics.filter (·.kind = label.kind)
      = ((label.line? (registryBefore locales lines place) (label.ofName name)).map
          (label.note (label.ofName name) (place + 1))).toList := by
  rw [verdictAt?, draftAt?_eq_some_iff.2 ⟨columns, hcolumns, rfl⟩] at hverdict
  cases hverdict
  refine Draft.filter_kind_commit ?_ label
  rw [Draft.name?, Draft.ofColumns_of_le hwidth]
  exact hname

/-- **The first accepted row wins.**  The definitions of a run come in the order of their lines.  A
line yields one exactly if it has a row, nothing fatal is found in the row itself, and no earlier
line that yields one has the same name or the same identifier without regard to case.  A row with
enough columns and a name is told that a label is taken exactly if it is; then there is only one
line that took it, and the one diagnostic about the label cites that line. -/
theorem first_accepted_wins (locales : Locales) (lines : List Text) :
    (∃ places : List Nat, places.Pairwise (· < ·)
        ∧ (∀ place, place ∈ places ↔ (definitionAt? locales lines place).isSome)
        ∧ (ofLines locales lines).definitions.map some
          = places.map (definitionAt? locales lines))
      ∧ (∀ place, (definitionAt? locales lines place).isSome ↔
          ∃ draft, draftAt? locales lines place = some draft
            ∧ draft.diagnostics.any Diagnostic.isFatal = false
            ∧ ∀ name, draft.name? = some name → ∀ label : Label, ∀ earlier < place,
                ¬ TakenAt locales lines label (label.ofName name) earlier)
      ∧ ∀ place columns, lines[place]?.bind columns? = some columns →
          minimumColumns ≤ columns.length →
          Text.hasContent (cellAt columns nameColumn) = true →
            ∃ name verdict, CanonicalName.ofLabel? (cellAt columns nameColumn) = some name
              ∧ verdictAt? locales lines place = some verdict
              ∧ ∀ label : Label,
                (verdict.has label.kind = true ↔
                    ∃ earlier < place, TakenAt locales lines label (label.ofName name) earlier)
                ∧ ∀ earlier < place, TakenAt locales lines label (label.ofName name) earlier →
                    (∀ other, TakenAt locales lines label (label.ofName name) other →
                      other = earlier)
                    ∧ verdict.diagnostics.filter (·.kind = label.kind)
                      = [label.note (label.ofName name) (place + 1) (earlier + 1)] := by
  refine ⟨definitions_in_order locales lines, fun place => isSome_definitionAt?_iff,
    fun place columns hcolumns hwidth hcontent => ?_⟩
  obtain ⟨name, hname⟩ := exists_ofLabel? hcontent
  have hverdict : verdictAt? locales lines place
      = some ((Draft.ofColumns locales columns (place + 1)).commit
          (registryBefore locales lines place)).1 := by
    rw [verdictAt?, draftAt?_eq_some_iff.2 ⟨columns, hcolumns, rfl⟩]
    rfl
  refine ⟨name, _, hname, hverdict, fun label => ?_⟩
  have hfilter := filter_kind_verdictAt? hcolumns hwidth hname hverdict label
  refine ⟨?_, fun earlier hlt htaken => ⟨fun other hother => takenAt_unique htaken hother, ?_⟩⟩
  · rw [Verdict.has_iff, hfilter, ne_eq, Option.toList_eq_nil_iff, Option.map_eq_none_iff,
      line?_registryBefore_eq_none]
    simp only [not_forall, not_not, exists_prop]
  · rw [hfilter, line?_registryBefore.2 ⟨earlier, hlt, htaken, rfl⟩]
    rfl

/-- The second row has the name of the first in lowercase; the comment between them counts. -/
example :
    diagnosticsAt ⟨[], by decide⟩
        ["1\tAuth.Login\tInfo\t\tUser logs in" ++ List.replicate 12 '\t', "# sessions",
          "2\tauth.login\tInfo\t\tUser logs in again" ++ List.replicate 12 '\t'] 2
      = [Label.name.note "auth.login" 3 1, Label.identifier.note "auth_login" 3 1] := by
  decide +kernel

end LogCatalog.Run
