import LogCatalog.Proofs.Definition.Json
import LogCatalog.Proofs.Locale.Configured
import LogCatalog.Proofs.Row.Parameters
import LogCatalog.Proofs.Run.Bookkeeping
import LogCatalog.Proofs.Run.ReadingAhead

/-!
# Snapshots of runs

Whatever a run or a session accepts has types that cells of its rows name, and translations for
locales of its own.  So the snapshot of the definitions that it ends with determines them.

* `Draft.Accepts.faithful`: the definition of an accepted row is faithful.
* `Faithful`: an intake of faithful definitions; `Faithful.take`: what is taken in keeps this.
* `Built`, `Built.faithful`: definitions that some run or session ends with are faithful.
* `snapshot_eq_iff`: such definitions have the same snapshot only if they are the same.
-/

set_option maxRecDepth 16384

namespace LogCatalog

/-! ### Locales -/

namespace Locales

def Spelled (ls : Locales) : Prop := ∀ l ∈ ls.toList, l.Spelled

theorem spelled_of_ofTags {tags : List Text} {ls : Locales} (h : ofTags tags = .ok ls) :
    ls.Spelled := by
  intro l hl
  obtain ⟨cell, -, -, hcell⟩ := exists_names_of_mem h hl
  exact Locale.spelled_of_ofTag hcell

end Locales

/-! ### Rows -/

namespace Row

theorem mem_of_mem_localizations {columns names : List Text} {locales : Locales}
    {entry : Locale × Text} (h : entry ∈ localizations columns names locales) :
    entry.1 ∈ locales.toList := by
  obtain ⟨place, hlocale, -⟩ := mem_localizations.1 h
  exact List.mem_of_getElem? hlocale

/-- **The definition of an accepted row is faithful**, if the locales of the row are spelled as in
tags. -/
theorem Draft.Accepts.faithful {locales : Locales} {columns : List Text} {line : Nat}
    {r : Registry} {d : Definition} (hlocales : locales.Spelled)
    (h : (ofColumns locales columns line).Accepts r d) : d.Faithful := by
  refine ⟨fun p hp => ?_, fun entry hentry => ?_⟩
  · obtain ⟨i, hi, rfl⟩ := List.getElem_of_mem hp
    obtain ⟨cell, -, hcell⟩ :=
      h.declaresParameters.types i d.placeholders[i] (List.getElem?_eq_getElem hi)
    exact ⟨cell, hcell⟩
  · rw [h.localizations_eq] at hentry
    exact hlocales _ (mem_of_mem_localizations hentry)

end Row

/-! ### Intakes -/

namespace Run

open Row

def Faithful (intake : Intake) : Prop := ∀ d ∈ intake.definitions.toList, d.Faithful

theorem faithful_empty : Faithful .empty := fun _ hd => nomatch hd

def Taking.Spelled : Taking → Prop
  | .row r => r.locales.Spelled
  | .skipped => True

theorem Taking.spelled_ofLine {locales : Locales} (h : locales.Spelled) (line : Nat)
    (text : Text) : (Taking.ofLine locales line text).Spelled := by
  rw [ofLine]
  cases columns? text with
  | none => exact trivial
  | some columns => exact h

/-- **What is taken in leaves an intake faithful.** -/
theorem Faithful.take {intake : Intake} (h : Faithful intake) {taking : Taking}
    (htaking : taking.Spelled) : Faithful (intake.take taking) := by
  cases taking with
  | skipped => exact h
  | row row =>
    rw [← Intake.commit_draft]
    rcases intake.commit_cases row.draft with ⟨definition, hacc, heq⟩ | ⟨heq, -⟩
    · rw [heq]
      intro d hd
      rw [Array.toList_push, List.mem_append, List.mem_singleton] at hd
      rcases hd with hd | rfl
      · exact h d hd
      · exact hacc.faithful htaking
    · rw [heq]
      exact h

theorem Faithful.foldl_take {intake : Intake} (h : Faithful intake) {ts : List Taking}
    (hts : ∀ t ∈ ts, t.Spelled) : Faithful (ts.foldl Intake.take intake) := by
  induction ts generalizing intake with
  | nil => exact h
  | cons t rest ih =>
    exact ih (h.take (hts t (List.mem_cons_self ..)))
      fun u hu => hts u (List.mem_cons_of_mem _ hu)

/-! ### Runs and sessions -/

theorem Faithful.takeIn {locales : Locales} (hlocales : locales.Spelled) {intake : Intake}
    (h : Faithful intake) (line : Nat) (fetches : List Fetch) :
    Faithful (takeIn locales line intake fetches).1 := by
  induction fetches generalizing line intake with
  | nil => exact h
  | cons fetch rest ih =>
    rw [Run.takeIn]
    split
    · exact h
    · split
      · exact h
      · next text _ =>
        rw [Intake.push_eq_take]
        exact ih (h.take (Taking.spelled_ofLine hlocales line text)) (line + 1)

theorem faithful_after {locales : Locales} (hlocales : locales.Spelled) (lines : List Text) :
    Faithful (after locales lines) := by
  rw [← foldl_take_ofLine]
  refine faithful_empty.foldl_take fun t ht => ?_
  obtain ⟨entry, -, rfl⟩ := List.mem_map.1 ht
  exact Taking.spelled_ofLine hlocales entry.2 entry.1

/-- A step of a session, with locales that are spelled as in tags if it has its own. -/
def Step.Spelled : Step → Prop
  | .prepare _ rowLocales _ _ => rowLocales.Spelled
  | _ => True

theorem spelled_of_prepared? {slot : Text} {earlier : List Step} {row : UnreadRow}
    (hearlier : ∀ step ∈ earlier, step.Spelled) (h : prepared? slot earlier = some row) :
    row.locales.Spelled := by
  induction earlier with
  | nil => cases h
  | cons step rest ih =>
    have hrest : ∀ step ∈ rest, step.Spelled := fun s hs => hearlier s (List.mem_cons_of_mem _ hs)
    cases step with
    | push line text => exact ih hrest h
    | skip => exact ih hrest h
    | prepare other rowLocales line columns =>
      rw [prepared?] at h
      split at h
      · cases h
        exact hearlier _ (List.mem_cons_self ..)
      · exact ih hrest h
    | commit other =>
      rw [prepared?] at h
      split at h
      · cases h
      · exact ih hrest h

theorem spelled_of_mem_takingsAfter {locales : Locales} (hlocales : locales.Spelled)
    {earlier steps : List Step} (hearlier : ∀ step ∈ earlier, step.Spelled)
    (hsteps : ∀ step ∈ steps, step.Spelled) :
    ∀ t ∈ takingsAfter locales earlier steps, t.Spelled := by
  induction steps generalizing earlier with
  | nil => exact fun t ht => nomatch ht
  | cons step rest ih =>
    intro t ht
    rw [takingsAfter, List.mem_append, Option.mem_toList] at ht
    rcases ht with ht | ht
    · cases step with
      | push line text =>
        cases ht
        exact Taking.spelled_ofLine hlocales line text
      | skip =>
        cases ht
        exact trivial
      | prepare slot rowLocales line columns => cases ht
      | commit slot =>
        obtain ⟨row, hrow, rfl⟩ := Option.map_eq_some_iff.1 ht
        exact spelled_of_prepared? hearlier hrow
    · refine ih ?_ (fun s hs => hsteps s (List.mem_cons_of_mem _ hs)) t ht
      intro s hs
      rcases List.mem_cons.1 hs with rfl | hs
      · exact hsteps s (List.mem_cons_self ..)
      · exact hearlier s hs

theorem faithful_run {locales : Locales} (hlocales : locales.Spelled) {steps : List Step}
    (hsteps : ∀ step ∈ steps, step.Spelled) : Faithful (Session.run locales steps).intake := by
  rw [intake_run]
  exact faithful_empty.foldl_take
    (spelled_of_mem_takingsAfter hlocales (fun _ hs => nomatch hs) hsteps)

/-- Definitions that a run or a session ends with.  Its locales are any that are spelled as in
tags, as those that tags name are (`Locales.spelled_of_ofTags`). -/
inductive Built (definitions : List Definition) : Prop
  /-- A run over lines or over a stream. -/
  | run {mode : Mode} {locales : Locales} {fetches : List Fetch} (spelled : locales.Spelled)
      (ended : (ofFetches mode locales fetches).outcome = .ok definitions) : Built definitions
  /-- A run that reads all rows first. -/
  | parallel {locales : Locales} {lines : List Text} (spelled : locales.Spelled)
      (ended : (ofLinesInParallel locales lines).outcome = .ok definitions) : Built definitions
  | session {locales : Locales} {steps : List Step} (spelled : locales.Spelled)
      (steps_spelled : ∀ step ∈ steps, step.Spelled)
      (ended : (Session.run locales steps).intake.finish.outcome = .ok definitions) :
      Built definitions

theorem Faithful.of_outcome {intake : Intake} (h : Faithful intake)
    {definitions : List Definition} (hended : intake.finish.outcome = .ok definitions) :
    ∀ d ∈ definitions, d.Faithful := by
  rw [Intake.outcome_finish] at hended
  split at hended
  · cases hended
  · cases hended
    exact h

/-- **Definitions that a run or a session ends with are faithful.** -/
theorem Built.faithful {definitions : List Definition} (h : Built definitions) :
    ∀ d ∈ definitions, d.Faithful := by
  cases h with
  | @run mode locales fetches spelled ended =>
    have htaken := Faithful.takeIn spelled faithful_empty 1 fetches
    rw [ofFetches] at ended
    cases htakeIn : takeIn locales 1 .empty fetches with
    | mk intake failure =>
      rw [htakeIn] at ended htaken
      cases failure with
      | none => exact htaken.of_outcome ended
      | some failure => cases ended
  | @parallel locales lines spelled ended =>
    rw [ofLinesInParallel, foldl_drafts, conclude_none] at ended
    exact (faithful_after spelled lines).of_outcome ended
  | session spelled steps_spelled ended =>
    exact (faithful_run spelled steps_spelled).of_outcome ended

theorem built_of_withTags {tags lines : List Text} {definitions : List Definition}
    (h : (withTags tags fun locales => ofLines locales lines).outcome = .ok definitions) :
    Built definitions := by
  rw [withTags] at h
  split at h
  · cases h
  · next locales hlocales => exact .run (Locales.spelled_of_ofTags hlocales) h

/-- **The snapshot loses nothing.**  Two lists of definitions that runs or sessions end with have
the same snapshot only if they are the same. -/
theorem snapshot_eq_iff {ds es : List Definition} (hds : Built ds) (hes : Built es) :
    snapshot ds = snapshot es ↔ ds = es :=
  ⟨eq_of_snapshot_eq hds.faithful hes.faithful, congrArg snapshot⟩

/-- A row with one placeholder of a type and a translation. -/
def typedLine (type : Text) : Text :=
  "1\tA\tI\t\t\x7ba\x7d\ta\t" ++ type ++ List.replicate 12 '\t' ++ "\x7ba\x7d ici"

def typed (type : ValueType) : Definition where
  id := 1
  name := "A"
  identifier := "A"
  level := .information
  hasException := false
  message := "\x7ba\x7d"
  placeholders := [⟨"a", type⟩]
  comment := none
  localizations := [(⟨"fr", none, some "FR", []⟩, "\x7ba\x7d ici")]
  warnings := []

theorem snapshot_eq_iff_typed :
    Built [typed .int32] ∧ Built [typed (.other "Integer")]
      ∧ snapshot [typed .int32] ≠ snapshot [typed (.other "Integer")] := by
  have hknown : Built [typed .int32] :=
    @built_of_withTags ["FR_fr"] [typedLine "int"] _ (by rfl)
  have hother : Built [typed (.other "Integer")] :=
    @built_of_withTags ["fr-FR"] [typedLine "Integer"] _ (by rfl)
  exact ⟨hknown, hother, fun h => absurd ((snapshot_eq_iff hknown hother).1 h) (by decide)⟩

end Run

end LogCatalog
