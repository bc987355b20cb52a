import LogCatalog.Proofs.Run.Steps
import LogCatalog.Run
import Mathlib.Data.List.Basic
import Mathlib.Data.List.Induction

/-!
# Lines of a run

A run over a list of lines, told line by line: what has been taken in after some lines, and what
the line at a place yields.

* `after`, `after_concat`: what a run has taken in, one line more at a time.
* `definitionAt?`: the definition that the line at a place yields.
* `definitions_after`: the definitions of a run are those that its lines yield, in their order.
* `outcome_ofLines_eq_ok_iff`: a run ends with its definitions if there are any.
-/

namespace LogCatalog.Run

open Row

def after (locales : Locales) (lines : List Text) : Intake :=
  (lines.zipIdx 1).foldl (fun intake entry => intake.push locales entry.2 entry.1) .empty

theorem after_concat (locales : Locales) (lines : List Text) (text : Text) :
    after locales (lines ++ [text])
      = (after locales lines).push locales (lines.length + 1) text := by
  rw [after, List.zipIdx_append, List.foldl_append, List.zipIdx_singleton, Nat.add_comm 1]
  rfl

theorem takeIn_append (locales : Locales) (line : Nat) (intake : Intake) (lines : List Text)
    (more : List Fetch) :
    takeIn locales line intake (Fetch.ofLines (fun _ => false) lines ++ more)
      = takeIn locales (line + lines.length)
          ((lines.zipIdx line).foldl
            (fun intake entry => intake.push locales entry.2 entry.1) intake) more := by
  induction lines generalizing line intake with
  | nil => rfl
  | cons text rest ih =>
    rw [Fetch.ofLines, List.mapIdx_cons, List.cons_append, takeIn, if_neg Bool.false_ne_true,
      List.length_cons, List.zipIdx_cons, List.foldl_cons, Nat.add_comm rest.length,
      ← Nat.add_assoc]
    exact ih (line + 1) (intake.push locales line text)

theorem takeIn_ofLines (locales : Locales) (line : Nat) (intake : Intake) (lines : List Text) :
    takeIn locales line intake (Fetch.ofLines (fun _ => false) lines)
      = ((lines.zipIdx line).foldl
          (fun intake entry => intake.push locales entry.2 entry.1) intake, none) := by
  rw [← List.append_nil (Fetch.ofLines _ lines), takeIn_append]
  rfl

theorem ofLines_eq (locales : Locales) (lines : List Text) :
    ofLines locales lines = conclude locales .sequential (after locales lines, none) := by
  rw [ofLines, ofLinesCancellable, ofFetches, takeIn_ofLines]
  rfl

/-- A run ends with its definitions if there are any. -/
theorem outcome_ofLines_eq_ok_iff {locales : Locales} {lines : List Text}
    {definitions : List Definition} :
    (ofLines locales lines).outcome = .ok definitions ↔
      definitions ≠ [] ∧ (after locales lines).definitions.toList = definitions := by
  rw [ofLines_eq, conclude, Intake.finish]
  dsimp only
  split
  · next hempty =>
    rw [Array.isEmpty_iff] at hempty
    rw [hempty]
    constructor
    · intro h
      cases h
    · rintro ⟨hne, hnil⟩
      exact absurd hnil.symm hne
  · next hne =>
    rw [Array.isEmpty_iff, ← Array.toList_eq_nil_iff] at hne
    constructor
    · intro h
      cases h
      exact ⟨hne, rfl⟩
    · rintro ⟨-, hdefs⟩
      rw [hdefs]

/-! ### What a line yields -/

/-- The definition that the line at a place yields, if it has a row and the row is accepted. -/
def definitionAt? (locales : Locales) (lines : List Text) (place : Nat) : Option Definition :=
  (lines[place]?.bind columns?).bind fun columns =>
    (validate locales columns (place + 1) (after locales (lines.take place)).registry).1.definition?

theorem definitionAt?_eq_some_iff {locales : Locales} {lines : List Text} {place : Nat}
    {d : Definition} :
    definitionAt? locales lines place = some d ↔
      ∃ columns, lines[place]?.bind columns? = some columns
        ∧ (Draft.ofColumns locales columns (place + 1)).Accepts
            (after locales (lines.take place)).registry d := by
  rw [definitionAt?, Option.bind_eq_some_iff]
  exact exists_congr fun columns => and_congr_right fun _ => Draft.definition?_commit_eq_some_iff

/-- What a line yields does not depend on later lines. -/
theorem definitionAt?_append {locales : Locales} {lines : List Text} {place : Nat}
    (h : place < lines.length) (more : List Text) :
    definitionAt? locales (lines ++ more) place = definitionAt? locales lines place := by
  rw [definitionAt?, definitionAt?, List.getElem?_append_left h,
    List.take_append_of_le_length (Nat.le_of_lt h)]

theorem Intake.definitions_record (intake : Intake) (line : Nat) (judged : Verdict × Registry) :
    (intake.record line judged).definitions.toList
      = intake.definitions.toList ++ judged.1.definition?.toList := by
  obtain ⟨⟨_ | definition, notes⟩, registry⟩ := judged
  · exact (List.append_nil _).symm
  · exact Array.toList_push

theorem definitions_concat (locales : Locales) (lines : List Text) (text : Text) :
    (after locales (lines ++ [text])).definitions.toList
      = (after locales lines).definitions.toList
        ++ (definitionAt? locales (lines ++ [text]) lines.length).toList := by
  rw [after_concat, Intake.push, definitionAt?, List.getElem?_concat_length, Option.bind_some,
    List.take_left]
  cases columns? text with
  | none => exact (List.append_nil _).symm
  | some columns => exact Intake.definitions_record ..

/-- **The definitions of a run are those that its lines yield, in their order.** -/
theorem definitions_after (locales : Locales) (lines : List Text) :
    (after locales lines).definitions.toList
      = (List.range lines.length).filterMap (definitionAt? locales lines) := by
  induction lines using List.reverseRecOn with
  | nil => rfl
  | append_singleton lines text ih =>
    have hearlier : (List.range lines.length).filterMap (definitionAt? locales lines)
        = (List.range lines.length).filterMap (definitionAt? locales (lines ++ [text])) :=
      List.filterMap_congr fun place hplace =>
        (definitionAt?_append (List.mem_range.1 hplace) [text]).symm
    rw [definitions_concat, ih, hearlier, List.length_append, List.length_singleton,
      List.range_succ, List.filterMap_append]
    rfl

end LogCatalog.Run
