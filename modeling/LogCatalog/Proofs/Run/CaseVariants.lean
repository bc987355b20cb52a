import LogCatalog.Proofs.Run.FirstAccepted
import LogCatalog.Proofs.Unicode.CaseVariants

/-!
# Definitions whose labels differ in case

No two definitions of a run share a label in lowercase.  That is less than having labels that differ
in more than case: the lowercase form tells a capital sigma that ends a word from a small sigma.

* `pairwise_sigmaApart`: definitions with labels that differ in case only are apart in a sigma.
* `takenAt_caseVariant_iff`: an accepted row takes every case variant of its labels that is not
  apart in a sigma.
* `case_variants_of_run`: both together.
-/

namespace LogCatalog.Run

open Row
open Unicode (lowercase CaseVariants SigmaApart)

set_option maxRecDepth 16384

variable {locales : Locales} {lines : List Text} {place : Nat} {label : Label} {text : Text}

/-- The labels of two definitions of a run are no case variants, or a sigma sets them apart. -/
theorem pairwise_sigmaApart (locales : Locales) (lines : List Text) (label : Label) :
    (ofLines locales lines).definitions.Pairwise fun d e =>
      CaseVariants (label.ofDefinition d) (label.ofDefinition e) →
        SigmaApart (label.ofDefinition d) (label.ofDefinition e) := by
  rw [definitions_ofLines, List.pairwise_filterMap]
  refine List.pairwise_lt_range.imp fun {first second} hlt d hd e he hvariants => ?_
  by_contra hapart
  have hkey : lowercase (label.ofDefinition d) = lowercase (label.ofDefinition e) :=
    (Unicode.lowercase_eq_iff hvariants).2 hapart
  have hsame : second = first := takenAt_unique ⟨d, hd, hkey⟩ ⟨e, he, rfl⟩
  exact Nat.ne_of_gt hlt hsame

theorem takenAt_caseVariant_iff {d : Definition} (h : definitionAt? locales lines place = some d)
    (hvariants : CaseVariants (label.ofDefinition d) text) :
    TakenAt locales lines label text place ↔ ¬ SigmaApart (label.ofDefinition d) text := by
  rw [takenAt_iff h, eq_comm, Unicode.lowercase_eq_iff hvariants]

/-- **Labels that differ in case only are kept apart by a sigma and by nothing else.**  Where two
definitions of a run have names, or identifiers, that become equal when every single character is
made lowercase, one of the two has a capital sigma that ends a word and the other a small sigma in
its place.  And such a sigma is all it takes: an accepted row takes exactly those case variants of
its labels in which no sigma is of this kind. -/
theorem case_variants_of_run (locales : Locales) (lines : List Text) (label : Label) :
    ((ofLines locales lines).definitions.Pairwise fun d e =>
        CaseVariants (label.ofDefinition d) (label.ofDefinition e) →
          SigmaApart (label.ofDefinition d) (label.ofDefinition e))
      ∧ ∀ place d, definitionAt? locales lines place = some d →
          ∀ text, CaseVariants (label.ofDefinition d) text →
            (TakenAt locales lines label text place ↔
              ¬ SigmaApart (label.ofDefinition d) text) :=
  ⟨pairwise_sigmaApart locales lines label,
    fun _ _ hplace _ hvariants => takenAt_caseVariant_iff hplace hvariants⟩

/-- Two rows whose names differ in case only, and a word ends in the last letter. -/
def sigmaLines : List Text :=
  ["1\tΑΣ\tInfo\t\tUser logs in" ++ List.replicate 12 '\t',
    "2\tασ\tInfo\t\tUser logs out" ++ List.replicate 12 '\t']

/-- Labels are not unique without regard to case: both rows are accepted. -/
theorem not_pairwise_not_caseVariants :
    ¬ (ofLines ⟨[], by decide⟩ sigmaLines).definitions.Pairwise
        (fun d e => ¬ CaseVariants d.name e.name)
      ∧ ¬ (ofLines ⟨[], by decide⟩ sigmaLines).definitions.Pairwise
        fun d e => ¬ CaseVariants d.identifier e.identifier := by
  decide

end LogCatalog.Run
