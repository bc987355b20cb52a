import LogCatalog.Proofs.Row.Cells
import LogCatalog.Proofs.Run.Verdicts

/-!
# Lines that leave no trace

A line that yields no definition, because it has no row or because its row is rejected, could as
well be blank: nothing that comes of another line would change.

* `registryBefore_set`: the registry is the same before every line.
* `verdictAt?_set`: so is what becomes of every other line.
* `no_trace`: the definitions stay, and the log loses what was remarked on the line.
-/

namespace LogCatalog.Run

open Row

variable {locales : Locales} {lines : List Text} {place : Nat} {blank : Text}

theorem columns?_of_blank (h : Text.hasContent blank = false) : columns? blank = none :=
  columns?_eq_none_iff.2 (.inl (Text.trim_eq_nil_iff.1 (bne_eq_false_iff_eq.1 h)))

theorem verdictAt?_set_self (h : Text.hasContent blank = false) :
    verdictAt? locales (lines.set place blank) place = none := by
  have hrow : (lines.set place blank)[place]?.bind columns? = none := by
    rw [List.getElem?_set_self']
    cases lines[place]? with
    | none => rfl
    | some line => exact columns?_of_blank h
  rw [verdictAt?, draftAt?, hrow]
  rfl

/-- What a line yields depends on the lines before it only through the registry. -/
theorem definitionAt?_set (hblank : Text.hasContent blank = false)
    (hplace : definitionAt? locales lines place = none) {other : Nat}
    (hregistry : registryBefore locales (lines.set place blank) other
      = registryBefore locales lines other) :
    definitionAt? locales (lines.set place blank) other = definitionAt? locales lines other := by
  by_cases he : place = other
  · subst he
    rw [hplace, definitionAt?_eq_bind, verdictAt?_set_self hblank]
    rfl
  · rw [definitionAt?_eq_bind, definitionAt?_eq_bind,
      verdictAt?_congr (List.getElem?_set_ne he) hregistry]

/-- **A line that yields no definition leaves no trace in the registry.**  The induction is on the
place at which the registry is looked at: the lines before it yield the same, one by one. -/
theorem registryBefore_set (hblank : Text.hasContent blank = false)
    (hplace : definitionAt? locales lines place = none) (other : Nat) :
    registryBefore locales (lines.set place blank) other
      = registryBefore locales lines other := by
  induction other with
  | zero => rfl
  | succ other ih =>
    rw [registryBefore_succ, registryBefore_succ, definitionAt?_set hblank hplace ih, ih]

theorem verdictAt?_set (hblank : Text.hasContent blank = false)
    (hplace : definitionAt? locales lines place = none) {other : Nat} (h : other ≠ place) :
    verdictAt? locales (lines.set place blank) other = verdictAt? locales lines other :=
  verdictAt?_congr (List.getElem?_set_ne h.symm) (registryBefore_set hblank hplace other)

/-! ### The log -/

theorem loggedAt_of_none (h : definitionAt? locales lines place = none) :
    loggedAt locales lines place = diagnosticsAt locales lines place := by
  rw [loggedAt, if_pos h]

theorem loggedAt_set_self (h : Text.hasContent blank = false) :
    loggedAt locales (lines.set place blank) place = [] := by
  rw [loggedAt, definitionAt?_eq_bind, diagnosticsAt, verdictAt?_set_self h]
  rfl

theorem loggedAt_set (hblank : Text.hasContent blank = false)
    (hplace : definitionAt? locales lines place = none) {other : Nat} (h : other ≠ place) :
    loggedAt locales (lines.set place blank) other = loggedAt locales lines other := by
  rw [loggedAt, loggedAt, definitionAt?_set hblank hplace (registryBefore_set hblank hplace other),
    diagnosticsAt, diagnosticsAt, verdictAt?_set hblank hplace h]

/-- The log has what comes ahead of a line, what comes of the line, and what comes behind it. -/
theorem runLog_around (locales : Locales) (lines : List Text) (place : Nat) :
    (after locales lines).runLog.toList
      = (after locales (lines.take place)).runLog.toList ++ loggedAt locales lines place
        ++ (List.range lines.length).flatMap fun k => loggedAt locales lines (place + 1 + k) := by
  have hall : lines.take (place + 1 + lines.length) = lines :=
    List.take_of_length_le (Nat.le_add_left ..)
  calc (after locales lines).runLog.toList
      = (List.range (place + 1 + lines.length)).flatMap (loggedAt locales lines) := by
        rw [← runLog_take, hall]
    _ = (List.range place).flatMap (loggedAt locales lines) ++ loggedAt locales lines place
        ++ ((List.range lines.length).map (place + 1 + ·)).flatMap (loggedAt locales lines) := by
        rw [List.range_add, List.flatMap_append, List.range_succ, List.flatMap_append,
          List.flatMap_singleton]
    _ = _ := by rw [← runLog_take, List.flatMap_map]

/-- **A line without a definition leaves no trace.**  Where a line is skipped or its row is
rejected, a blank line in its place changes neither the definitions of the run nor what becomes of
any other line, and the log loses what was remarked on the line and nothing else. -/
theorem no_trace (hblank : Text.hasContent blank = false)
    (hplace : definitionAt? locales lines place = none) :
    (ofLines locales (lines.set place blank)).definitions = (ofLines locales lines).definitions
      ∧ (∀ other, other ≠ place →
          verdictAt? locales (lines.set place blank) other = verdictAt? locales lines other)
      ∧ ∃ behind,
          (after locales lines).runLog.toList
              = (after locales (lines.take place)).runLog.toList
                ++ diagnosticsAt locales lines place ++ behind
            ∧ (after locales (lines.set place blank)).runLog.toList
              = (after locales (lines.take place)).runLog.toList ++ behind := by
  refine ⟨?_, fun other h => verdictAt?_set hblank hplace h,
    (List.range lines.length).flatMap fun k => loggedAt locales lines (place + 1 + k), ?_, ?_⟩
  · rw [definitions_ofLines, definitions_ofLines, List.length_set]
    exact List.filterMap_congr fun other _ =>
      definitionAt?_set hblank hplace (registryBefore_set hblank hplace other)
  · rw [runLog_around locales lines place, loggedAt_of_none hplace]
  · have hbehind : ∀ k, loggedAt locales (lines.set place blank) (place + 1 + k)
        = loggedAt locales lines (place + 1 + k) :=
      fun k => loggedAt_set hblank hplace (by omega)
    rw [runLog_around locales (lines.set place blank) place, loggedAt_set_self hblank,
      List.take_set_of_le (Nat.le_refl place), List.length_set, List.append_nil]
    simp only [hbehind]

/-- Three rows, of which the second repeats the name of the first in lowercase. -/
def repeatedLines : List Text :=
  ["1\tAuth.Login\tInfo\t\tUser logs in" ++ List.replicate 12 '\t',
    "2\tauth.login\tInfo\t\tUser logs in again" ++ List.replicate 12 '\t',
    "3\tAuth.Logout\tInfo\t\tUser logs out" ++ List.replicate 12 '\t']

def noLocales : Locales := ⟨[], by decide⟩

theorem no_trace_repeatedLines :
    Text.hasContent " " = false ∧ definitionAt? noLocales repeatedLines 1 = none
      ∧ (diagnosticsAt noLocales repeatedLines 1).map Diagnostic.kind
        = [.duplicateName, .duplicateIdentifier]
      ∧ (ofLines noLocales (repeatedLines.set 1 " ")).definitions
        = (ofLines noLocales repeatedLines).definitions
      ∧ (∀ other, other ≠ 1 →
          verdictAt? noLocales (repeatedLines.set 1 " ") other
            = verdictAt? noLocales repeatedLines other)
      ∧ ∃ behind,
          (after noLocales repeatedLines).runLog.toList
              = (after noLocales (repeatedLines.take 1)).runLog.toList
                ++ diagnosticsAt noLocales repeatedLines 1 ++ behind
            ∧ (after noLocales (repeatedLines.set 1 " ")).runLog.toList
              = (after noLocales (repeatedLines.take 1)).runLog.toList ++ behind :=
  ⟨by decide, by decide +kernel, by decide +kernel, no_trace (by decide) (by decide +kernel)⟩

end LogCatalog.Run
