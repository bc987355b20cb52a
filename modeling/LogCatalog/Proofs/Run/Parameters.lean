import LogCatalog.Proofs.Row.Parameters
import LogCatalog.Proofs.Run.Lines

/-!
# Parameters of the definitions of a run

Whatever template of a definition is chosen, for whatever locale, it has the declared parameters in
the declared order.

* `parameters_of_ofLines`: each definition of a run declares the parameters of its row.
-/

namespace LogCatalog.Run

open Row

/-- **Each definition of a run comes from a row of the run and declares its parameters**: the
placeholders are those of the template and of every translation, and their types are those that the
row gives. -/
theorem parameters_of_ofLines {locales : Locales} {lines : List Text}
    {definitions : List Definition} {d : Definition}
    (hrun : (ofLines locales lines).outcome = .ok definitions) (hd : d ∈ definitions) :
    ∃ place columns, lines[place]?.bind columns? = some columns
      ∧ definitionAt? locales lines place = some d ∧ DeclaresParameters columns d := by
  obtain ⟨-, rfl⟩ := outcome_ofLines_eq_ok_iff.1 hrun
  rw [definitions_after] at hd
  obtain ⟨place, -, hyield⟩ := List.mem_filterMap.1 hd
  obtain ⟨columns, hcolumns, hacc⟩ := definitionAt?_eq_some_iff.1 hyield
  exact ⟨place, columns, hcolumns, hyield, hacc.declaresParameters⟩

/-- A row with two placeholders and a translation, after a comment. -/
def greetingLines : List Text :=
  ["# messages",
    "7\tAuth.Greeting\tInfo\t\tHello \x7buser\x7d, \x7bcount:N0\x7d new"
      ++ "\tUser\tstring\tcount\tint\t\t\t\t\t\t\t\t\t\t\x7buser\x7d a \x7bcount\x7d"]

def french : Locale := { language := "fr", script := none, region := none, variants := [] }

def frenchOnly : Locales := ⟨[french], by decide⟩

def greeting : Definition where
  id := 7
  name := "Auth.Greeting"
  identifier := "Auth_Greeting"
  level := .information
  hasException := false
  message := "Hello \x7buser\x7d, \x7bcount:N0\x7d new"
  placeholders := [⟨"user", .string⟩, ⟨"count", .int32⟩]
  comment := none
  localizations := [(french, "\x7buser\x7d a \x7bcount\x7d")]
  warnings := []

theorem parameters_of_ofLines_greeting :
    (ofLines frenchOnly greetingLines).outcome = .ok [greeting]
      ∧ ∃ place columns, greetingLines[place]?.bind columns? = some columns
        ∧ definitionAt? frenchOnly greetingLines place = some greeting
        ∧ DeclaresParameters columns greeting := by
  have hrun : (ofLines frenchOnly greetingLines).outcome = .ok [greeting] :=
    outcome_ofLines_eq_ok_iff.2 ⟨List.cons_ne_nil _ _, by decide +kernel⟩
  exact ⟨hrun, parameters_of_ofLines hrun (List.mem_singleton.2 rfl)⟩

end LogCatalog.Run
