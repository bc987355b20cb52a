import LogCatalog.Level
import LogCatalog.Proofs.Text.Trimming
import LogCatalog.Proofs.Unicode.CanonicalOrder
import LogCatalog.Proofs.Unicode.Parts

/-!
# Levels and first characters

A cell is decomposed as a whole before its first character is read, and decomposing moves marks.
But a letter that stands for a level is no mark: it neither moves nor lets another character pass.
So the first character of a cell alone tells the level.

* `Unicode.compatibilityPoints_ne_nil`: a character stands for at least one character.
* `Level.bind_head?_reorder`: reordering brings no letter of a level to the front of a text and
  takes none away from there.
* `Level.ofCell?_eq_ofCell?_singleton`: a cell names the level that its first character names.
-/

set_option maxRecDepth 16384

namespace LogCatalog

namespace Unicode

theorem normalize_nfkd (t : Text) :
    normalize .nfkd t = reorder (t.flatMap (decomposition true)) := rfl

theorem compatibilityPoints_ne_nil (n : Nat) : compatibilityPoints n ≠ [] := by
  have hrows : compatibilityExpansions.all (fun row => !row.2.isEmpty) = true := by rfl
  rw [compatibilityPoints, lookUp]
  cases compatibilitySingletonMap.find? n with
  | some found =>
    obtain ⟨i, target⟩ := found
    exact List.cons_ne_nil _ _
  | none =>
    cases hfound : compatibilityExpansionMap.find? n with
    | some found =>
      obtain ⟨i, points⟩ := found
      have hrow := List.all_eq_true.1 hrows _ (RangeMap.find?_ofPoints hfound)
      simpa using hrow
    | none => exact canonicalPoints_ne_nil n

/-- The first of the marks. -/
def firstMark : Nat := 0x300

theorem isStarter_of_lt {c : Char} (h : c.toNat < firstMark) : isStarter c = true := by
  have hrows : combiningClassRows.all (fun row => firstMark ≤ row.1) = true := by rfl
  cases hc : isStarter c with
  | true => rfl
  | false =>
    obtain ⟨row, hrow, hfirst, -⟩ := exists_row_of_mark hc
    have hle := List.all_eq_true.1 hrows row hrow
    rw [decide_eq_true_eq] at hle
    omega

end Unicode

namespace Level

open Unicode

theorem toNat_le_of_ofCapital? {c : Char} {level : Level} (h : ofCapital? c = some level) :
    c.toNat ≤ 'W'.toNat := by
  unfold ofCapital? at h
  split at h
  any_goals decide
  cases h

theorem isStarter_of_ofCapital? {c : Char} {level : Level} (h : ofCapital? c = some level) :
    isStarter c = true :=
  isStarter_of_lt (Nat.lt_of_le_of_lt (toNat_le_of_ofCapital? h) (by decide))

theorem ofCapital?_ofNat_of_lt {n : Nat} (h : 'W'.toNat < n) : ofCapital? (Char.ofNat n) = none := by
  by_cases hvalid : n.isValidChar
  · cases hlevel : ofCapital? (Char.ofNat n) with
    | none => rfl
    | some level =>
      have hle := toNat_le_of_ofCapital? hlevel
      rw [toNat_ofNat hvalid] at hle
      exact absurd hle (Nat.not_le.2 h)
  · rw [Char.ofNat, dif_neg hvalid]
    rfl

/-- A letter that stands for a level keeps its place: where its capital is an ASCII letter, it
comes before every mark. -/
theorem isStarter_of_ofInitial? {c : Char} {level : Level} (h : ofInitial? c = some level) :
    isStarter c = true := by
  have hrows : uppercaseRows.all (fun row =>
      'W'.toNat < row.2.2.2 ∨ row.1 ≤ row.2.1 ∧ row.2.1 < firstMark) = true := by
    rfl
  have hexpansions : uppercaseExpansions.all (fun row => isStarter (Char.ofNat row.1)) = true := by
    rfl
  rw [ofInitial?] at h
  rcases uppercaseChar_cases c with ⟨points, hmem, -⟩ | hcapital
  · simpa using List.all_eq_true.1 hexpansions _ hmem
  rw [hcapital, List.head?_cons, Option.bind_some] at h
  rcases RangeMap.shift_ofRows_cases uppercaseRows c with hself | ⟨row, hrow, i, hi, -, hn, hshift⟩
  · exact isStarter_of_ofCapital? (hself ▸ h)
  · have hbound := List.all_eq_true.1 hrows row hrow
    rw [decide_eq_true_eq] at hbound
    -- Runs of greater capitals stand for no level, and all others lie before the first mark.
    rcases hbound with hlarge | ⟨hle, hlast⟩
    · rw [uppercaseRuns, hshift, ofCapital?_ofNat_of_lt (Nat.lt_add_right i hlarge)] at h
      cases h
    · exact isStarter_of_lt (by omega)

theorem ofInitial?_of_mark {c : Char} (h : isStarter c = false) : ofInitial? c = none := by
  cases hlevel : ofInitial? c with
  | none => rfl
  | some level =>
    rw [isStarter_of_ofInitial? hlevel] at h
    cases h

/-- **Reordering changes no level.**  A starter stays in front; and where a mark stands in front,
only a mark can take its place. -/
theorem bind_head?_reorder (c : Char) (t : Text) :
    (reorder (c :: t)).head?.bind ofInitial? = ofInitial? c := by
  cases hc : isStarter c with
  | true => rw [head?_reorder_of_starter hc, Option.bind_some]
  | false =>
    obtain ⟨d, hd, hmark⟩ := exists_head?_reorder_of_mark hc t
    rw [hd, Option.bind_some, ofInitial?_of_mark hmark, ofInitial?_of_mark hc]

/-- The level of a text hangs on the first of the characters that its first character stands
for. -/
theorem exists_bind_initial?_cons (c : Char) :
    ∃ d, ∀ rest, (initial? (c :: rest)).bind ofInitial? = ofInitial? d := by
  cases hparts : decomposition true c with
  | nil =>
    rw [decomposition, if_pos rfl] at hparts
    exact absurd (List.map_eq_nil_iff.1 hparts) (compatibilityPoints_ne_nil c.toNat)
  | cons d more =>
    refine ⟨d, fun rest => ?_⟩
    rw [initial?, normalize_nfkd, List.flatMap_cons, hparts, List.cons_append, bind_head?_reorder]

/-- **A cell names the level that its first character names**, whatever follows: marks that belong
to the character, or marks that change places with it. -/
theorem ofCell?_eq_ofCell?_singleton {cell rest : Text} {c : Char}
    (h : Text.trim cell = c :: rest) : ofCell? cell = ofCell? [c] := by
  have hfirst : Text.trim [c] = [c] := by
    have hc : Text.isBlank c = false := Text.head?_strip (t := cell) (congrArg List.head? h)
    exact Text.strip_eq_self fun d hd => List.mem_singleton.1 hd ▸ hc
  obtain ⟨d, hd⟩ := exists_bind_initial?_cons c
  rw [ofCell?, ofCell?, h, hfirst, hd, hd]

theorem ofCell?_eq_ofCell?_singleton_marks :
    Text.trim " \u0301\u0316crit" = '\u0301' :: "\u0316crit"
      ∧ initial? "\u0301\u0316crit" ≠ initial? ['\u0301']
      ∧ ofCell? " \u0301\u0316crit" = ofCell? ['\u0301'] :=
  ⟨by rfl, by decide, ofCell?_eq_ofCell?_singleton (by rfl)⟩

/-- A mark of a lower class moves in front of the accent, but not of the letter. -/
example : ofCell? "\t\u00C9\u0316rreur" = some error ∧ ofCell? ['\u00C9'] = some error :=
  ⟨by rfl, by rfl⟩

end Level

end LogCatalog
