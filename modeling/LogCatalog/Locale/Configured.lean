import LogCatalog.Locale
import LogCatalog.Text.Blank

/-!
# Configured locales

The locales of a catalog, in the order of their columns and without repetition.

* `Locales.ofTags`: reads a list of tags.
* `Locales.ofList_eq_ok_iff`: a list of locales is accepted exactly if nothing in it repeats.
-/

namespace LogCatalog

inductive LocalesFault where
  | blank (position : Nat)
  | invalid (tag : Text) (fault : TagFault)
  | duplicate (locale : Locale)
  deriving DecidableEq, Repr

def LocalesFault.message : LocalesFault → Text
  | blank position => "locale tag at position " ++ Text.ofNat position ++ " is blank"
  | invalid tag fault => "invalid locale '" ++ tag ++ "': " ++ fault.message
  | duplicate locale => "There are duplicated locales: '" ++ locale.tag ++ "'."

/-- A list of locales without repetition. -/
structure Locales where
  toList : List Locale
  nodup : toList.Nodup
  deriving DecidableEq, Repr

namespace Locales

def empty : Locales := ⟨[], List.nodup_nil⟩

def length (ls : Locales) : Nat := ls.toList.length

def tags (ls : Locales) : List Text := ls.toList.map Locale.tag

/-- The first locale of a list that occurs before, in the list or among those seen. -/
def firstRepeat? (seen : List Locale) : List Locale → Option Locale
  | [] => none
  | l :: rest => if l ∈ seen then some l else firstRepeat? (l :: seen) rest

theorem firstRepeat?_eq_none_iff {seen list : List Locale} :
    firstRepeat? seen list = none ↔ list.Nodup ∧ ∀ l ∈ list, l ∉ seen := by
  induction list generalizing seen with
  | nil => simp [firstRepeat?]
  | cons l rest ih =>
    rw [firstRepeat?]
    split
    · next h => simp [h]
    · next h =>
      rw [ih]
      simp only [List.nodup_cons, List.mem_cons, not_or, forall_eq_or_imp]
      constructor
      · rintro ⟨hn, hs⟩
        exact ⟨⟨fun hl => (hs l hl).1 rfl, hn⟩, h, fun m hm => (hs m hm).2⟩
      · rintro ⟨⟨hl, hn⟩, _, hs⟩
        exact ⟨hn, fun m hm => ⟨fun e => hl (e ▸ hm), hs m hm⟩⟩

/-- Takes a list of locales, unless one of them repeats an earlier one. -/
def ofList (list : List Locale) : Except LocalesFault Locales :=
  match h : firstRepeat? [] list with
  | some l => .error (.duplicate l)
  | none => .ok ⟨list, (firstRepeat?_eq_none_iff.1 h).1⟩

/-- Reads tags, of which the first has the given position. -/
def readTags (position : Nat) : List Text → Except LocalesFault (List Locale)
  | [] => .ok []
  | cell :: rest =>
    let tag := Text.trim cell
    if tag = [] then .error (.blank position)
    else
      match Locale.ofTag tag with
      | .error fault => .error (.invalid tag fault)
      | .ok l => (readTags (position + 1) rest).map (l :: ·)

def ofTags (tags : List Text) : Except LocalesFault Locales := (readTags 0 tags).bind ofList

theorem ofList_eq_ok_iff {list : List Locale} {ls : Locales} :
    ofList list = .ok ls ↔ ls.toList = list := by
  rw [ofList]
  split
  · next l h =>
    constructor
    · intro h'
      cases h'
    · rintro rfl
      rw [firstRepeat?_eq_none_iff.2 ⟨ls.nodup, by simp⟩] at h
      cases h
  · constructor
    · rintro h'
      cases h'
      rfl
    · rintro rfl
      rfl

end Locales

end LogCatalog
