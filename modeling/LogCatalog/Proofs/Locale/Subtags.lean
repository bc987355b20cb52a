import LogCatalog.Locale
import Mathlib.Data.List.Forall2

/-!
# What a locale is read from

A tag is read subtag by subtag, and each subtag has one part to play: the first one is the language,
at most one is a script, at most one after it is a region, and all others are variants.

* `ReadFrom`: the subtags of a tag, in the parts that they play for a locale.
* `readFrom_of_ofTag`: a locale that a tag names is read from its subtags in this way.
-/

namespace LogCatalog

theorem exists_of_forall₂_of_mem {α β : Type} {R : α → β → Prop} {xs : List α} {ys : List β}
    (h : List.Forall₂ R xs ys) {y : β} (hy : y ∈ ys) : ∃ x ∈ xs, R x y := by
  induction h with
  | nil => cases hy
  | @cons x y' xs ys hxy _ ih =>
    rcases List.mem_cons.1 hy with rfl | hy
    · exact ⟨x, List.mem_cons_self .., hxy⟩
    · obtain ⟨x', hx', hR⟩ := ih hy
      exact ⟨x', List.mem_cons_of_mem _ hx', hR⟩

namespace Locale

/-- Subtags are read one by one into what they are spelled as. -/
def Reads (read : Text → Option Text) : List Text → List Text → Prop :=
  List.Forall₂ fun s t => read s = some t

theorem reads_nil (read : Text → Option Text) : Reads read [] [] := List.Forall₂.nil

theorem reads_singleton {read : Text → Option Text} {s t : Text} (h : read s = some t) :
    Reads read [s] [t] := .cons h .nil

theorem mapM_eq_some_iff {read : Text → Option Text} {subtags spelled : List Text} :
    subtags.mapM read = some spelled ↔ Reads read subtags spelled := by
  induction subtags generalizing spelled with
  | nil =>
    rw [Reads, List.forall₂_nil_left_iff, List.mapM_nil]
    exact ⟨fun h => (Option.some.inj h).symm, fun h => congrArg some h.symm⟩
  | cons s rest ih =>
    rw [Reads, List.forall₂_cons_left_iff, List.mapM_cons]
    simp only [Option.bind_eq_bind, Option.bind_eq_some_iff, Option.pure_def, Option.some.injEq]
    constructor
    · rintro ⟨t, ht, more, hmore, rfl⟩
      exact ⟨t, more, ht, ih.1 hmore, rfl⟩
    · rintro ⟨t, more, ht, hmore, rfl⟩
      exact ⟨t, ht, more, ih.2 hmore, rfl⟩

/-- A locale is read from subtags: from a language, then at most one script, then at most one
region, then variants, which are put in order. -/
inductive ReadFrom (l : Locale) : List Text → Prop
  | intro {first : Text} {scripts regions variants spelled : List Text}
      (language : language? first = some l.language)
      (script : Reads script? scripts l.script.toList)
      (region : Reads region? regions l.region.toList)
      (variants_read : Reads variant? variants spelled)
      (variants_eq : l.variants = spelled.foldr insertVariant []) :
      ReadFrom l (first :: (scripts ++ (regions ++ variants)))

section

variable {first language : Text} {script region : Option Text} {l : Locale}
  {scripts regions subtags : List Text}

theorem readFrom_of_readVariants (hlanguage : language? first = some language)
    (hscript : Reads script? scripts script.toList)
    (hregion : Reads region? regions region.toList)
    (h : readVariants language script region subtags = some l) :
    l.ReadFrom (first :: (scripts ++ (regions ++ subtags))) := by
  rw [readVariants] at h
  obtain ⟨spelled, hspelled, rfl⟩ := Option.map_eq_some_iff.1 h
  exact .intro hlanguage hscript hregion (mapM_eq_some_iff.1 hspelled) rfl

theorem readFrom_of_readRegion (hlanguage : language? first = some language)
    (hscript : Reads script? scripts script.toList)
    (h : readRegion language script subtags = some l) :
    l.ReadFrom (first :: (scripts ++ subtags)) := by
  cases subtags with
  | nil =>
    rw [readRegion] at h
    exact readFrom_of_readVariants hlanguage hscript (reads_nil region?) h
  | cons s rest =>
    rw [readRegion] at h
    split at h
    · next r hr => exact readFrom_of_readVariants hlanguage hscript (reads_singleton hr) h
    · exact readFrom_of_readVariants hlanguage hscript (reads_nil region?) h

theorem readFrom_of_readScript (hlanguage : language? first = some language)
    (h : readScript language subtags = some l) : l.ReadFrom (first :: subtags) := by
  cases subtags with
  | nil =>
    rw [readScript] at h
    exact readFrom_of_readRegion hlanguage (reads_nil script?) h
  | cons s rest =>
    rw [readScript] at h
    split at h
    · next r hr => exact readFrom_of_readRegion hlanguage (reads_singleton hr) h
    · exact readFrom_of_readRegion hlanguage (reads_nil script?) h

end

variable {tag : Text} {l : Locale}

theorem ofTag_eq_ok_iff :
    ofTag tag = .ok l ↔ ∃ first rest language, tag.splitOnP isTagSeparator = first :: rest
      ∧ language? first = some language ∧ readScript language rest = some l := by
  rw [ofTag]
  constructor
  · intro h
    split at h
    · cases h
    · next first rest hsplit =>
      split at h
      · cases h
      · next language hlanguage =>
        split at h
        · cases h
        · next m hm =>
          cases h
          exact ⟨first, rest, language, hsplit, hlanguage, hm⟩
  · rintro ⟨first, rest, language, hsplit, hlanguage, hl⟩
    simp only [hsplit, hlanguage, hl]

/-- **A locale that a tag names is read from the subtags of the tag.** -/
theorem readFrom_of_ofTag (h : ofTag tag = .ok l) :
    l.ReadFrom (tag.splitOnP isTagSeparator) := by
  obtain ⟨first, rest, language, hsplit, hlanguage, hl⟩ := ofTag_eq_ok_iff.1 h
  rw [hsplit]
  exact readFrom_of_readScript hlanguage hl

end Locale

end LogCatalog
