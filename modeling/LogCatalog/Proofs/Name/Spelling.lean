import LogCatalog.Proofs.Name.Idempotence

/-!
# Texts that are names

Which trimmed labels are names already can be told from their characters, without cutting them into
clusters.  Of the characters of a name only the marks join a cluster that a dot has begun, so a dot
stays what it is unless a mark follows it at once.

* `NameSpelling`: the texts that are names, character by character.
* `nameSpelling_iff`: they are the texts in NFC with the shape of a name.
* `name_eq_of_unchanged`: a label in which nothing is changed is its own name.
* `unchanged_iff_nameSpelling`: three ways to say that a label is a name.
-/

namespace LogCatalog

open Unicode
open ClusterState (bound)

set_option maxRecDepth 16384

/-! ### Characters after a dot -/

/-- A text in NFC that begins with an underscore or the start of an identifier, goes on with dots
and characters of identifiers, and has no mark right behind a dot. -/
structure NameSpelling (t : Text) : Prop where
  normalized : normalize .nfc t = t
  starts : ∃ c rest, t = c :: rest ∧ (c = '_' ∨ isIdentifierStart c = true)
    ∧ ∀ d ∈ rest, d = '.' ∨ isIdentifierContinue d = true
  dots : t.IsChain fun c d =>
    c = '.' → graphemeBreak d ≠ .extend ∧ graphemeBreak d ≠ .spacingMark

theorem bound_other_eq_false_iff {x : GraphemeBreak} :
    bound .other x = false ↔ x ≠ .extend ∧ x ≠ .zwj ∧ x ≠ .spacingMark := by
  cases x <;> decide

theorem graphemeBreak_ne_of_name {c : Char} (h : c = '.' ∨ isIdentifierContinue c = true) :
    graphemeBreak c ≠ .prepend ∧ graphemeBreak c ≠ .zwj := by
  rcases h with rfl | h
  · rw [graphemeBreak_dot]
    decide
  · exact ⟨graphemeBreak_ne_prepend h, graphemeBreak_ne_zwj h⟩

/-- Among the characters of a name, only a mark is bound to a dot, and only to one before it. -/
theorem dotsApart_iff {t : Text} (h : ∀ c ∈ t, c = '.' ∨ isIdentifierContinue c = true) :
    DotsApart t ↔ t.IsChain fun c d =>
      c = '.' → graphemeBreak d ≠ .extend ∧ graphemeBreak d ≠ .spacingMark := by
  refine List.IsChain.iff_of_mem_imp fun c d hc hd => ?_
  have hdot : bound .other (graphemeBreak d) = false ↔
      graphemeBreak d ≠ .extend ∧ graphemeBreak d ≠ .spacingMark := by
    rw [bound_other_eq_false_iff, and_iff_right (graphemeBreak_ne_of_name (h d hd)).2]
  constructor
  · rintro hapart rfl
    exact hdot.1 (hapart (.inl rfl))
  · rintro hmarks (rfl | rfl)
    · exact hdot.2 (hmarks rfl)
    · exact bound_other (graphemeBreak_ne_of_name (h c hc)).1

theorem isNameStart_iff {c : Char} :
    isNameStart c = true ↔ c = '_' ∨ isIdentifierStart c = true := by
  rw [isNameStart, Bool.or_eq_true, beq_iff_eq]

/-- **A text is spelled as a name if it is in NFC and has the shape of one.** -/
theorem nameSpelling_iff {t : Text} :
    NameSpelling t ↔ normalize .nfc t = t ∧ NameShaped t := by
  constructor
  · rintro ⟨hnormal, ⟨c, rest, rfl, hc, hrest⟩, hdots⟩
    have hstart : isNameStart c = true := isNameStart_iff.2 hc
    have hcontinues : ∀ d ∈ c :: rest, d = '.' ∨ isIdentifierContinue d = true :=
      List.forall_mem_cons.2 ⟨.inr (isIdentifierContinue_of_nameStart hstart), hrest⟩
    exact ⟨hnormal, ⟨c, rest, rfl, hstart⟩, hcontinues, (dotsApart_iff hcontinues).2 hdots⟩
  · rintro ⟨hnormal, hshape⟩
    obtain ⟨c, rest, rfl, hc⟩ := hshape.starts
    exact ⟨hnormal,
      ⟨c, rest, rfl, isNameStart_iff.1 hc, (List.forall_mem_cons.1 hshape.continues).2⟩,
      (dotsApart_iff hshape.continues).1 hshape.dotsApart⟩

/-! ### Labels in which nothing is changed -/

namespace NamePiece

theorem name_leading_of_unchanged {cluster : Text} (h : (leading cluster).change? = none) :
    (leading cluster).name = cluster := by
  rcases leading_cases cluster with ⟨base, marks, -, -, -, hpiece⟩ | hpiece
  · rw [hpiece]
    rfl
  · rw [hpiece] at h
    cases h

theorem name_inner_of_unchanged {cluster : Text} (h : (inner cluster).change? = none) :
    (inner cluster).name = cluster := by
  rcases inner_cases cluster with ⟨rfl, hpiece⟩ | ⟨-, hpiece⟩ | hpiece
  · rw [hpiece]
    rfl
  · rw [hpiece]
    rfl
  · rw [hpiece] at h
    cases h

theorem map_name_of_unchanged {pieces : List Text}
    (h : (ofClusters pieces).filterMap change? = []) : (ofClusters pieces).map name = pieces := by
  cases pieces with
  | nil => rfl
  | cons first rest =>
    rw [ofClusters, List.filterMap_eq_nil_iff, List.forall_mem_cons, List.forall_mem_map] at h
    have hrest : ∀ cluster ∈ rest, (name ∘ inner) cluster = id cluster :=
      fun cluster hcluster => name_inner_of_unchanged (h.2 cluster hcluster)
    rw [ofClusters, List.map_cons, name_leading_of_unchanged h.1, List.map_map,
      List.map_congr_left hrest, List.map_id]

end NamePiece

namespace CanonicalName

/-- A label in which nothing is changed is its own name. -/
theorem name_eq_of_unchanged {t : Text} (h : (ofTrimmed t).changes = []) :
    (ofTrimmed t).name = t := by
  change (if normalize .nfc t = t then [] else _)
    ++ (NamePiece.ofClusters (clusters (normalize .nfc t))).filterMap NamePiece.change? = [] at h
  obtain ⟨hrespelled, hreplaced⟩ := List.append_eq_nil_iff.1 h
  have hnormal : normalize .nfc t = t := by
    by_contra hne
    rw [if_neg hne] at hrespelled
    cases hrespelled
  rw [name_ofTrimmed, NamePiece.map_name_of_unchanged hreplaced, flatten_clusters, hnormal]

theorem nameSpelling_of_name_eq {t : Text} (hne : t ≠ []) (h : (ofTrimmed t).name = t) :
    NameSpelling t := by
  have hnormal := normalize_name t
  have hshape := nameShaped_name hne
  rw [h] at hnormal hshape
  exact nameSpelling_iff.2 ⟨hnormal, hshape⟩

/-- **Which labels are names.**  A label leads to a name without changes exactly if the trimmed
label is that name, and exactly if the trimmed label is in NFC, begins with an underscore or the
start of an identifier, goes on with dots and characters of identifiers, and has no mark right
behind a dot. -/
theorem unchanged_iff_nameSpelling (label : Text) :
    ((∃ n, ofLabel? label = some n ∧ n.changes = []) ↔
        ∃ n, ofLabel? label = some n ∧ n.name = Text.trim label)
      ∧ ((∃ n, ofLabel? label = some n ∧ n.changes = []) ↔ NameSpelling (Text.trim label)) := by
  have hname : (∃ n, ofLabel? label = some n ∧ n.changes = []) →
      ∃ n, ofLabel? label = some n ∧ n.name = Text.trim label := by
    rintro ⟨n, hn, hchanges⟩
    refine ⟨n, hn, ?_⟩
    obtain ⟨-, rfl⟩ := ofLabel?_eq_some_iff.1 hn
    exact name_eq_of_unchanged hchanges
  have hspelling : (∃ n, ofLabel? label = some n ∧ n.name = Text.trim label) →
      NameSpelling (Text.trim label) := by
    rintro ⟨n, hn, heq⟩
    obtain ⟨hne, rfl⟩ := ofLabel?_eq_some_iff.1 hn
    exact nameSpelling_of_name_eq hne heq
  have hunchanged : NameSpelling (Text.trim label) →
      ∃ n, ofLabel? label = some n ∧ n.changes = [] := by
    intro h
    obtain ⟨hnormal, hshape⟩ := nameSpelling_iff.1 h
    exact ⟨_, ofLabel?_eq_some_iff.2 ⟨hshape.ne_nil, rfl⟩,
      (unchanged_of_nameShaped hnormal hshape).2⟩
  exact ⟨⟨hname, hunchanged ∘ hspelling⟩, ⟨hspelling ∘ hname, hunchanged⟩⟩

end CanonicalName

end LogCatalog
