import LogCatalog.Name
import LogCatalog.Proofs.Unicode.Stability

/-!
# Identifiers of names

The name and the identifier of a label are put together from the same pieces, one for each cluster,
and a piece differs in the two only where it is a dot.

* `Canonical`: what a name and its identifier are made of.
* `canonical_ofTrimmed`: every label that is not empty leads to such a pair.
* `identifier_of_label`: exactly the blank labels have no name, and every name has an identifier
  that is the name with underscores for its dots.
-/

namespace LogCatalog

open Unicode

set_option maxRecDepth 16384

/-! ### Characters of names -/

theorem isIdentifierContinue_of_nameStart {c : Char} (h : isNameStart c = true) :
    isIdentifierContinue c = true := by
  rw [isNameStart, Bool.or_eq_true, beq_iff_eq] at h
  rcases h with rfl | h
  · rfl
  · exact isIdentifierContinue_of_start h

theorem ne_dot_of_isIdentifierContinue {c : Char} (h : isIdentifierContinue c = true) :
    c ≠ '.' := by
  rintro rfl
  cases h

/-- A character of an identifier for one of a name. -/
def undotted (c : Char) : Char := if c = '.' then '_' else c

theorem undotted_of_ne {c : Char} (h : c ≠ '.') : undotted c = c := if_neg h

theorem isIdentifierContinue_undotted {c : Char} (h : c = '.' ∨ isIdentifierContinue c = true) :
    isIdentifierContinue (undotted c) = true := by
  rcases h with rfl | h
  · exact isIdentifierContinue_of_nameStart (by rfl)
  · rwa [undotted_of_ne (ne_dot_of_isIdentifierContinue h)]

theorem map_undotted {t : Text} (h : ∀ c ∈ t, isIdentifierContinue c = true) :
    t.map undotted = t := by
  have hself : ∀ c ∈ t, undotted c = id c := fun c hc =>
    undotted_of_ne (ne_dot_of_isIdentifierContinue (h c hc))
  rw [List.map_congr_left hself, List.map_id]

theorem isNameCluster_iff {allowed : Char → Bool} {cluster : Text} :
    isNameCluster allowed cluster = true ↔
      ∃ base marks, cluster = base :: marks ∧ allowed base = true
        ∧ ∀ c ∈ marks, isIdentifierContinue c = true := by
  cases cluster with
  | nil => simp [isNameCluster]
  | cons base marks => simp [isNameCluster, List.all_eq_true]

/-! ### Pieces -/

namespace NamePiece

theorem leading_cases (cluster : Text) :
    (∃ base marks, cluster = base :: marks ∧ isNameStart base = true
        ∧ (∀ c ∈ marks, isIdentifierContinue c = true) ∧ leading cluster = kept cluster)
      ∨ leading cluster = replaced cluster true := by
  rw [leading]
  split
  · next h =>
    obtain ⟨base, marks, hcluster, hbase, hmarks⟩ := isNameCluster_iff.1 h
    exact .inl ⟨base, marks, hcluster, hbase, hmarks, rfl⟩
  · exact .inr rfl

theorem inner_cases (cluster : Text) :
    (cluster = ['.'] ∧ inner cluster = dot)
      ∨ ((∀ c ∈ cluster, isIdentifierContinue c = true) ∧ inner cluster = kept cluster)
      ∨ inner cluster = replaced cluster false := by
  rw [inner]
  split
  · next h => exact .inl ⟨h, rfl⟩
  split
  · next h =>
    obtain ⟨base, marks, rfl, hbase, hmarks⟩ := isNameCluster_iff.1 h
    exact .inr (.inl ⟨List.forall_mem_cons.2 ⟨hbase, hmarks⟩, rfl⟩)
  · exact .inr (.inr rfl)

theorem mem_name_inner {cluster : Text} {c : Char} (h : c ∈ (inner cluster).name) :
    c = '.' ∨ isIdentifierContinue c = true := by
  rcases inner_cases cluster with ⟨-, hpiece⟩ | ⟨hkept, hpiece⟩ | hpiece
  · rw [hpiece] at h
    exact .inl (List.mem_singleton.1 h)
  · rw [hpiece] at h
    exact .inr (hkept c h)
  · rw [hpiece] at h
    obtain rfl := List.mem_singleton.1 h
    exact .inr (isIdentifierContinue_of_nameStart rfl)

theorem identifier_inner (cluster : Text) :
    (inner cluster).identifier = (inner cluster).name.map undotted := by
  rcases inner_cases cluster with ⟨-, hpiece⟩ | ⟨hkept, hpiece⟩ | hpiece
  · rw [hpiece]
    rfl
  · rw [hpiece]
    exact (map_undotted hkept).symm
  · rw [hpiece]
    rfl

theorem name_leading (cluster : Text) :
    ∃ base marks, (leading cluster).name = base :: marks ∧ isNameStart base = true
      ∧ ∀ c ∈ marks, isIdentifierContinue c = true := by
  rcases leading_cases cluster with ⟨base, marks, hcluster, hbase, hmarks, hpiece⟩ | hpiece
  · exact ⟨base, marks, by rw [hpiece, name, hcluster], hbase, hmarks⟩
  · exact ⟨'_', [], by rw [hpiece]; rfl, rfl, fun c hc => by cases hc⟩

theorem identifier_leading (cluster : Text) :
    (leading cluster).identifier = (leading cluster).name.map undotted := by
  rcases leading_cases cluster with ⟨base, marks, hcluster, hbase, hmarks, hpiece⟩ | hpiece
  · have hkept : ∀ c ∈ cluster, isIdentifierContinue c = true := by
      rw [hcluster, List.forall_mem_cons]
      exact ⟨isIdentifierContinue_of_nameStart hbase, hmarks⟩
    rw [hpiece]
    exact (map_undotted hkept).symm
  · rw [hpiece]
    rfl

end NamePiece

/-! ### Names -/

theorem normalize_ne_nil {t : Text} (h : t ≠ []) : normalize .nfc t ≠ [] := by
  intro hnil
  have hcount := partCount_normalize t
  rw [hnil] at hcount
  exact h (eq_nil_of_partCount hcount.symm)

namespace CanonicalName

/-- A name that starts as an identifier does and goes on with dots and characters of identifiers,
and an identifier that has underscores for the dots. -/
structure Canonical (n : CanonicalName) : Prop where
  starts : ∃ c rest, n.name = c :: rest ∧ isNameStart c = true
  continues : ∀ c ∈ n.name, c = '.' ∨ isIdentifierContinue c = true
  identifier : n.identifier = n.name.map undotted

/-- **Every label that is not empty leads to such a name.** -/
theorem canonical_ofTrimmed {label : Text} (h : label ≠ []) : Canonical (ofTrimmed label) := by
  -- NFC leaves no text empty, so there is a first cluster.
  obtain ⟨first, rest, hclusters⟩ : ∃ first rest, clusters (normalize .nfc label) = first :: rest := by
    refine List.exists_cons_of_ne_nil fun hnil => normalize_ne_nil h ?_
    rw [← flatten_clusters (normalize .nfc label), hnil]
    rfl
  have hname : (ofTrimmed label).name
      = (NamePiece.leading first).name ++ (rest.map NamePiece.inner).flatMap NamePiece.name := by
    rw [ofTrimmed, hclusters]
    rfl
  have hidentifier : (ofTrimmed label).identifier = (NamePiece.leading first).identifier
      ++ (rest.map NamePiece.inner).flatMap NamePiece.identifier := by
    rw [ofTrimmed, hclusters]
    rfl
  obtain ⟨base, marks, hleading, hbase, hmarks⟩ := NamePiece.name_leading first
  refine ⟨⟨base, _, by rw [hname, hleading]; rfl, hbase⟩, ?_, ?_⟩
  · intro c hc
    rw [hname, hleading] at hc
    rcases List.mem_append.1 hc with hc | hc
    · rcases List.mem_cons.1 hc with rfl | hc
      · exact .inr (isIdentifierContinue_of_nameStart hbase)
      · exact .inr (hmarks c hc)
    · obtain ⟨piece, hpiece, hc⟩ := List.mem_flatMap.1 hc
      obtain ⟨cluster, -, rfl⟩ := List.mem_map.1 hpiece
      exact NamePiece.mem_name_inner hc
  · rw [hname, hidentifier, List.map_append, NamePiece.identifier_leading, List.map_flatMap,
      List.flatMap_map, List.flatMap_map]
    simp only [NamePiece.identifier_inner]

theorem Canonical.not_mem_dot {n : CanonicalName} (h : Canonical n) : '.' ∉ n.identifier := by
  intro hdot
  rw [h.identifier] at hdot
  obtain ⟨c, hc, heq⟩ := List.mem_map.1 hdot
  have hcontinue := isIdentifierContinue_undotted (h.continues c hc)
  exact ne_dot_of_isIdentifierContinue hcontinue heq

theorem Canonical.isIdentifier {n : CanonicalName} (h : Canonical n) :
    isIdentifier n.identifier = true := by
  obtain ⟨c, rest, hname, hc⟩ := h.starts
  have hne : c ≠ '.' := ne_dot_of_isIdentifierContinue (isIdentifierContinue_of_nameStart hc)
  rw [h.identifier, hname, List.map_cons, undotted_of_ne hne, LogCatalog.isIdentifier,
    Bool.and_eq_true, List.all_eq_true]
  refine ⟨hc, fun d hd => ?_⟩
  obtain ⟨e, he, rfl⟩ := List.mem_map.1 hd
  exact isIdentifierContinue_undotted (h.continues e (hname ▸ List.mem_cons_of_mem c he))

theorem name_ofTrimmed_ne_nil {label : Text} (h : label ≠ []) : (ofTrimmed label).name ≠ [] := by
  obtain ⟨c, rest, hname, -⟩ := (canonical_ofTrimmed h).starts
  rw [hname]
  exact List.cons_ne_nil c rest

/-- A label that is not blank has a name: the name that is derived is never empty. -/
theorem ofLabel?_of_trim_ne_nil {label : Text} (h : Text.trim label ≠ []) :
    ofLabel? label = some (ofTrimmed (Text.trim label)) := by
  rw [ofLabel?, if_neg h, if_neg (name_ofTrimmed_ne_nil h)]

theorem ofLabel?_of_trim_eq_nil {label : Text} (h : Text.trim label = []) :
    ofLabel? label = none := by
  rw [ofLabel?, if_pos h]

theorem ofLabel?_eq_none_iff {label : Text} : ofLabel? label = none ↔ Text.trim label = [] := by
  refine ⟨fun hnone => ?_, ofLabel?_of_trim_eq_nil⟩
  by_contra hne
  rw [ofLabel?_of_trim_ne_nil hne] at hnone
  cases hnone

theorem ofLabel?_eq_some_iff {label : Text} {n : CanonicalName} :
    ofLabel? label = some n ↔ Text.trim label ≠ [] ∧ ofTrimmed (Text.trim label) = n := by
  by_cases h : Text.trim label = []
  · simp [ofLabel?_of_trim_eq_nil h, h]
  · simp [ofLabel?_of_trim_ne_nil h, h]

theorem canonical_of_ofLabel? {label : Text} {n : CanonicalName} (h : ofLabel? label = some n) :
    Canonical n := by
  obtain ⟨hne, rfl⟩ := ofLabel?_eq_some_iff.1 h
  exact canonical_ofTrimmed hne

/-- **Exactly the blank labels have no name, and every name has an identifier.**  The identifier is
the name with underscores for its dots, so it holds no dot. -/
theorem identifier_of_label (label : Text) :
    (ofLabel? label = none ↔ Text.trim label = [])
      ∧ ∀ n ∈ ofLabel? label, isIdentifier n.identifier = true ∧ '.' ∉ n.identifier
        ∧ n.identifier = n.name.map fun c => if c = '.' then '_' else c := by
  constructor
  · exact ofLabel?_eq_none_iff
  · intro n hn
    have hcanonical := canonical_of_ofLabel? hn
    exact ⟨hcanonical.isIdentifier, hcanonical.not_mem_dot, hcanonical.identifier⟩

/-- A dot is a cluster by itself unless a mark follows it. -/
example : (ofLabel? "http.get.\u0301x").map identifier = some "http_get_x".toList := by
  rfl

end CanonicalName

end LogCatalog
