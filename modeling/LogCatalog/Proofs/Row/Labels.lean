import LogCatalog.Proofs.Name.Identifier
import LogCatalog.Proofs.Row.Fields

/-!
# Labels of a row

A row has two labels that no other row may have without regard to case, its name and its
identifier.  The registry lists both in the same way, and a row that comes too late with one of them
gets a diagnostic of its own kind for it.

* `Label`: the two labels, with what the registry and the diagnostics have for each.
* `Draft.exists_accepts_iff`: a row is accepted exactly if nothing fatal is found in it and both
  labels are free.
* `Draft.filter_kind_commit`: a row gets a diagnostic for a label exactly if the label is taken,
  and the diagnostic cites the line that took it.
-/

namespace LogCatalog.Row

open Unicode (lowercase)

/-- A label that no two rows may share. -/
inductive Label where
  | name
  | identifier
  deriving DecidableEq, Repr

namespace Label

def ofName : Label → CanonicalName → Text
  | name, n => n.name
  | identifier, n => n.identifier

def ofDefinition : Label → Definition → Text
  | name, d => d.name
  | identifier, d => d.identifier

def taken : Label → Registry → FirstLines
  | name, r => r.names
  | identifier, r => r.identifiers

def kind : Label → Diagnostic.Kind
  | name => .duplicateName
  | identifier => .duplicateIdentifier

def opening : Label → Text
  | name => "Normalized name '"
  | identifier => "Escaped name '"

/-- The diagnostic that the row of a line gets for its label if an earlier line took it first. -/
def note (label : Label) (text : Text) (line first : Nat) : Diagnostic where
  line
  field := some nameColumn
  kind := label.kind
  message := label.opening ++ text ++ "' already exists at line " ++ Text.ofNat first ++ "."

def line? (label : Label) (r : Registry) (text : Text) : Option Nat :=
  (label.taken r).find? (lowercase text)

theorem taken_insert (label : Label) (r : Registry) (d : Definition) (line : Nat) :
    label.taken (r.insert d.name d.identifier line)
      = (label.taken r).insert (lowercase (label.ofDefinition d)) line := by
  cases label with
  | name => rfl
  | identifier => rfl

theorem line?_insert (label : Label) (r : Registry) (d : Definition) (line : Nat) (text : Text) :
    label.line? (r.insert d.name d.identifier line) text
      = (label.line? r text).or
          (if lowercase text = lowercase (label.ofDefinition d) then some line else none) := by
  rw [line?, taken_insert, FirstLines.find?_insert, line?]

end Label

/-! ### Findings in the row itself -/

/-- A finding that does not depend on other rows. -/
def Finding.isOwn : Finding → Bool
  | takenName .. | takenIdentifier .. => false
  | _ => true

theorem Finding.kind_ne_of_isOwn {f : Finding} (h : f.isOwn = true) (label : Label) :
    f.kind ≠ label.kind := by
  cases f with
  | takenName name line => cases h
  | takenIdentifier identifier line => cases h
  | changedName change => cases change <;> cases label <;> exact Diagnostic.Kind.noConfusion
  | _ => cases label <;> exact Diagnostic.Kind.noConfusion

/-- What other rows are needed for is about the name. -/
theorem isOwn_of_column {f : Finding} {column : Nat} (h : f.column = some column)
    (hle : levelColumn ≤ column) : f.isOwn = true := by
  cases f with
  | takenName name line => exact absurd (Option.some.inj h ▸ hle) (by decide)
  | takenIdentifier identifier line => exact absurd (Option.some.inj h ▸ hle) (by decide)
  | _ => rfl

theorem isOwn_of_mem_labelFindings {columns : List Text} {f : Finding}
    (hf : f ∈ labelFindings columns) : f.isOwn = true := by
  rcases cases_of_mem_labelFindings hf with rfl | rfl | ⟨change, rfl⟩ <;> rfl

theorem isOwn_of_mem_contentFindings {locales : Locales} {columns : List Text} {f : Finding}
    (hf : f ∈ contentFindings locales columns) : f.isOwn = true := by
  obtain ⟨column, hcolumn, hle⟩ := exists_column_of_mem_contentFindings hf
  exact isOwn_of_column hcolumn hle

/-! ### Diagnostics about labels -/

theorem Verdict.has_iff (v : Verdict) (kind : Diagnostic.Kind) :
    v.has kind = true ↔ v.diagnostics.filter (·.kind = kind) ≠ [] := by
  simp [Verdict.has, List.filter_eq_nil_iff]

theorem exists_ofLabel? {label : Text} (h : Text.hasContent label = true) :
    ∃ name, CanonicalName.ofLabel? label = some name :=
  ⟨_, CanonicalName.ofLabel?_of_trim_ne_nil (bne_iff_ne.1 h)⟩

namespace Draft

def name? (d : Draft) : Option CanonicalName := d.parts.bind Parts.name

theorem filter_kind_onLine {label : Label} {fs : List Finding} (h : ∀ f ∈ fs, f.isOwn = true)
    (line : Nat) : (fs.map (·.onLine line)).filter (·.kind = label.kind) = [] := by
  refine List.filter_eq_nil_iff.2 fun note hnote => ?_
  obtain ⟨f, hf, rfl⟩ := List.mem_map.1 hnote
  rw [decide_eq_true_eq]
  exact Finding.kind_ne_of_isOwn (h f hf) label

theorem filter_kind_takenNotes (label : Label) (line : Nat) (r : Registry) (name : CanonicalName) :
    (takenNotes line r (some name)).filter (·.kind = label.kind)
      = ((label.line? r (label.ofName name)).map (label.note (label.ofName name) line)).toList := by
  cases label with
  | name =>
    show _ = ((r.nameLine? name.name).map _).toList
    rw [takenNotes]
    cases r.nameLine? name.name <;> cases r.identifierLine? name.identifier <;> rfl
  | identifier =>
    show _ = ((r.identifierLine? name.identifier).map _).toList
    rw [takenNotes]
    cases r.nameLine? name.name <;> cases r.identifierLine? name.identifier <;> rfl

variable {locales : Locales} {columns : List Text} {line : Nat} {r : Registry}

/-- **A row gets a diagnostic for a label exactly if the label is taken**, and the diagnostic cites
the line that took it. -/
theorem filter_kind_commit {name : CanonicalName}
    (hname : (ofColumns locales columns line).name? = some name) (label : Label) :
    (((ofColumns locales columns line).commit r).1.diagnostics.filter (·.kind = label.kind))
      = ((label.line? r (label.ofName name)).map (label.note (label.ofName name) line)).toList := by
  rw [diagnostics_commit, notes, ← name?, hname]
  by_cases hlt : columns.length < minimumColumns
  · rw [name?, ofColumns_of_lt hlt] at hname
    cases hname
  · rw [ofColumns_of_le (Nat.not_lt.1 hlt), List.filter_append, List.filter_append,
      filter_kind_onLine fun f hf => isOwn_of_mem_labelFindings hf,
      filter_kind_onLine fun f hf => isOwn_of_mem_contentFindings hf,
      filter_kind_takenNotes, List.nil_append, List.append_nil]

/-! ### Acceptance -/

theorem Accepts.line?_eq_none {d : Draft} {definition : Definition} (h : d.Accepts r definition)
    (label : Label) : label.line? r (label.ofDefinition definition) = none := by
  cases label with
  | name => exact h.name_free
  | identifier => exact h.identifier_free

theorem Accepts.exists_name {d : Draft} {definition : Definition} (h : d.Accepts r definition) :
    ∃ name, d.name? = some name
      ∧ ∀ label : Label, label.ofName name = label.ofDefinition definition := by
  obtain ⟨parts, hparts, hmade⟩ := h.made
  obtain ⟨id, name, level, -, hname, -, rfl⟩ := definition?_eq_some_iff.1 hmade
  refine ⟨name, ?_, fun label => ?_⟩
  · rw [name?, hparts]
    exact hname
  · cases label with
    | name => rfl
    | identifier => rfl

/-- What is missed without a fatal finding is there. -/
theorem exists_of_harmless {α : Type} {o : Option α} {fs : List Finding} (h : Harmless fs)
    (hnone : o = none → ∃ f ∈ fs, f.kind.isFatal = true) : ∃ a, o = some a := by
  cases o with
  | none =>
    obtain ⟨f, hf, hfatal⟩ := hnone rfl
    rw [h f hf] at hfatal
    cases hfatal
  | some a => exact ⟨a, rfl⟩

/-- A row in which nothing fatal is found could be read in full. -/
theorem exists_definition (h : (ofColumns locales columns line).diagnostics.any
      Diagnostic.isFatal = false) :
    ∃ parts definition, (ofColumns locales columns line).parts = some parts
      ∧ definition? parts (ofColumns locales columns line).diagnostics = some definition := by
  have hwidth : minimumColumns ≤ columns.length := by
    refine Nat.not_lt.1 fun hlt => ?_
    rw [ofColumns_of_lt hlt] at h
    exact Bool.noConfusion h
  rw [ofColumns_of_le hwidth] at h ⊢
  rw [diagnostics, List.any_append, Bool.or_eq_false_iff, any_isFatal_onLine,
    any_isFatal_onLine, labelFindings, harmless_append] at h
  obtain ⟨⟨hid, hname⟩, hcontent⟩ := h
  simp only [contentFindings, harmless_append] at hcontent
  obtain ⟨⟨⟨hlevel, -⟩, -⟩, -⟩ := hcontent
  -- What cannot be read is reported as fatal, so the id, the name and the level are there.
  obtain ⟨id, hid⟩ : ∃ id, MessageId.ofCell? (cellAt columns idColumn) = some id := by
    refine exists_of_harmless hid fun hnone => ⟨.malformedId, ?_, rfl⟩
    rw [hnone]
    exact List.mem_singleton.2 rfl
  obtain ⟨name, hname⟩ :
      ∃ name, CanonicalName.ofLabel? (cellAt columns nameColumn) = some name := by
    refine exists_of_harmless hname fun hnone => ⟨.blankName, ?_, rfl⟩
    rw [hnone]
    exact List.mem_singleton.2 rfl
  obtain ⟨level, hlevel⟩ : ∃ level, Level.ofCell? (cellAt columns levelColumn) = some level := by
    refine exists_of_harmless hlevel fun hnone =>
      ⟨.unknownLevel (cellAt columns levelColumn), ?_, rfl⟩
    rw [hnone]
    exact List.mem_singleton.2 rfl
  exact ⟨_, _, rfl, definition?_eq_some_iff.2 ⟨id, name, level, hid, hname, hlevel, rfl⟩⟩

/-- **A row is accepted exactly if nothing fatal is found in it and its labels are free.** -/
theorem exists_accepts_iff :
    (∃ definition, (ofColumns locales columns line).Accepts r definition) ↔
      (ofColumns locales columns line).diagnostics.any Diagnostic.isFatal = false
        ∧ ∀ name, (ofColumns locales columns line).name? = some name →
            ∀ label : Label, label.line? r (label.ofName name) = none := by
  constructor
  · rintro ⟨definition, hacc⟩
    obtain ⟨name, hname, hlabels⟩ := hacc.exists_name
    refine ⟨hacc.not_fatal, fun other hother label => ?_⟩
    cases hname.symm.trans hother
    rw [hlabels label]
    exact hacc.line?_eq_none label
  · rintro ⟨hfatal, hfree⟩
    obtain ⟨parts, definition, hparts, hmade⟩ := exists_definition hfatal
    obtain ⟨id, name, level, hid, hname, hlevel, hd⟩ := definition?_eq_some_iff.1 hmade
    have hlabels := hfree name (by rw [name?, hparts]; exact hname)
    refine ⟨definition, ?_, ?_, hfatal, parts, hparts, hmade⟩
    · rw [hd]
      exact hlabels .name
    · rw [hd]
      exact hlabels .identifier

end Draft

end LogCatalog.Row
