import LogCatalog.Proofs.Row.Columns

/-!
# Slots of an accepted row

Each slot is read by itself, so a slot that declares nothing would move all later ones up.  In an
accepted row this cannot happen: what is missing in a slot that the template needs rejects the row,
and a slot that the template does not need is passed over.

* `Slot.placeholder?_of_harmless`: a needed slot of an accepted row declares its placeholder.
* `getElem?_slotPlaceholders`: the slots of an accepted row declare placeholders at their places.
* `map_name_slotPlaceholders`: the names declared are those of the template.
-/

namespace LogCatalog.Row

/-- Where `f` has values for the first numbers and none for later ones, the values stand at the
places of their numbers. -/
theorem getElem?_filterMap_range {α : Type} {f : Nat → Option α}
    (h : ∀ i, f i = none → f (i + 1) = none) (n i : Nat) :
    ((List.range n).filterMap f)[i]? = if i < n then f i else none := by
  induction n generalizing f i with
  | zero => rfl
  | succ n ih =>
    rw [List.range_succ_eq_map, List.filterMap_cons, List.filterMap_map]
    cases h0 : f 0 with
    | none =>
      have hnone : ∀ k, f k = none := by
        intro k
        induction k with
        | zero => exact h0
        | succ k ihk => exact h k ihk
      have hnil : (List.range n).filterMap (f ∘ Nat.succ) = [] :=
        List.filterMap_eq_nil_iff.2 fun k _ => hnone (k + 1)
      rw [hnil, hnone i, ite_self]
      rfl
    | some a =>
      cases i with
      | zero => exact h0.symm
      | succ i =>
        show ((List.range n).filterMap (f ∘ Nat.succ))[i]? = _
        rw [ih (f := f ∘ Nat.succ) (fun k => h (k + 1))]
        simp only [Nat.add_lt_add_iff_right]
        rfl

theorem Slot.placeholder?_of_harmless {s : Slot} {slot : Nat} {expected : Text}
    (h : Harmless (s.findingsFor slot expected)) :
    ∃ type, s.type = some type ∧ s.placeholder? (some expected) = some ⟨expected, type⟩ := by
  rw [Slot.findingsFor, harmless_append, harmless_append] at h
  obtain ⟨⟨hlabel, htype⟩, -⟩ := h
  have hlabel' : s.label ≠ [] := by
    intro hnil
    rw [if_pos hnil] at hlabel
    exact Bool.noConfusion (hlabel _ (List.mem_singleton.2 rfl))
  cases ht : s.type with
  | none =>
    rw [if_pos ht] at htype
    exact Bool.noConfusion (htype _ (List.mem_singleton.2 rfl))
  | some type =>
    refine ⟨type, rfl, ?_⟩
    rw [Slot.placeholder?, if_neg hlabel', ht]
    rfl

section

variable {cell : Nat → Text} {names : List Text}

/-- For each name of the template there is a slot, which declares it. -/
theorem placeholder?_slotAt (h : Harmless (slotFindings cell names))
    (hcount : names.length ≤ slotCount) {slot : Nat} {expected : Text}
    (hname : names[slot]? = some expected) :
    ∃ type, (slotAt cell slot).type = some type
      ∧ (slotAt cell slot).placeholder? (some expected) = some ⟨expected, type⟩ := by
  have hslot : slot < slotCount :=
    Nat.lt_of_lt_of_le (List.getElem?_eq_some_iff.1 hname).1 hcount
  have hneeded : Harmless ((slotAt cell slot).findingsFor slot expected) := by
    intro f hf
    refine h f (List.mem_flatMap.2 ⟨slot, List.mem_range.2 hslot, ?_⟩)
    rw [hname]
    exact hf
  exact Slot.placeholder?_of_harmless hneeded

theorem getElem?_slotPlaceholders (h : Harmless (slotFindings cell names))
    (hcount : names.length ≤ slotCount) (i : Nat) :
    (slotPlaceholders cell names)[i]? = (slotAt cell i).placeholder? names[i]? := by
  rw [slotPlaceholders, getElem?_filterMap_range]
  · split
    · rfl
    · next hi =>
      rw [List.getElem?_eq_none (Nat.le_trans hcount (Nat.not_lt.1 hi))]
      rfl
  · -- a slot for which the template has a name declares something, so that a slot declares nothing
    -- only beyond the end of the names
    intro k hk
    have hend : names.length ≤ k := by
      refine Nat.not_lt.1 fun hlt => ?_
      have hname := List.getElem?_eq_getElem hlt
      obtain ⟨type, -, hdecl⟩ := placeholder?_slotAt h hcount hname
      rw [hname, hdecl] at hk
      cases hk
    rw [List.getElem?_eq_none (Nat.le_succ_of_le hend)]
    rfl

/-- The names that the slots of an accepted row declare are those of the template. -/
theorem map_name_slotPlaceholders (h : Harmless (slotFindings cell names))
    (hcount : names.length ≤ slotCount) :
    (slotPlaceholders cell names).map Placeholder.name = names := by
  refine List.ext_getElem? fun i => ?_
  rw [List.getElem?_map, getElem?_slotPlaceholders h hcount]
  cases hname : names[i]? with
  | none => rfl
  | some expected =>
    obtain ⟨type, -, hdecl⟩ := placeholder?_slotAt h hcount hname
    rw [hdecl]
    rfl

theorem ofCell?_of_getElem?_slotPlaceholders (h : Harmless (slotFindings cell names))
    (hcount : names.length ≤ slotCount) {i : Nat} {p : Placeholder}
    (hp : (slotPlaceholders cell names)[i]? = some p) :
    ValueType.ofCell? (cell (slotTypeColumn i)) = some p.type := by
  rw [getElem?_slotPlaceholders h hcount] at hp
  cases hname : names[i]? with
  | none =>
    rw [hname] at hp
    cases hp
  | some expected =>
    obtain ⟨type, htype, hdecl⟩ := placeholder?_slotAt h hcount hname
    rw [hname, hdecl] at hp
    cases hp
    exact htype

end

end LogCatalog.Row
