import LogCatalog.Proofs.Json.Unambiguous
import LogCatalog.Proofs.Locale.Tags
import LogCatalog.Proofs.ValueType
import LogCatalog.Snapshot
import Mathlib.Data.List.Basic

/-!
# Definitions as JSON

Types, levels and locales stand in the JSON of a definition as words.  A word may name a known type
and also be passed on as a type of its own; but a cell that names a known type is never passed on,
so in a definition that comes from a row each word stands for one type
(`ValueType.eq_of_label_eq`).

* `Diagnostic.toJson_injective`: diagnostics are determined by their JSON.
* `Definition.Faithful`, `Definition.eq_of_toJson_eq`: so are definitions with types that cells name
  and locales that tags name.
* `eq_of_snapshot_eq`: lists of such definitions are determined by their snapshots.
-/

namespace LogCatalog

open Json (Value)

theorem map_inj_of_mem {α β : Type} {f : α → β} {xs ys : List α}
    (h : ∀ x ∈ xs, ∀ y ∈ ys, f x = f y → x = y) (heq : xs.map f = ys.map f) : xs = ys := by
  induction xs generalizing ys with
  | nil => exact (List.map_eq_nil_iff.1 heq.symm).symm
  | cons x rest ih =>
    cases ys with
    | nil => cases heq
    | cons y more =>
      obtain ⟨hhead, htail⟩ := List.cons.inj heq
      rw [h x (List.mem_cons_self ..) y (List.mem_cons_self ..) hhead,
        ih (fun x hx y hy => h x (List.mem_cons_of_mem _ hx) y (List.mem_cons_of_mem _ hy)) htail]

/-! ### Words -/

theorem Level.ofCapital?_label (level : Level) :
    level.label.head?.bind ofCapital? = some level := by
  cases level <;> rfl

theorem Level.label_injective : Function.Injective Level.label := by
  intro a b h
  refine Option.some.inj ?_
  rw [← ofCapital?_label a, ← ofCapital?_label b, h]

theorem Diagnostic.Kind.ofLabel?_label (kind : Kind) : ofLabel? kind.label = some kind := by
  have hall : ∀ kind ∈ all, ofLabel? kind.label = some kind := by decide
  exact hall kind (mem_all kind)

theorem Diagnostic.Kind.label_injective : Function.Injective Kind.label := by
  intro a b h
  refine Option.some.inj ?_
  rw [← ofLabel?_label a, ← ofLabel?_label b, h]

/-! ### Records -/

theorem Diagnostic.toJson_injective : Function.Injective Diagnostic.toJson := by
  rintro ⟨line, field, kind, message⟩ ⟨line', field', kind', message'⟩ h
  simp only [toJson, Value.object.injEq, List.cons.injEq, Prod.mk.injEq, Value.number.injEq,
    Value.string.injEq, true_and, and_true] at h
  obtain ⟨rfl, hfield, hkind, rfl⟩ := h
  obtain rfl : field = field' := by
    cases field <;> cases field' <;> cases hfield <;> rfl
  rw [Kind.label_injective hkind]

/-- The placeholders of a definition have types that cells name, and its translations are for
locales spelled as in tags. -/
structure Definition.Faithful (d : Definition) : Prop where
  types : ∀ p ∈ d.placeholders, ∃ cell, ValueType.ofCell? cell = some p.type
  locales : ∀ entry ∈ d.localizations, entry.1.Spelled

theorem Placeholder.eq_of_toJson_eq {p q : Placeholder} {cell cell' : Text}
    (hp : ValueType.ofCell? cell = some p.type) (hq : ValueType.ofCell? cell' = some q.type)
    (h : p.toJson = q.toJson) : p = q := by
  obtain ⟨name, type⟩ := p
  obtain ⟨name', type'⟩ := q
  simp only [toJson, Value.object.injEq, List.cons.injEq, Prod.mk.injEq, Value.string.injEq,
    true_and, and_true] at h
  obtain ⟨rfl, hlabel⟩ := h
  exact congrArg (Placeholder.mk name) (ValueType.eq_of_label_eq hp hq hlabel)

/-- **Definitions are determined by their JSON.** -/
theorem Definition.eq_of_toJson_eq {d e : Definition} (hd : d.Faithful) (he : e.Faithful)
    (h : d.toJson = e.toJson) : d = e := by
  obtain ⟨id, name, identifier, level, hasException, message, placeholders, comment,
    localizations, warnings⟩ := d
  obtain ⟨id', name', identifier', level', hasException', message', placeholders', comment',
    localizations', warnings'⟩ := e
  simp only [toJson, Value.object.injEq, Value.array.injEq, List.cons.injEq, Prod.mk.injEq,
    Value.number.injEq, Value.string.injEq, Value.bool.injEq, true_and, and_true] at h
  obtain ⟨rfl, rfl, rfl, hlevel, rfl, rfl, hplaceholders, hcomment, hlocalizations, hwarnings⟩ := h
  obtain rfl : placeholders = placeholders' := by
    refine map_inj_of_mem (fun p hp q hq hpq => ?_) hplaceholders
    obtain ⟨cell, hcell⟩ := hd.types p hp
    obtain ⟨cell', hcell'⟩ := he.types q hq
    exact Placeholder.eq_of_toJson_eq hcell hcell' hpq
  obtain rfl : localizations = localizations' := by
    refine map_inj_of_mem (fun entry hentry other hother heq => ?_) hlocalizations
    obtain ⟨htag, htext⟩ := Prod.mk.inj heq
    exact Prod.ext (Locale.eq_of_tag_eq (hd.locales _ hentry) (he.locales _ hother) htag)
      (Value.string.inj htext)
  obtain rfl : comment = comment' := by
    cases comment <;> cases comment' <;> cases hcomment <;> rfl
  obtain rfl : warnings = warnings' :=
    List.map_injective_iff.2 Diagnostic.toJson_injective hwarnings
  rw [Level.label_injective hlevel]

/-- **Lists of definitions are determined by their snapshots.** -/
theorem eq_of_snapshot_eq {ds es : List Definition} (hds : ∀ d ∈ ds, d.Faithful)
    (hes : ∀ e ∈ es, e.Faithful) (h : snapshot ds = snapshot es) : ds = es :=
  map_inj_of_mem (fun d hd e he => Definition.eq_of_toJson_eq (hds d hd) (hes e he))
    (Value.array.inj (Json.pretty_injective h))

end LogCatalog
