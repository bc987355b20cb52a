import LogCatalog.Proofs.Unicode.Stability
import LogCatalog.Unicode.GraphemeCluster
import Mathlib.Data.List.Chain
import Mathlib.Data.List.Forall2

/-!
# Boundaries of clusters

Between two neighbouring clusters nothing binds the last character of the one to the first
character of the other.  So the later cluster begins with a starter, unless the earlier one ends in
a control, and in either case a text in NFC may be cut there.

* `clusters_isChain`: neighbouring clusters are apart.
* `normalize_of_append`: a text in NFC may be cut between two parts that are apart.
* `normalize_flatten_replaced`: underscores in place of whole clusters leave a text in NFC.
-/

namespace LogCatalog.Unicode

open ClusterState (bound)

/-- Nothing binds the end of a text to the beginning of the next. -/
def Apart (s t : Text) : Prop :=
  ∀ c ∈ s.getLast?, ∀ d ∈ t.head?, bound (graphemeBreak c) (graphemeBreak d) = false

theorem apart_nil (t : Text) : Apart [] t := by
  intro c hc
  cases hc

theorem Apart.append {s t : Text} (h : Apart s t) (hs : s ≠ []) (front : Text) :
    Apart (front ++ s) t := by
  intro c hc
  rw [List.getLast?_append_of_ne_nil _ hs] at hc
  exact h c hc

theorem Apart.append_right {s t : Text} (h : Apart s t) (ht : t ≠ []) (more : Text) :
    Apart s (t ++ more) := by
  intro c hc d hd
  cases t with
  | nil => exact absurd rfl ht
  | cons e rest => exact h c hc d hd

/-! ### Neighbouring clusters -/

theorem clustersFrom_eq (s : ClusterState) (begun t : Text) :
    ∃ more later, clustersFrom s begun t = (begun.reverse ++ more) :: later := by
  induction t generalizing s begun with
  | nil => exact ⟨[], [], by rw [clustersFrom, List.append_nil]⟩
  | cons c rest ih =>
    rw [clustersFrom]
    split
    · obtain ⟨more, later, heq⟩ := ih (s.push c) (c :: begun)
      exact ⟨c :: more, later, by rw [heq, List.reverse_cons, List.append_assoc]; rfl⟩
    · exact ⟨[], _, by rw [List.append_nil]⟩

/-- A character that does not join a cluster is not bound to its last character. -/
theorem bound_eq_false_of_joins {s : ClusterState} {c : Char} (h : ¬ s.joins c = true) :
    bound s.last (graphemeBreak c) = false := by
  cases hb : bound s.last (graphemeBreak c) with
  | false => rfl
  | true => exact absurd (by simp [ClusterState.joins, hb]) h

theorem isChain_clustersFrom {s : ClusterState} {c : Char} (hlast : s.last = graphemeBreak c)
    (begun t : Text) : (clustersFrom s (c :: begun) t).IsChain Apart := by
  induction t generalizing s c begun with
  | nil => exact .singleton _
  | cons d rest ih =>
    rw [clustersFrom]
    split
    · exact ih rfl (c :: begun)
    · next hjoins =>
      have hbound := bound_eq_false_of_joins hjoins
      have hnext := ih (s := .start d) (c := d) rfl []
      obtain ⟨more, later, heq⟩ := clustersFrom_eq (.start d) [d] rest
      rw [heq] at hnext ⊢
      refine .cons_cons ?_ hnext
      intro x hx y hy
      simp only [List.reverse_cons, List.getLast?_concat, Option.mem_def, Option.some.injEq] at hx
      simp only [List.reverse_singleton, List.singleton_append, List.head?_cons, Option.mem_def,
        Option.some.injEq] at hy
      rwa [← hx, ← hy, ← hlast]

/-- **Neighbouring clusters are apart.** -/
theorem clusters_isChain (t : Text) : (clusters t).IsChain Apart := by
  cases t with
  | nil => exact .nil
  | cons c rest => exact isChain_clustersFrom rfl [] rest

/-! ### Cutting between clusters -/

/-- Only a control keeps a mark away. -/
theorem isControl_of_bound_eq_false {x y : GraphemeBreak}
    (hy : y ∈ [GraphemeBreak.extend, .zwj, .spacingMark]) (h : bound x y = false) :
    x.isControl = true := by
  simp only [List.mem_cons, List.not_mem_nil, or_false] at hy
  rcases hy with rfl | rfl | rfl
  all_goals
    cases x
    all_goals first
      | rfl
      | cases h

theorem normalize_nil : normalize .nfc [] = [] := rfl

/-- **A text in NFC may be cut between two parts that are apart.** -/
theorem normalize_of_append {s t : Text} (hapart : Apart s t)
    (h : normalize .nfc (s ++ t) = s ++ t) : normalize .nfc s = s ∧ normalize .nfc t = t := by
  rcases t with _ | ⟨d, t⟩
  · rw [List.append_nil] at h
    exact ⟨h, normalize_nil⟩
  rcases List.eq_nil_or_concat s with rfl | ⟨s, c, rfl⟩
  · exact ⟨normalize_nil, h⟩
  cases hd : isStarter d with
  | true => exact normalize_of_append_starter hd h
  | false =>
    -- The control at the end of the first part separates the two.
    have hbound : bound (graphemeBreak c) (graphemeBreak d) = false :=
      hapart c (by simp) d rfl
    have hc : Inert c :=
      inert_of_isControl (isControl_of_bound_eq_false (graphemeBreak_of_mark hd) hbound)
    rw [List.concat_eq_append, List.append_assoc, List.singleton_append] at h
    obtain ⟨hs, ht⟩ := normalize_of_append_starter hc.isStarter h
    have hfront := normalize_append_inert hc s []
    rw [hs, normalize_nil] at hfront
    have hback := normalize_append_inert hc [] (d :: t)
    rw [List.nil_append, ht, normalize_nil, List.nil_append, List.cons.injEq] at hback
    exact ⟨by rw [List.concat_eq_append, hfront], hback.2.symm⟩

/-- A text with an underscore between two parts in NFC is in NFC. -/
theorem normalize_append_underscore {s t : Text} (hs : normalize .nfc s = s)
    (ht : normalize .nfc t = t) : normalize .nfc (s ++ '_' :: t) = s ++ '_' :: t := by
  rw [normalize_append_inert inert_underscore, hs, ht]

/-- **Underscores in place of whole clusters leave a text in NFC.**  `front` is what is kept since
the last underscore. -/
theorem normalize_append_flatten_replaced {pieces pieces' : List Text}
    (hpieces : List.Forall₂ (fun s s' => s' = s ∨ s' = ['_']) pieces pieces') {front : Text}
    (hne : ∀ s ∈ pieces, s ≠ []) (hchain : (front :: pieces).IsChain Apart)
    (h : normalize .nfc (front ++ pieces.flatten) = front ++ pieces.flatten) :
    normalize .nfc (front ++ pieces'.flatten) = front ++ pieces'.flatten := by
  induction hpieces generalizing front with
  | nil => exact h
  | @cons s s' pieces pieces' hs _ ih =>
    have hs0 : s ≠ [] := hne s List.mem_cons_self
    have hne' : ∀ r ∈ pieces, r ≠ [] := fun r hr => hne r (List.mem_cons_of_mem s hr)
    obtain ⟨hfront, hrest⟩ := List.isChain_cons_cons.1 hchain
    rw [List.flatten_cons, ← List.append_assoc] at h
    rcases hs with rfl | rfl
    · have hgrown : ((front ++ s') :: pieces).IsChain Apart := by
        cases hrest with
        | singleton => exact .singleton _
        | cons_cons hnext hchain' => exact .cons_cons (hnext.append hs0 front) hchain'
      rw [List.flatten_cons, ← List.append_assoc]
      exact ih hne' hgrown h
    · -- The cluster goes, and what stands on its two sides is in NFC by itself.
      have hnext : Apart (front ++ s) pieces.flatten := by
        cases hrest with
        | singleton => intro c _ d hd; cases hd
        | @cons_cons _ r rest hnext _ =>
          exact (hnext.append hs0 front).append_right (hne' r List.mem_cons_self) _
      obtain ⟨hbefore, hafter⟩ := normalize_of_append hnext h
      obtain ⟨hkept, -⟩ := normalize_of_append hfront hbefore
      have hempty : ([] :: pieces).IsChain Apart := by
        cases hrest with
        | singleton => exact .singleton _
        | cons_cons _ hchain' => exact .cons_cons (apart_nil _) hchain'
      exact normalize_append_underscore hkept (ih hne' hempty hafter)

theorem normalize_flatten_replaced {t : Text} {pieces' : List Text} (h : normalize .nfc t = t)
    (hpieces : List.Forall₂ (fun s s' => s' = s ∨ s' = ['_']) (clusters t) pieces') :
    normalize .nfc pieces'.flatten = pieces'.flatten := by
  have hchain : ([] :: clusters t).IsChain Apart := by
    have hclusters := clusters_isChain t
    cases hcs : clusters t with
    | nil => exact .singleton _
    | cons s rest => exact .cons_cons (apart_nil s) (hcs ▸ hclusters)
  have hwhole : normalize .nfc ([] ++ (clusters t).flatten) = [] ++ (clusters t).flatten := by
    rwa [List.nil_append, flatten_clusters]
  exact normalize_append_flatten_replaced hpieces (fun s hs => ne_nil_of_mem_clusters hs) hchain
    hwhole

end LogCatalog.Unicode
