import LogCatalog.Proofs.Template.Reading

/-!
# Text behind a template

Text without braces that follows a template leaves its holes alone, with one exception.  A run of
closing braces that ends the template closes a hole even if its length is even; with anything
behind it the run is an escape, and the hole is lost.

* `IsPlain`: a text without braces.
* `ClosesAtEvenRun`: the last hole of a template is closed by an even run at the end.
* `scan_append_plain`: exactly then text behind the template changes its holes, and takes the last
  one away.
-/

namespace LogCatalog.Template

def IsPlain (s : Text) : Prop := ∀ c ∈ s, c ≠ '{' ∧ c ≠ '}'

instance (s : Text) : Decidable (IsPlain s) := List.decidableBAll _ s

/-- Behind a hole of the template stand closing braces only, an odd number of them, so that the run
which closes the hole has even length. -/
def ClosesAtEvenRun (t : Text) : Prop :=
  ∃ hole ∈ scan t, ∃ (before : Text) (n : Nat),
    t = before ++ List.replicate (2 * n + 1) '}' ∧ Text.byteLength before = hole.stop

/-! ### The run of closing braces before a place -/

/-- The length of the run of closing braces before a place. -/
def Place.run : Place → Nat
  | text _ => 0
  | hole _ _ run => run

namespace Place

theorem run_next_of_ne (position : Nat) (place : Place) {c : Char} (hc : c ≠ '}') :
    (place.next position c).run = 0 := by
  cases place with
  | text odd =>
    rw [next]
    split
    · rfl
    · split <;> rfl
  | hole opening content run =>
    rw [next, if_neg hc]
    split <;> rfl

theorem run_next_le (position : Nat) (place : Place) (c : Char) :
    (place.next position c).run ≤ place.run + 1 := by
  by_cases hc : c = '}'
  · subst hc
    cases place with
    | text odd =>
      cases odd with
      | false => exact Nat.zero_le _
      | true => exact Nat.le_refl _
    | hole opening content run => exact Nat.le_refl _
  · rw [run_next_of_ne position place hc]
    exact Nat.zero_le _

theorem closed_of_even {place : Place} (h : place.run % 2 = 0) (position : Nat) (c : Char) :
    place.closed position c = [] := by
  cases place with
  | text odd => rfl
  | hole opening content r =>
    have hr : ¬ r % 2 = 1 := by rw [run] at h; omega
    rw [closed, if_neg hr, ite_self]

theorem closed_of_odd {place : Place} (h : place.run % 2 = 1) (position : Nat) {c : Char}
    (hc : c ≠ '}') : place.closed position c = place.closedAtEnd position := by
  cases place with
  | text odd => simp [run] at h
  | hole opening content r =>
    rw [run] at h
    rw [closed, closedAtEnd, if_neg hc, if_pos h, if_neg (by omega)]

theorem closedAtEnd_of_run_eq_zero {place : Place} (h : place.run = 0) (position : Nat) :
    place.closedAtEnd position = [] := by
  cases place with
  | text odd => rfl
  | hole opening content r => exact if_pos h

theorem closedAtEnd_of_run_ne_zero {place : Place} (h : place.run ≠ 0) (position : Nat) :
    ∃ hole, place.closedAtEnd position = [hole] ∧ hole.stop = position - place.run + 1 := by
  cases place with
  | text odd => exact absurd rfl h
  | hole opening content r => exact ⟨_, if_neg h, rfl⟩

theorem stop_of_mem_closed {place : Place} {position : Nat} {c : Char} {hole : Hole}
    (h : hole ∈ place.closed position c) : place.run ≠ 0 ∧ hole.stop = position - place.run + 1 := by
  cases place with
  | text odd => cases h
  | hole opening content r =>
    rw [closed] at h
    split at h
    · cases h
    · split at h
      · next hodd =>
        obtain rfl := List.mem_singleton.1 h
        refine ⟨?_, rfl⟩
        rw [run]
        omega
      · cases h

end Place

/-- The run before a place is the end of the text that led to it. -/
theorem exists_append_run (position : Nat) (place : Place) (t : Text) :
    ∃ u, List.replicate place.run '}' ++ t
      = u ++ List.replicate (placeAfter position place t).run '}' := by
  induction t generalizing position place with
  | nil => exact ⟨[], by rw [List.append_nil]; rfl⟩
  | cons c rest ih =>
    obtain ⟨u, hu⟩ := ih (position + c.utf8Size) (place.next position c)
    have hstep : ∃ v, List.replicate place.run '}' ++ [c]
        = v ++ List.replicate (place.next position c).run '}' := by
      by_cases hc : c = '}'
      · subst hc
        have hle := place.run_next_le position '}'
        refine ⟨List.replicate (place.run + 1 - (place.next position '}').run) '}', ?_⟩
        rw [List.replicate_append_replicate, Nat.sub_add_cancel hle, List.replicate_succ']
      · rw [place.run_next_of_ne position hc]
        exact ⟨_, (List.append_nil _).symm⟩
    obtain ⟨v, hv⟩ := hstep
    refine ⟨v ++ u, ?_⟩
    rw [placeAfter, List.append_assoc, ← hu, ← List.append_assoc, ← hv, List.append_assoc,
      List.singleton_append]

/-- A hole that a text shows to be closed stops before the end of the text: only what stands
behind a run shows its length. -/
theorem stop_lt_of_mem_closedIn {position : Nat} {place : Place} {t : Text} {hole : Hole}
    (hrun : place.run ≤ position) (h : hole ∈ closedIn position place t) :
    hole.stop < position + Text.byteLength t := by
  induction t generalizing position place with
  | nil => cases h
  | cons c rest ih =>
    have hpos := c.utf8Size_pos
    rw [closedIn, List.mem_append] at h
    rw [Text.byteLength]
    rcases h with h | h
    · obtain ⟨hne, hstop⟩ := Place.stop_of_mem_closed h
      omega
    · have hle := place.run_next_le position c
      have := ih (by omega) h
      omega

/-! ### Text without braces -/

theorem scanFrom_plain_of_run_eq_zero {place : Place} {s : Text} (hs : IsPlain s)
    (h : place.run = 0) (position : Nat) : scanFrom position place s = [] := by
  induction s generalizing position place with
  | nil => rw [scanFrom_nil, place.closedAtEnd_of_run_eq_zero h]
  | cons c rest ih =>
    have hc := (hs c (List.mem_cons_self ..)).2
    have hrest : IsPlain rest := fun x hx => hs x (List.mem_cons_of_mem c hx)
    rw [scanFrom_cons, Place.closed_of_even (by rw [h]), ih hrest (place.run_next_of_ne position hc)]
    rfl

/-- In text without braces a hole can only be closed by the run before the text. -/
theorem scanFrom_plain {s : Text} (hs : IsPlain s) (hne : s ≠ []) (position : Nat)
    (place : Place) :
    scanFrom position place s =
      if place.run % 2 = 1 then place.closedAtEnd position else [] := by
  obtain ⟨c, rest, rfl⟩ := List.exists_cons_of_ne_nil hne
  have hc := (hs c (List.mem_cons_self ..)).2
  have hrest : IsPlain rest := fun x hx => hs x (List.mem_cons_of_mem c hx)
  rw [scanFrom_cons, scanFrom_plain_of_run_eq_zero hrest (place.run_next_of_ne position hc),
    List.append_nil]
  split
  · next hodd => exact Place.closed_of_odd hodd position hc
  · next heven => exact Place.closed_of_even (by omega) position c

/-! ### The run at the end of a template -/

def endPlace (t : Text) : Place := placeAfter 0 (.text false) t

theorem scan_eq (t : Text) :
    scan t = closedIn 0 (.text false) t ++ (endPlace t).closedAtEnd (Text.byteLength t) := by
  rw [scan, scanFrom_eq, Nat.zero_add]
  rfl

theorem scan_append (t s : Text) :
    scan (t ++ s) =
      closedIn 0 (.text false) t ++ scanFrom (Text.byteLength t) (endPlace t) s := by
  rw [scan, scanFrom_append, Nat.zero_add]
  rfl

theorem placeAfter_append (position : Nat) (place : Place) (s t : Text) :
    placeAfter position place (s ++ t) =
      placeAfter (position + Text.byteLength s) (placeAfter position place s) t := by
  induction s generalizing position place with
  | nil => rfl
  | cons c rest ih =>
    rw [List.cons_append, placeAfter, ih, placeAfter, Text.byteLength, Nat.add_assoc]

theorem byteLength_braces (n : Nat) : Text.byteLength (List.replicate n '}') = n := by
  induction n with
  | zero => rfl
  | succ n ih =>
    have : Char.utf8Size '}' = 1 := by decide
    rw [List.replicate_succ, Text.byteLength, ih, this, Nat.add_comm]

theorem scanFrom_text_braces (position m : Nat) :
    scanFrom position (.text false) (List.replicate m '}') = [] := by
  induction m generalizing position with
  | zero => rfl
  | succ m ih =>
    rw [List.replicate_succ, scanFrom_cons]
    exact ih _

/-- A hole that closes in a run of closing braces closes with the first brace of the run, and the
whole run stands before the end. -/
theorem of_mem_scanFrom_braces {position m : Nat} {place : Place} {hole : Hole}
    (h : hole ∈ scanFrom position place (List.replicate m '}')) :
    hole.stop = position - place.run + 1
      ∧ (placeAfter position place (List.replicate m '}')).run = place.run + m := by
  induction m generalizing position place with
  | zero =>
    rw [List.replicate_zero, scanFrom_nil] at h
    by_cases hrun : place.run = 0
    · rw [place.closedAtEnd_of_run_eq_zero hrun] at h
      cases h
    · obtain ⟨last, hlast, hstop⟩ := place.closedAtEnd_of_run_ne_zero hrun position
      rw [hlast, List.mem_singleton] at h
      exact ⟨h ▸ hstop, rfl⟩
  | succ m ih =>
    have hsize : Char.utf8Size '}' = 1 := by decide
    rw [List.replicate_succ] at h ⊢
    rw [scanFrom_cons, hsize] at h
    rw [placeAfter, hsize]
    -- In text the braces are a run of a hole only if an opening brace stands right before them.
    cases place with
    | text odd =>
      cases odd with
      | false =>
        rw [show Place.next position (.text false) '}' = .text false from rfl,
          scanFrom_text_braces] at h
        cases h
      | true =>
        rw [show Place.next position (.text true) '}' = .hole (position - 1) [] 1 from rfl] at h ⊢
        obtain ⟨hstop, hrun⟩ := ih h
        refine ⟨hstop, hrun.trans ?_⟩
        rw [Place.run, Place.run]
        omega
    | hole opening content run =>
      rw [Place.closed, if_pos rfl, List.nil_append, Place.next, if_pos rfl] at h
      rw [Place.next, if_pos rfl]
      obtain ⟨hstop, hrun⟩ := ih h
      refine ⟨hstop.trans ?_, hrun.trans ?_⟩
      · rw [Place.run, Place.run]
        omega
      · rw [Place.run, Place.run]
        omega

theorem closesAtEvenRun_iff {t : Text} :
    ClosesAtEvenRun t ↔ (endPlace t).run ≠ 0 ∧ (endPlace t).run % 2 = 0 := by
  constructor
  · rintro ⟨hole, hmem, before, n, rfl, hstop⟩
    rw [scan_append, List.mem_append] at hmem
    rcases hmem with hmem | hmem
    · have := stop_lt_of_mem_closedIn (Nat.zero_le 0) hmem
      omega
    -- The hole stops behind the first brace of the last run, so the run begins right there.
    · obtain ⟨u, hu⟩ := exists_append_run 0 (.text false) before
      have hle : (endPlace before).run ≤ Text.byteLength before := by
        have := congrArg Text.byteLength hu
        rw [Text.byteLength_append, Text.byteLength_append, byteLength_braces, byteLength_braces]
          at this
        rw [endPlace]
        have hzero : (Place.text false).run = 0 := rfl
        omega
      obtain ⟨hat, hrun⟩ := of_mem_scanFrom_braces hmem
      rw [endPlace, placeAfter_append, Nat.zero_add]
      rw [endPlace] at hrun hat hle
      omega
  · rintro ⟨hne, heven⟩
    obtain ⟨u, hu⟩ := exists_append_run 0 (.text false) t
    obtain ⟨n, hn⟩ : ∃ n, (endPlace t).run = 2 * n + 1 + 1 := ⟨(endPlace t).run / 2 - 1, by omega⟩
    have ht : t = u ++ List.replicate (2 * n + 1 + 1) '}' := by
      rw [← hn]
      exact hu
    obtain ⟨hole, hlast, hstop⟩ := (endPlace t).closedAtEnd_of_run_ne_zero hne (Text.byteLength t)
    refine ⟨hole, ?_, u ++ ['}'], n, ?_, ?_⟩
    · rw [scan_eq, hlast]
      exact List.mem_append_right _ (List.mem_singleton_self hole)
    · rw [List.append_assoc, List.singleton_append, ← List.replicate_succ]
      exact ht
    · have hlen := congrArg Text.byteLength ht
      rw [Text.byteLength_append, byteLength_braces] at hlen
      rw [hstop, hn, hlen, Text.byteLength_append, show Text.byteLength ['}'] = 1 from rfl]
      omega

/-- **Text behind a template takes away a hole that an even run at the end closes, and changes
nothing else.** -/
theorem scan_append_plain (t s : Text) (hs : IsPlain s) :
    (scan (t ++ s) = scan t ↔ s = [] ∨ ¬ ClosesAtEvenRun t)
      ∧ (s ≠ [] → ClosesAtEvenRun t → scan (t ++ s) = (scan t).dropLast) := by
  by_cases hne : s = []
  · subst hne
    simp
  have hleft := scan_append t s
  rw [scanFrom_plain hs hne] at hleft
  have hright := scan_eq t
  -- An even run closes a hole at the end only, an odd run also before text.
  by_cases heven : ClosesAtEvenRun t
  · obtain ⟨hrun, hpar⟩ := closesAtEvenRun_iff.1 heven
    obtain ⟨hole, hlast, -⟩ := (endPlace t).closedAtEnd_of_run_ne_zero hrun (Text.byteLength t)
    rw [if_neg (by omega), List.append_nil] at hleft
    rw [hlast] at hright
    refine ⟨⟨fun h => ?_, fun h => ?_⟩, fun _ _ => ?_⟩
    · have := congrArg List.length h
      rw [hleft, hright, List.length_append, List.length_singleton] at this
      omega
    · exact absurd heven (h.resolve_left hne)
    · rw [hleft, hright, List.dropLast_concat]
  · refine ⟨⟨fun _ => .inr heven, fun _ => ?_⟩, fun _ h => absurd h heven⟩
    rw [closesAtEvenRun_iff] at heven
    rw [hleft, hright]
    by_cases hodd : (endPlace t).run % 2 = 1
    · rw [if_pos hodd]
    · rw [if_neg hodd, Place.closedAtEnd_of_run_eq_zero (by omega)]

/-- In `{a} {b}}}}` the second hole is closed by a run of four braces; any text behind loses it. -/
theorem scan_append_plain_four :
    IsPlain " x" ∧
      scan ("\x7ba\x7d \x7bb\x7d\x7d\x7d\x7d" ++ " x" : Text)
        = (scan "\x7ba\x7d \x7bb\x7d\x7d\x7d\x7d").dropLast :=
  have hs : IsPlain " x" := by decide
  ⟨hs, (scan_append_plain "\x7ba\x7d \x7bb\x7d\x7d\x7d\x7d" " x" hs).2 (by decide)
    ⟨⟨"b", [], 4, 7⟩, by decide, "\x7ba\x7d \x7bb\x7d", 1, by decide, by decide⟩⟩

/-- Text behind a template may change its holes: `{a}}` has one, and `{a}}x` has none. -/
theorem not_scan_append_plain : ¬ ∀ t s : Text, IsPlain s → scan (t ++ s) = scan t := by
  intro h
  have hx := h "\x7ba\x7d\x7d" "x" (by decide)
  exact absurd hx (by decide)

end LogCatalog.Template
