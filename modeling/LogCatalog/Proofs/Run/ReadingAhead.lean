import LogCatalog.Proofs.Run.Takings

/-!
# Reading ahead

The rows of a table may be read long before they are judged, and in any order.

* `foldl_drafts`: a run that reads all rows first takes in what a run line by line takes in.
* `intake_run_prepared`: so does a session that prepares the rows in any order and then judges them
  in the order of their lines.
* `reading_ahead`: reading ahead makes no difference.
-/

namespace LogCatalog.Run

open Row

/-! ### Runs that read all rows first -/

/-- **Reading all rows first leads to the same intake.** -/
theorem foldl_drafts (locales : Locales) (lines : List Text) :
    (drafts locales lines).foldl commitDraft .empty = after locales lines := by
  induction lines using List.reverseRecOn with
  | nil => rfl
  | append_singleton lines text ih =>
    rw [drafts, List.mapIdx_concat, List.foldl_append, ← drafts, ih, after_concat, Intake.push_eq]
    cases columns? text with
    | none => rfl
    | some columns => rfl

theorem conclude_none (locales : Locales) (mode : Mode) (intake : Intake) :
    conclude locales mode (intake, none)
      = { events := .began locales.length mode :: intake.finish.events
          outcome := intake.finish.outcome } := rfl

/-! ### Sessions that read all rows first, in any order -/

def UnreadRow.prepareIn (row : UnreadRow) (slot : Text) : Step :=
  .prepare slot row.locales row.line row.columns

def rowsOf (locales : Locales) (lines : List (Text × Nat)) : List UnreadRow :=
  lines.filterMap fun entry =>
    (columns? entry.1).map fun columns => { locales, line := entry.2, columns }

/-- Judges the rows of numbered lines, each out of the slot of its line, and skips the lines
without a row. -/
def judging (slot : Nat → Text) (lines : List (Text × Nat)) : List Step :=
  lines.map fun entry => if (columns? entry.1).isSome then .commit (slot entry.2) else .skip

theorem mem_rowsOf {locales : Locales} {lines : List (Text × Nat)} {row : UnreadRow} :
    row ∈ rowsOf locales lines ↔
      ∃ text, (text, row.line) ∈ lines ∧ columns? text = some row.columns
        ∧ row.locales = locales := by
  rw [rowsOf, List.mem_filterMap]
  constructor
  · rintro ⟨⟨text, line⟩, hmem, hrow⟩
    obtain ⟨columns, hcolumns, rfl⟩ := Option.map_eq_some_iff.1 hrow
    exact ⟨text, hmem, hcolumns, rfl⟩
  · rintro ⟨text, hmem, hcolumns, rfl⟩
    refine ⟨(text, row.line), hmem, ?_⟩
    rw [hcolumns]
    rfl

theorem eq_of_mem_rowsOf {locales : Locales} {lines : List Text} {n : Nat} {r row : UnreadRow}
    (hr : r ∈ rowsOf locales (lines.zipIdx n)) (hrow : row ∈ rowsOf locales (lines.zipIdx n))
    (hline : r.line = row.line) : r = row := by
  obtain ⟨_, line, columns⟩ := row
  obtain ⟨_, _, columns'⟩ := r
  obtain ⟨text, htext, hcolumns, rfl⟩ := mem_rowsOf.1 hrow
  obtain ⟨text', htext', hcolumns', rfl⟩ := mem_rowsOf.1 hr
  obtain rfl := hline
  obtain rfl : text' = text := Option.some.inj
    ((List.mk_mem_zipIdx_iff_le_and_getElem?_sub.1 htext').2.symm.trans
      (List.mk_mem_zipIdx_iff_le_and_getElem?_sub.1 htext).2)
  obtain rfl : columns' = columns := Option.some.inj (hcolumns'.symm.trans hcolumns)
  rfl

theorem takingsAfter_prepare (locales : Locales) (slot : UnreadRow → Text) (rows : List UnreadRow)
    (earlier rest : List Step) :
    takingsAfter locales earlier (rows.map (fun row => row.prepareIn (slot row)) ++ rest)
      = takingsAfter locales
          ((rows.map fun row => row.prepareIn (slot row)).reverse ++ earlier) rest := by
  induction rows generalizing earlier with
  | nil => rfl
  | cons row more ih =>
    rw [List.map_cons, List.cons_append, takingsAfter, ih, List.reverse_cons, List.append_assoc]
    rfl

/-- Where only one of the rows is prepared in a slot, it is found there. -/
theorem prepared?_eq_some (slot : UnreadRow → Text) {rows : List UnreadRow} {row : UnreadRow}
    (hmem : row ∈ rows) (honly : ∀ r ∈ rows, slot r = slot row → r = row) :
    prepared? (slot row) (rows.map fun r => r.prepareIn (slot r)) = some row := by
  induction rows with
  | nil => cases hmem
  | cons first more ih =>
    rw [List.map_cons, UnreadRow.prepareIn, prepared?]
    by_cases hslot : slot first = slot row
    · rw [if_pos hslot, honly first (List.mem_cons_self ..) hslot]
    · rw [if_neg hslot]
      refine ih ?_ fun r hr => honly r (List.mem_cons_of_mem first hr)
      rcases List.mem_cons.1 hmem with rfl | hmore
      · exact absurd rfl hslot
      · exact hmore

/-- Rows that were prepared in slots of their own are taken in at their lines. -/
theorem takingsAfter_judging {locales : Locales} {slot : Nat → Text}
    (hslot : Function.Injective slot) {lines : List Text} {n : Nat} {earlier : List Step}
    (h : ∀ row ∈ rowsOf locales (lines.zipIdx n), prepared? (slot row.line) earlier = some row) :
    takingsAfter locales earlier (judging slot (lines.zipIdx n))
      = (lines.zipIdx n).map fun entry => .ofLine locales entry.2 entry.1 := by
  induction lines generalizing n earlier with
  | nil => rfl
  | cons text rest ih =>
    -- The other rows stand at later lines, so judging this one takes no row out of their slots.
    have hrest : ∀ row ∈ rowsOf locales (rest.zipIdx (n + 1)),
        n < row.line ∧ prepared? (slot row.line) earlier = some row := by
      intro row hrow
      obtain ⟨t, ht, hcolumns, hlocales⟩ := mem_rowsOf.1 hrow
      refine ⟨(List.mk_mem_zipIdx_iff_le_and_getElem?_sub.1 ht).1, h row ?_⟩
      rw [List.zipIdx_cons]
      exact mem_rowsOf.2 ⟨t, List.mem_cons_of_mem _ ht, hcolumns, hlocales⟩
    rw [List.zipIdx_cons, judging, List.map_cons, ← judging, List.map_cons, Taking.ofLine]
    cases hcolumns : columns? text with
    | none =>
      have hlater : ∀ row ∈ rowsOf locales (rest.zipIdx (n + 1)),
          prepared? (slot row.line) (.skip :: earlier) = some row :=
        fun row hrow => (hrest row hrow).2
      show .skipped :: takingsAfter locales (.skip :: earlier) _ = .skipped :: _
      rw [ih hlater]
    | some columns =>
      have hfound : prepared? (slot n) earlier = some ⟨locales, n, columns⟩ := by
        refine h ⟨locales, n, columns⟩ (mem_rowsOf.2 ⟨text, ?_, hcolumns, rfl⟩)
        rw [List.zipIdx_cons]
        exact List.mem_cons_self ..
      have hlater : ∀ row ∈ rowsOf locales (rest.zipIdx (n + 1)),
          prepared? (slot row.line) (.commit (slot n) :: earlier) = some row := by
        intro row hrow
        obtain ⟨hlt, hprepared⟩ := hrest row hrow
        rw [prepared?, if_neg (fun he => Nat.ne_of_lt hlt (hslot he)), hprepared]
      show ((prepared? (slot n) earlier).map Taking.row).toList
        ++ takingsAfter locales (.commit (slot n) :: earlier) _ = _
      rw [hfound, ih hlater]
      rfl

theorem foldl_take_ofLine (locales : Locales) (lines : List Text) :
    ((lines.zipIdx 1).map fun entry => .ofLine locales entry.2 entry.1).foldl Intake.take .empty
      = after locales lines := by
  rw [List.foldl_map, after]
  congr 1
  funext intake entry
  exact (intake.push_eq_take locales entry.2 entry.1).symm

/-- **The rows of a run may be read in any order**, as long as each is judged at its line. -/
theorem intake_run_prepared {locales : Locales} {slot : Nat → Text}
    (hslot : Function.Injective slot) {lines : List Text} {rows : List UnreadRow}
    (hrows : rows.Perm (rowsOf locales (lines.zipIdx 1))) :
    (Session.run locales
        (rows.map (fun row => row.prepareIn (slot row.line))
          ++ judging slot (lines.zipIdx 1))).intake
      = after locales lines := by
  have hprepared : ∀ row ∈ rowsOf locales (lines.zipIdx 1),
      prepared? (slot row.line) (rows.map fun r => r.prepareIn (slot r.line)).reverse
        = some row := by
    intro row hrow
    rw [← List.map_reverse]
    exact prepared?_eq_some (fun r => slot r.line) (List.mem_reverse.2 (hrows.mem_iff.2 hrow))
      fun r hr he => eq_of_mem_rowsOf (hrows.mem_iff.1 (List.mem_reverse.1 hr)) hrow (hslot he)
  rw [intake_run, takings, takingsAfter_prepare, List.append_nil,
    takingsAfter_judging hslot hprepared]
  exact foldl_take_ofLine locales lines

/-- **Reading ahead makes no difference.**  A run that reads all rows first reports and yields the
same as a run line by line, apart from the mode that it begins with.  The intake of a session is
what its takings lead to, whenever its drafts were prepared.  In particular the rows of a table may
be prepared in any order and judged in the order of the lines.  And a line is taken in as the draft
of its row, or skipped. -/
theorem reading_ahead (locales : Locales) :
    (∀ lines, ∃ events outcome,
        ofLines locales lines = ⟨.began locales.length .sequential :: events, outcome⟩
          ∧ ofLinesInParallel locales lines
              = ⟨.began locales.length .parallel :: events, outcome⟩)
      ∧ (∀ steps, (Session.run locales steps).intake
          = (takings locales steps).foldl Intake.take .empty)
      ∧ (∀ (slot : Nat → Text) (lines : List Text) (rows : List UnreadRow),
          Function.Injective slot → rows.Perm (rowsOf locales (lines.zipIdx 1)) →
            (Session.run locales
                (rows.map (fun row => row.prepareIn (slot row.line))
                  ++ judging slot (lines.zipIdx 1))).intake
              = after locales lines)
      ∧ ∀ (intake : Intake) (line : Nat) (text : Text),
          intake.push locales line text
            = commitDraft intake
                ((columns? text).map fun columns => .ofColumns locales columns line) := by
  refine ⟨fun lines => ?_, intake_run locales, fun slot lines rows hslot hrows => ?_,
    fun intake line text => ?_⟩
  · have hline := ofLines_eq locales lines
    rw [conclude_none] at hline
    refine ⟨_, _, hline, ?_⟩
    rw [ofLinesInParallel, foldl_drafts, conclude_none]
  · exact intake_run_prepared hslot hrows
  · rw [Intake.push_eq]
    cases columns? text with
    | none => rfl
    | some columns => rfl

end LogCatalog.Run
