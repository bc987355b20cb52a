import LogCatalog.Proofs.Run.Bookkeeping
import LogCatalog.Proofs.Run.ReadingAhead
import LogCatalog.Proofs.Run.Streams
import Mathlib.Data.Set.List

/-!
# Interrupted runs

A run ends before its time at the first line after whose fetch it finds itself cancelled, or whose
fetch fails.  The lines before this one are taken in as in a run that is not interrupted, and the
line itself is not taken in at all.

* `Chunk.contents`, `Chunk.seesCancellation`: what the fetches from a stream give, and which of them
  come after the cancellation; `Fetch.ofChunks_eq_numbered`: nothing else matters.
* `StopsWith`: what stops a run; `Undisturbed.ofFetches_eq`, `ofFetches_eq_uninterrupted`: how a run
  over fetches ends.
* `ends_at_row_border`: this for lists of lines and for streams.
-/

namespace LogCatalog.Run

open Row

/-! ### What the fetches from a stream give -/

namespace Chunk

def bytesOf : List Chunk → List UInt8
  | [] => []
  | .bytes data :: rest => data ++ bytesOf rest
  | .failure _ :: _ => []
  | .cancellation :: rest => bytesOf rest

def failure? : List Chunk → Option Text
  | [] => none
  | .failure reason :: _ => some reason
  | .bytes _ :: rest | .cancellation :: rest => failure? rest

/-- How many lines of a stream have ended when the run is cancelled, if it is cancelled before the
stream fails. -/
def linesBeforeCancellation? : List Chunk → Option Nat
  | [] => none
  | .bytes data :: rest => (linesBeforeCancellation? rest).map (data.count Fetch.lineFeed + ·)
  | .failure _ :: _ => none
  | .cancellation :: _ => some 0

/-- What the fetches give from a stream that goes on after the beginning of a line, the last byte
first: its lines, or those that end before it fails and then the failure. -/
def contentsFrom (begun : List UInt8) (chunks : List Chunk) : List (Except Text Text) :=
  match failure? chunks with
  | none => (Fetch.linesFrom begun (bytesOf chunks)).map Fetch.lineOf
  | some reason => (Fetch.cut begun (bytesOf chunks)).1.map Fetch.lineOf ++ [.error reason]

def contents (chunks : List Chunk) : List (Except Text Text) := contentsFrom [] chunks

/-- Whether the run is cancelled before the line at a place has been fetched from a stream, that is
before the line ends. -/
def seesCancellation (chunks : List Chunk) (place : Nat) : Bool :=
  (linesBeforeCancellation? chunks).any (· ≤ place)

def uncancelled (chunks : List Chunk) : List Chunk := chunks.filter (· ≠ .cancellation)

theorem bytesOf_uncancelled (chunks : List Chunk) :
    bytesOf (uncancelled chunks) = bytesOf chunks := by
  induction chunks with
  | nil => rfl
  | cons chunk rest ih =>
    cases chunk with
    | bytes data => exact congrArg (data ++ ·) ih
    | failure reason => rfl
    | cancellation => exact ih

theorem failure?_uncancelled (chunks : List Chunk) :
    failure? (uncancelled chunks) = failure? chunks := by
  induction chunks with
  | nil => rfl
  | cons chunk rest ih =>
    cases chunk with
    | bytes data => exact ih
    | failure reason => rfl
    | cancellation => exact ih

theorem contents_uncancelled (chunks : List Chunk) :
    contents (uncancelled chunks) = contents chunks := by
  rw [contents, contentsFrom, bytesOf_uncancelled, failure?_uncancelled, contents, contentsFrom]

theorem seesCancellation_uncancelled (chunks : List Chunk) (place : Nat) :
    seesCancellation (uncancelled chunks) place = false := by
  have hnone : linesBeforeCancellation? (uncancelled chunks) = none := by
    induction chunks with
    | nil => rfl
    | cons chunk rest ih =>
      cases chunk with
      | bytes data => exact congrArg (Option.map (data.count Fetch.lineFeed + ·)) ih
      | failure reason => rfl
      | cancellation => exact ih
  rw [seesCancellation, hnone]
  rfl

end Chunk

namespace Fetch

/-- The fetches that give `contents`, where `cancelled` tells whether the run finds itself cancelled
after the fetch at a place. -/
def numbered (cancelled : Nat → Bool) (contents : List (Except Text Text)) : List Fetch :=
  contents.mapIdx fun place content => { cancelled := cancelled place, content }

theorem numbered_append (cancelled : Nat → Bool) (contents more : List (Except Text Text)) :
    numbered cancelled (contents ++ more)
      = numbered cancelled contents
        ++ numbered (fun place => cancelled (place + contents.length)) more :=
  List.mapIdx_append

theorem numbered_congr {cancelled others : Nat → Bool} {contents : List (Except Text Text)}
    (h : ∀ place < contents.length, cancelled place = others place) :
    numbered cancelled contents = numbered others contents := by
  apply List.ext_getElem?
  intro place
  rw [numbered, numbered, List.getElem?_mapIdx, List.getElem?_mapIdx]
  by_cases hplace : place < contents.length
  · rw [h place hplace]
  · rw [List.getElem?_eq_none (Nat.not_lt.1 hplace)]
    rfl

theorem numbered_const (cancelled : Bool) (contents : List (Except Text Text)) :
    numbered (fun _ => cancelled) contents
      = contents.map fun content => { cancelled, content } := by
  induction contents with
  | nil => rfl
  | cons content rest ih =>
    rw [numbered] at ih ⊢
    rw [List.mapIdx_cons, List.map_cons, ih]

theorem ofLines_eq_numbered (cancelled : Nat → Bool) (lines : List Text) :
    ofLines cancelled lines = numbered cancelled (lines.map .ok) := by
  apply List.ext_getElem?
  intro place
  rw [ofLines, numbered, List.getElem?_mapIdx, List.getElem?_mapIdx, List.getElem?_map,
    Option.map_map]
  rfl

theorem length_cut (begun bytes : List UInt8) :
    (cut begun bytes).1.length = bytes.count lineFeed := by
  induction bytes generalizing begun with
  | nil => rfl
  | cons b rest ih =>
    rw [cut]
    split
    · next hb => rw [List.length_cons, ih, hb, List.count_cons_self]
    · next hb => rw [ih, List.count_cons_of_ne hb]

/-- What the next chunk of bytes adds to the fetches. -/
theorem contentsFrom_bytes (begun data : List UInt8) (rest : List Chunk) :
    Chunk.contentsFrom begun (.bytes data :: rest)
      = (cut begun data).1.map lineOf ++ Chunk.contentsFrom (cut begun data).2 rest := by
  rw [Chunk.contentsFrom, Chunk.failure?, Chunk.bytesOf, Chunk.contentsFrom]
  cases Chunk.failure? rest with
  | none =>
    dsimp only
    rw [linesFrom_append, List.map_append]
  | some reason =>
    dsimp only
    rw [cut_append, List.map_append, List.append_assoc]

/-- **What the fetches from a stream are**: they give its contents, and the cancellation shows from
the line on in which it comes.  The induction is on the chunks, where `begun` has reached over the
chunks before, and the cancellation may be among these. -/
theorem ofChunksFrom_eq_numbered (cancelled : Bool) (begun : List UInt8) (chunks : List Chunk) :
    ofChunksFrom cancelled begun chunks
      = numbered (fun place => cancelled || Chunk.seesCancellation chunks place)
          (Chunk.contentsFrom begun chunks) := by
  induction chunks generalizing cancelled begun with
  | nil =>
    rw [ofChunksFrom, Chunk.contentsFrom, Chunk.failure?, Chunk.bytesOf]
    dsimp only
    rw [linesFrom, cut]
    by_cases hnil : begun = []
    · simp [hnil, numbered]
    · simp [hnil, numbered, Chunk.seesCancellation, Chunk.linesBeforeCancellation?]
  | cons chunk rest ih =>
    cases chunk with
    | bytes data =>
      rw [ofChunksFrom, contentsFrom_bytes, numbered_append, List.length_map, length_cut]
      dsimp only
      rw [ih]
      congr 1
      -- The lines that end in this chunk are fetched before anything behind it cancels the run.
      · have hearly : ∀ place < ((cut begun data).1.map lineOf).length,
            (cancelled || Chunk.seesCancellation (.bytes data :: rest) place) = cancelled := by
          intro place hplace
          rw [List.length_map, length_cut] at hplace
          rw [Chunk.seesCancellation, Chunk.linesBeforeCancellation?]
          cases Chunk.linesBeforeCancellation? rest with
          | none => exact Bool.or_false cancelled
          | some n =>
            have hlate : ¬ data.count lineFeed + n ≤ place := by omega
            simp [hlate]
        rw [numbered_congr hearly, numbered_const, List.map_map]
        rfl
      · congr 1
        funext place
        rw [Chunk.seesCancellation, Chunk.seesCancellation, Chunk.linesBeforeCancellation?]
        cases Chunk.linesBeforeCancellation? rest with
        | none => rfl
        | some n =>
          have hshift : data.count lineFeed + n ≤ place + data.count lineFeed ↔ n ≤ place := by
            omega
          simp [hshift]
    | failure reason =>
      simp [ofChunksFrom, Chunk.contentsFrom, Chunk.failure?, Chunk.bytesOf, cut, numbered,
        Chunk.seesCancellation, Chunk.linesBeforeCancellation?]
    | cancellation =>
      rw [ofChunksFrom, ih]
      have hseen : ∀ place, Chunk.seesCancellation (.cancellation :: rest) place = true :=
        fun place => decide_eq_true (Nat.zero_le place)
      simp only [hseen, Bool.true_or, Bool.or_true]
      rfl

theorem ofChunks_eq_numbered (chunks : List Chunk) :
    ofChunks chunks = numbered (Chunk.seesCancellation chunks) (Chunk.contents chunks) := by
  rw [ofChunks, ofChunksFrom_eq_numbered]
  rfl

/-- A cancellation within a line shows when the line has been fetched, not before. -/
example :
    ofChunks [.bytes [0x61, lineFeed, 0x62], .cancellation, .bytes [0x63, lineFeed]]
      = [⟨false, .ok "a"⟩, ⟨true, .ok "bc"⟩] := by rfl

end Fetch

/-! ### How a run over fetches ends -/

def uninterrupted (mode : Mode) (locales : Locales) (lines : List Text) : Report :=
  ofFetches mode locales (Fetch.ofLines (fun _ => false) lines)

/-- What stops a run after the fetch of the line at a place, where the fetches give `contents` and
`cancelled` tells which of them come after the cancellation.  A failed fetch does not show where the
run is cancelled. -/
inductive StopsWith (cancelled : Nat → Bool) (contents : List (Except Text Text)) (place : Nat) :
    Failure → Prop
  | cancellation (fetched : place < contents.length) (seen : cancelled place = true) :
      StopsWith cancelled contents place (.cancelled (place + 1))
  | failure {reason : Text} (failed : contents[place]? = some (.error reason))
      (unseen : cancelled place = false) : StopsWith cancelled contents place (.unreadable reason)

/-- Nothing stops a run before the fetch of the line at a place. -/
def Undisturbed (cancelled : Nat → Bool) (contents : List (Except Text Text)) (place : Nat) :
    Prop :=
  ∀ earlier < place, ∀ failure, ¬ StopsWith cancelled contents earlier failure

section

variable {cancelled : Nat → Bool} {contents : List (Except Text Text)} {place : Nat}
  {failure : Failure}

theorem StopsWith.lt_length (h : StopsWith cancelled contents place failure) :
    place < contents.length := by
  cases h with
  | cancellation fetched seen => exact fetched
  | failure failed unseen => exact (List.getElem?_eq_some_iff.1 failed).1

theorem Undisturbed.cancelled_eq_false (h : Undisturbed cancelled contents place)
    (hplace : place ≤ contents.length) {earlier : Nat} (hearlier : earlier < place) :
    cancelled earlier = false :=
  Bool.eq_false_iff.2 fun hseen =>
    h earlier hearlier _ (.cancellation (Nat.lt_of_lt_of_le hearlier hplace) hseen)

theorem Undisturbed.exists_lines (h : Undisturbed cancelled contents place)
    (hplace : place ≤ contents.length) :
    ∃ lines : List Text, contents.take place = lines.map .ok := by
  have hrange : contents.take place ∈ Set.range (List.map Except.ok) := by
    rw [Set.range_list_map]
    intro content hcontent
    obtain ⟨earlier, hlt, rfl⟩ := List.mem_take_iff_getElem.1 hcontent
    rw [Nat.lt_min] at hlt
    cases hc : contents[earlier] with
    | ok line => exact ⟨line, rfl⟩
    | error reason =>
      have hfailed : contents[earlier]? = some (.error reason) := by
        rw [List.getElem?_eq_getElem hlt.2, hc]
      exact absurd (StopsWith.failure hfailed (h.cancelled_eq_false hplace hlt.1))
        (h earlier hlt.1 _)
  obtain ⟨lines, hlines⟩ := hrange
  exact ⟨lines, hlines.symm⟩

/-- The events of the rows of some lines are those of the run over them, except for those at its
end. -/
theorem events_uninterrupted (mode : Mode) (locales : Locales) (lines : List Text) :
    (uninterrupted mode locales lines).events.filter (!·.closes)
      = .began locales.length mode :: (after locales lines).events.toList := by
  obtain ⟨judged, hbooked⟩ : ∃ judged, Booked (after locales lines) judged := by
    rw [← foldl_take_ofLine]
    exact ⟨_, booked_empty.foldl_take _⟩
  have hrows : (after locales lines).events.toList.filter (!·.closes)
      = (after locales lines).events.toList :=
    List.filter_eq_self.2 fun e he => by rw [hbooked.closes_eq_false e he]; rfl
  rw [uninterrupted, ofFetches, takeIn_ofLines, conclude_none, Intake.events_finish]
  show (Event.began locales.length mode :: ((after locales lines).events.toList ++ _)).filter _ = _
  rw [List.filter_cons_of_pos rfl, List.filter_append, hrows]
  split <;> simp [Event.closes]

theorem Undisturbed.numbered_eq (h : Undisturbed cancelled contents place)
    (hplace : place < contents.length) :
    ∃ (lines : List Text) (more : List Fetch), contents.take place = lines.map .ok
      ∧ lines.length = place
      ∧ Fetch.numbered cancelled contents
        = Fetch.ofLines (fun _ => false) lines
          ++ { cancelled := cancelled place, content := contents[place] } :: more := by
  obtain ⟨lines, hlines⟩ := h.exists_lines (Nat.le_of_lt hplace)
  have hlength : lines.length = place := by
    rw [← List.length_map (f := Except.ok (ε := Text)), ← hlines,
      List.length_take_of_le (Nat.le_of_lt hplace)]
  have hcontents :
      contents = lines.map .ok ++ contents[place] :: contents.drop (place + 1) := by
    rw [← hlines, ← List.drop_eq_getElem_cons hplace, List.take_append_drop]
  have hquiet : Fetch.numbered cancelled (lines.map .ok)
      = Fetch.ofLines (fun _ => false) lines := by
    rw [Fetch.ofLines_eq_numbered]
    refine Fetch.numbered_congr fun earlier hearlier => ?_
    rw [List.length_map, hlength] at hearlier
    exact h.cancelled_eq_false (Nat.le_of_lt hplace) hearlier
  have hfetches := congrArg (Fetch.numbered cancelled) hcontents
  rw [Fetch.numbered_append, hquiet, Fetch.numbered, Fetch.numbered, List.mapIdx_cons,
    List.length_map, hlength, Nat.zero_add] at hfetches
  exact ⟨lines, _, hlines, hlength, hfetches⟩

/-- **A run over fetches stops after the first one that is disturbed.** -/
theorem Undisturbed.ofFetches_eq (h : Undisturbed cancelled contents place) (mode : Mode)
    (locales : Locales) (hstop : StopsWith cancelled contents place failure) :
    ∃ lines : List Text, contents.take place = lines.map .ok
      ∧ ofFetches mode locales (Fetch.numbered cancelled contents)
        = { events := (uninterrupted mode locales lines).events.filter (!·.closes)
            outcome := .error failure } := by
  obtain ⟨lines, more, hlines, hlength, hfetches⟩ := h.numbered_eq hstop.lt_length
  refine ⟨lines, hlines, ?_⟩
  have hstopped : ofFetches mode locales (Fetch.numbered cancelled contents)
      = conclude locales mode (after locales lines, some failure) := by
    rw [ofFetches, hfetches, takeIn_append, hlength, takeIn, ← after]
    cases hstop with
    | cancellation fetched seen => rw [if_pos seen, Nat.add_comm]
    | failure failed unseen =>
      rw [if_neg (Bool.eq_false_iff.1 unseen), (List.getElem?_eq_some_iff.1 failed).2]
  rw [hstopped, events_uninterrupted]
  rfl

/-- A run over fetches of which none is disturbed is a run over their lines. -/
theorem ofFetches_eq_uninterrupted (mode : Mode) (locales : Locales)
    (h : Undisturbed cancelled contents contents.length) :
    ∃ lines : List Text, contents = lines.map .ok
      ∧ ofFetches mode locales (Fetch.numbered cancelled contents)
        = uninterrupted mode locales lines := by
  obtain ⟨lines, hlines⟩ := h.exists_lines (Nat.le_refl _)
  rw [List.take_length] at hlines
  refine ⟨lines, hlines, ?_⟩
  rw [uninterrupted, Fetch.ofLines_eq_numbered, ← hlines]
  congr 1
  exact Fetch.numbered_congr fun place hplace => h.cancelled_eq_false (Nat.le_refl _) hplace

end

/-- A run that fetches `contents` ends at the border of a row: nothing of the line that stops it is
taken in, and if nothing stops it, it gives what it gives without a cancellation. -/
structure EndsAtRowBorder (mode : Mode) (locales : Locales) (cancelled : Nat → Bool)
    (contents : List (Except Text Text)) (report uncancelled : Report) : Prop where
  /-- The run ends as the first disturbed fetch has it.  Its events are those of a run over the
  lines before, except for the events at the end. -/
  stopped : ∀ place failure, StopsWith cancelled contents place failure →
    Undisturbed cancelled contents place →
      ∃ lines : List Text, contents.take place = lines.map .ok
        ∧ report.events = (uninterrupted mode locales lines).events.filter (!·.closes)
        ∧ report.outcome = .error failure
  whole : (∀ place failure, ¬ StopsWith cancelled contents place failure) → report = uncancelled

/-- **A cancellation or a failure to read cuts a run at the border of a row.**  This holds of runs
over a list of lines, wherever they find themselves cancelled, and of runs over a stream, where the
fetch of a line sees a cancellation exactly if it comes before the line ends. -/
theorem ends_at_row_border (locales : Locales) :
    (∀ (cancelled : Nat → Bool) (lines : List Text),
        EndsAtRowBorder .sequential locales cancelled (lines.map .ok)
          (ofLinesCancellable locales cancelled lines) (ofLines locales lines))
      ∧ ∀ chunks : List Chunk,
        EndsAtRowBorder .reader locales (Chunk.seesCancellation chunks) (Chunk.contents chunks)
          (ofChunks locales chunks) (ofChunks locales (Chunk.uncancelled chunks)) := by
  refine ⟨fun cancelled lines => ⟨?_, ?_⟩, fun chunks => ⟨?_, ?_⟩⟩
  · intro place failure hstop h
    obtain ⟨earlier, hlines, hreport⟩ := h.ofFetches_eq .sequential locales hstop
    rw [ofLinesCancellable, Fetch.ofLines_eq_numbered, hreport]
    exact ⟨earlier, hlines, rfl, rfl⟩
  · intro hnone
    obtain ⟨all, hall, hreport⟩ :=
      ofFetches_eq_uninterrupted .sequential locales fun place _ => hnone place
    obtain rfl : lines = all := List.map_injective_iff.2 (fun _ _ => Except.ok.inj) hall
    rw [ofLinesCancellable, Fetch.ofLines_eq_numbered, hreport]
    rfl
  · intro place failure hstop h
    obtain ⟨earlier, hlines, hreport⟩ := h.ofFetches_eq .reader locales hstop
    rw [ofChunks, Fetch.ofChunks_eq_numbered, hreport]
    exact ⟨earlier, hlines, rfl, rfl⟩
  · intro hnone
    -- A cancellation changes nothing in what the stream gives.
    rw [ofChunks, ofChunks, Fetch.ofChunks_eq_numbered, Fetch.ofChunks_eq_numbered,
      Chunk.contents_uncancelled]
    congr 1
    refine Fetch.numbered_congr fun place hplace => ?_
    rw [Chunk.seesCancellation_uncancelled]
    exact Bool.eq_false_iff.2 fun hseen => hnone place _ (.cancellation hplace hseen)

end LogCatalog.Run
