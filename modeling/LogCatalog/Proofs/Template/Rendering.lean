import LogCatalog.Proofs.Template.TrailingText
import Mathlib.Data.List.Induction

/-!
# Writing templates

A template is written by doubling the braces of its literal texts and setting each hole in single
braces.  At a hole the braces of both kinds meet and make longer runs, as in `{{{a}}}`.  They are
still told apart: doubled braces come in pairs, so the run before a name and the run behind it are
odd, and all other runs are even.

* `render`: the template for literal texts with holes between them.
* `scanFrom_escape`: a literal text holds no hole and leaves the scanner in text.
* `scanFrom_hole_escape`: the literal text behind a hole does not move the end of the hole.
* `scan_render`: scanning gives back the holes that were written, each where it was written.
-/

namespace LogCatalog.Template

/-! ### Written templates -/

/-- A hole that is to be written: a name, and a spec, which is empty or begins with the sign that
ends the name. -/
structure Gap where
  name : Text
  spec : Text
  name_plain : IsPlain name
  name_undelimited : ∀ c ∈ name, c ≠ ',' ∧ c ≠ ':'
  spec_plain : IsPlain spec
  spec_delimited : ∀ c ∈ spec.head?, c = ',' ∨ c = ':'

namespace Gap

def content (gap : Gap) : Text := gap.name ++ gap.spec

def written (gap : Gap) : Text := '{' :: (gap.content ++ ['}'])

/-- The hole that is read where the gap is written right behind a text. -/
def behind (gap : Gap) (before : Text) : Hole where
  name := gap.name
  spec := gap.spec
  start := Text.byteLength before
  stop := Text.byteLength (before ++ gap.written)

end Gap

/-- A literal text with every brace doubled. -/
def escape : Text → Text
  | [] => []
  | c :: rest => if c = '{' ∨ c = '}' then c :: c :: escape rest else c :: escape rest

/-- The template that begins with a literal text and goes on with gaps, each with the literal text
behind it. -/
def render (literal : Text) : List (Gap × Text) → Text
  | [] => escape literal
  | (gap, next) :: rest => escape literal ++ gap.written ++ render next rest

theorem Gap.content_plain (gap : Gap) : IsPlain gap.content := by
  intro c hc
  rcases List.mem_append.1 hc with hname | hspec
  · exact gap.name_plain c hname
  · exact gap.spec_plain c hspec

theorem Gap.byteLength_written (gap : Gap) :
    Text.byteLength gap.written = 1 + Text.byteLength gap.content + 1 := by
  rw [written, Text.byteLength, Text.byteLength_append, ← Nat.add_assoc]
  rfl

/-- Name and spec are cut apart at the first character of the spec. -/
theorem Gap.ofContent_content (gap : Gap) (opening closing : Nat) :
    Hole.ofContent gap.content opening closing
      = { name := gap.name, spec := gap.spec, start := opening, stop := closing + 1 } := by
  have hname : ∀ c ∈ gap.name, (!isDelimiter c) = true := by
    intro c hc
    obtain ⟨hcomma, hcolon⟩ := gap.name_undelimited c hc
    simp [isDelimiter, hcomma, hcolon]
  have hspec : gap.spec.takeWhile (!isDelimiter ·) = []
      ∧ gap.spec.dropWhile (!isDelimiter ·) = gap.spec := by
    cases hs : gap.spec with
    | nil => exact ⟨rfl, rfl⟩
    | cons c rest =>
      have hc : (!isDelimiter c) = false := by
        rcases gap.spec_delimited c (by rw [hs]; rfl) with rfl | rfl
        · rfl
        · rfl
      rw [List.takeWhile_cons, List.dropWhile_cons, hc]
      exact ⟨rfl, rfl⟩
  rw [Hole.ofContent, content, List.takeWhile_append_of_pos hname,
    List.dropWhile_append_of_pos hname, hspec.1, hspec.2, List.append_nil]

/-! ### Reading literal texts -/

theorem scanFrom_text_opening (position : Nat) (odd : Bool) (rest : Text) :
    scanFrom position (.text odd) ('{' :: rest) = scanFrom (position + 1) (.text !odd) rest := by
  rw [scanFrom_cons]
  rfl

theorem scanFrom_text_other {c : Char} (hc : c ≠ '{') (position : Nat) (rest : Text) :
    scanFrom position (.text false) (c :: rest)
      = scanFrom (position + c.utf8Size) (.text false) rest := by
  rw [scanFrom_cons, Place.next, if_neg hc]
  rfl

/-- A literal text holds no hole, and behind it the scanner is in text again. -/
theorem scanFrom_escape (position : Nat) (literal rest : Text) :
    scanFrom position (.text false) (escape literal ++ rest)
      = scanFrom (position + Text.byteLength (escape literal)) (.text false) rest := by
  induction literal generalizing position with
  | nil => rfl
  | cons c more ih =>
    rw [escape]
    by_cases hopen : c = '{'
    · subst hopen
      rw [if_pos (.inl rfl), List.cons_append, List.cons_append, scanFrom_text_opening,
        scanFrom_text_opening, Bool.not_not, ih, Text.byteLength, Text.byteLength]
      congr 1
      have : Char.utf8Size '{' = 1 := by decide
      omega
    · split
      · rw [List.cons_append, List.cons_append, scanFrom_text_other hopen,
          scanFrom_text_other hopen, ih, Text.byteLength, Text.byteLength]
        congr 1
        omega
      · rw [List.cons_append, scanFrom_text_other hopen, ih, Text.byteLength, Nat.add_assoc]

/-! ### Reading holes -/

theorem scanFrom_hole_plain {s : Text} (hs : IsPlain s) (position opening : Nat)
    (content rest : Text) :
    scanFrom position (.hole opening content 0) (s ++ rest)
      = scanFrom (position + Text.byteLength s) (.hole opening (s.reverse ++ content) 0) rest := by
  induction s generalizing position content with
  | nil => rfl
  | cons c more ih =>
    have hc := (hs c (List.mem_cons_self ..)).2
    have hmore : IsPlain more := fun x hx => hs x (List.mem_cons_of_mem c hx)
    rw [List.cons_append, scanFrom_cons, Place.closed, Place.next, if_neg hc, if_neg hc,
      if_neg (by decide), if_neg (by decide), List.nil_append, List.replicate_zero,
      List.nil_append, ih hmore, Text.byteLength, List.reverse_cons, List.append_assoc,
      Nat.add_assoc]
    rfl

/-- A gap written in text opens a hole and brings the scanner behind its closing brace. -/
theorem scanFrom_written (gap : Gap) (position : Nat) (rest : Text) :
    scanFrom position (.text false) (gap.written ++ rest)
      = scanFrom (position + Text.byteLength gap.written)
          (.hole position gap.content.reverse 1) rest := by
  have hplain := gap.content_plain
  rw [gap.byteLength_written, Gap.written, List.cons_append, scanFrom_text_opening]
  cases hcontent : gap.content with
  | nil => exact (scanFrom_cons ..).trans rfl
  | cons c more =>
    -- the first character of the content is read in text, since only it shows the run to be odd
    rw [hcontent] at hplain
    obtain ⟨hopen, hclose⟩ := hplain c (List.mem_cons_self ..)
    have hmore : IsPlain more := fun x hx => hplain x (List.mem_cons_of_mem c hx)
    have hfirst : Place.next (position + 1) (.text !false) c = .hole position [c] 0 := by
      rw [Place.next, if_neg hopen, if_neg hclose, Nat.add_sub_cancel]
      rfl
    rw [List.cons_append, List.cons_append, scanFrom_cons, hfirst, List.append_assoc,
      scanFrom_hole_plain hmore, List.singleton_append, scanFrom_cons, Text.byteLength,
      List.reverse_cons]
    show scanFrom _ (.hole position (more.reverse ++ [c]) 1) rest = _
    congr 1
    have : Char.utf8Size '}' = 1 := by decide
    omega

/-- An odd run of closing braces that has come to its end closes the hole with its first brace. -/
theorem scanFrom_hole_of_odd {run : Nat} (hodd : run % 2 = 1) {rest : Text}
    (hend : rest.head? ≠ some '}') (position opening : Nat) (content : Text) :
    scanFrom position (.hole opening content run) rest
      = .ofContent content.reverse opening (position - run)
          :: scanFrom position (.text false) rest := by
  cases rest with
  | nil =>
    rw [scanFrom_nil, Place.closedAtEnd, if_neg (by omega)]
    rfl
  | cons c more =>
    have hc : c ≠ '}' := fun h => hend (congrArg some h)
    have hnext : Place.next position (.hole opening content run) c
        = Place.next position (.text false) c := by
      rw [Place.next, Place.next, if_neg hc, if_pos hodd]
      by_cases hopen : c = '{'
      · rw [if_pos hopen, beq_iff_eq.2 hopen]
        rfl
      · rw [if_neg hopen, beq_eq_false_iff_ne.2 hopen]
        rfl
    have hclosed : Place.closed position (.hole opening content run) c
        = [.ofContent content.reverse opening (position - run)] := by
      rw [Place.closed, if_neg hc, if_pos hodd]
    rw [scanFrom_cons, scanFrom_cons, hnext, hclosed]
    rfl

theorem scanFrom_hole_closing (position opening run : Nat) (content rest : Text) :
    scanFrom position (.hole opening content run) ('}' :: rest)
      = scanFrom (position + 1) (.hole opening content (run + 1)) rest := by
  rw [scanFrom_cons]
  rfl

/-- **What is written behind a hole leaves its end alone.**  The closing braces at the beginning of
a literal text are doubled, so that the run which closes the hole stays odd. -/
theorem scanFrom_hole_escape {run : Nat} (hodd : run % 2 = 1) {rest : Text}
    (hend : rest.head? ≠ some '}') (position opening : Nat) (content literal : Text) :
    scanFrom position (.hole opening content run) (escape literal ++ rest)
      = .ofContent content.reverse opening (position - run)
          :: scanFrom position (.text false) (escape literal ++ rest) := by
  induction literal generalizing position run with
  | nil => exact scanFrom_hole_of_odd hodd hend position opening content
  | cons c more ih =>
    by_cases hclose : c = '}'
    · subst hclose
      have hstop : position + 1 + 1 - (run + 1 + 1) = position - run := by omega
      have hsize : Char.utf8Size '}' = 1 := by decide
      rw [escape, if_pos (.inr rfl), List.cons_append, List.cons_append, scanFrom_hole_closing,
        scanFrom_hole_closing, ih (by omega), hstop, scanFrom_text_other (by decide),
        scanFrom_text_other (by decide), hsize]
    · refine scanFrom_hole_of_odd hodd ?_ position opening content
      have hhead : (escape (c :: more) ++ rest).head? = some c := by
        rw [escape]
        split <;> rfl
      rw [hhead]
      exact fun h => hclose (Option.some.inj h)

/-! ### Reading what was written -/

theorem render_eq_escape_append (literal : Text) (pieces : List (Gap × Text)) :
    render literal pieces = escape literal ++ render [] pieces := by
  cases pieces with
  | nil => exact (List.append_nil _).symm
  | cons piece rest =>
    rw [render, render, List.append_assoc]
    rfl

theorem head?_render_nil_ne (pieces : List (Gap × Text)) : (render [] pieces).head? ≠ some '}' := by
  cases pieces with
  | nil =>
    show none ≠ some '}'
    decide
  | cons piece rest =>
    show some '{' ≠ some '}'
    decide

theorem scanFrom_render (before literal : Text) (pieces : List (Gap × Text)) :
    scanFrom (Text.byteLength before) (.text false) (render literal pieces)
      = pieces.mapIdx fun i piece =>
          piece.1.behind (before ++ render literal (pieces.take i)) := by
  induction pieces generalizing before literal with
  | nil =>
    have h := scanFrom_escape (Text.byteLength before) literal []
    rw [List.append_nil] at h
    exact h
  | cons piece rest ih =>
    obtain ⟨gap, next⟩ := piece
    have hclosed :
        Hole.ofContent gap.content.reverse.reverse (Text.byteLength (before ++ escape literal))
            (Text.byteLength (before ++ escape literal ++ gap.written) - 1)
          = gap.behind (before ++ escape literal) := by
      rw [List.reverse_reverse, gap.ofContent_content, Gap.behind,
        Text.byteLength_append _ gap.written, gap.byteLength_written]
      rfl
    rw [render, List.append_assoc, scanFrom_escape, ← Text.byteLength_append, scanFrom_written,
      ← Text.byteLength_append, render_eq_escape_append next,
      scanFrom_hole_escape (by decide) (head?_render_nil_ne rest), ← render_eq_escape_append,
      hclosed, ih, List.mapIdx_cons]
    congr 1
    simp only [List.take_succ_cons, render, List.append_assoc]

/-! ### Names -/

theorem distinct_concat (texts : List Text) (t : Text) :
    distinct (texts ++ [t]) = insertNew (distinct texts) t := by
  rw [distinct, List.foldl_append]
  rfl

theorem mem_distinct {texts : List Text} {t : Text} : t ∈ distinct texts ↔ t ∈ texts := by
  rw [distinct, mem_foldl_insertNew]
  simp

theorem distinct_eq_eraseDups (texts : List Text) : distinct texts = texts.eraseDups := by
  induction texts using List.reverseRecOn with
  | nil => rfl
  | append_singleton texts t ih =>
    rw [distinct_concat, insertNew, List.eraseDups_append, ← ih]
    by_cases ht : t ∈ texts
    · rw [if_pos (List.contains_iff_mem.2 (mem_distinct.2 ht))]
      simp [List.removeAll, ht]
    · have hnew : ¬ (distinct texts).contains t = true := by
        rw [List.contains_iff_mem, mem_distinct]
        exact ht
      have hone : [t].removeAll texts = [t] := by simp [List.removeAll, ht]
      rw [if_neg hnew, hone, List.eraseDups_cons]
      rfl

/-- **Scanning gives back the holes that were written**, with their names and specs, each at the
bytes where it was written, and nothing else; the names of the template are theirs, without later
repetitions. -/
theorem scan_render (literal : Text) (pieces : List (Gap × Text)) :
    scan (render literal pieces)
        = pieces.mapIdx (fun i piece => piece.1.behind (render literal (pieces.take i)))
      ∧ names (render literal pieces) = (pieces.map fun piece => piece.1.name).eraseDups := by
  have hscan : scan (render literal pieces)
      = pieces.mapIdx fun i piece => piece.1.behind (render literal (pieces.take i)) :=
    scanFrom_render [] literal pieces
  refine ⟨hscan, ?_⟩
  have hnames : (scan (render literal pieces)).map Hole.name
      = pieces.map fun piece => piece.1.name := by
    refine List.ext_getElem? fun i => ?_
    rw [hscan, List.getElem?_map, List.getElem?_mapIdx, Option.map_map, List.getElem?_map]
    rfl
  rw [names, hnames, distinct_eq_eraseDups]

/-- In `{{{a:N}}}` a hole stands between two literal braces. -/
example :
    scan (render "\x7b" [(⟨"a", ":N", by decide, by simp, by decide, by simp⟩, "\x7d")])
      = [⟨"a", ":N", 2, 7⟩] := by decide

end LogCatalog.Template
