import LogCatalog.Text.Basic

/-!
# Message templates

A template is text with *holes*: `{name}`, with an alignment (`{name,10}`) or a format (`{name:N2}`)
after the name.  Doubled braces stand for themselves.  A run of opening braces opens a hole with
its last brace if its length is odd.  A run of closing braces closes a hole with its first brace if
its length is odd or nothing follows it.  A hole that is never closed is text.

* `scan`: the holes of a template, in order.
* `names`: the distinct names of the holes, each at the place of its first hole.
* `nodup_names`, `mem_names`: these are the names of the holes, without repetition.
-/

namespace LogCatalog.Template

/-- A hole of a template.  `start` and `stop` are the byte positions before its opening brace and
after its closing brace. -/
structure Hole where
  name : Text
  /-- The alignment and the format, with the sign that begins them. -/
  spec : Text
  start : Nat
  stop : Nat
  deriving DecidableEq, Repr

def isDelimiter (c : Char) : Bool := c == ',' || c == ':'

/-- The hole between two braces at the given positions. -/
def Hole.ofContent (content : Text) (opening closing : Nat) : Hole where
  name := content.takeWhile (!isDelimiter ·)
  spec := content.dropWhile (!isDelimiter ·)
  start := opening
  stop := closing + 1

/-- What the characters before a position say about the position. -/
inductive Place where
  /-- In text, after an odd or an even number of opening braces. -/
  | text (odd : Bool)
  /-- In a hole with the given opening position and content, the last character first, after a run
  of closing braces. -/
  | hole (opening : Nat) (content : Text) (run : Nat)
  deriving DecidableEq, Repr

/-- The holes that close in the rest of a template. -/
def scanFrom (position : Nat) : Place → Text → List Hole
  | .text _, [] => []
  | .text odd, c :: rest =>
    let next := position + c.utf8Size
    if c = '{' then scanFrom next (.text !odd) rest
    else if odd then
      if c = '}' then scanFrom next (.hole (position - 1) [] 1) rest
      else scanFrom next (.hole (position - 1) [c] 0) rest
    else scanFrom next (.text false) rest
  -- At the end of the template an even run closes the hole as well.
  | .hole opening content run, [] =>
    if run = 0 then [] else [.ofContent content.reverse opening (position - run)]
  | .hole opening content run, c :: rest =>
    let next := position + c.utf8Size
    if c = '}' then scanFrom next (.hole opening content (run + 1)) rest
    else if run % 2 = 1 then
      .ofContent content.reverse opening (position - run)
        :: scanFrom next (.text (c == '{')) rest
    else scanFrom next (.hole opening (c :: (List.replicate run '}' ++ content)) 0) rest

def scan (template : Text) : List Hole := scanFrom 0 (.text false) template

def insertNew (seen : List Text) (t : Text) : List Text :=
  if seen.contains t then seen else seen ++ [t]

/-- The distinct texts of a list, each at its first place. -/
def distinct (texts : List Text) : List Text := texts.foldl insertNew []

/-- The distinct names of the holes of a template, each at the place of its first hole. -/
def names (template : Text) : List Text := distinct ((scan template).map Hole.name)

theorem nodup_insertNew {seen : List Text} (h : seen.Nodup) (t : Text) :
    (insertNew seen t).Nodup := by
  rw [insertNew]
  split
  · exact h
  · next hn =>
    refine List.nodup_append.2 ⟨h, by simp, fun a ha b hb hab => hn ?_⟩
    rw [List.contains_iff_mem, ← List.mem_singleton.1 hb, ← hab]
    exact ha

theorem mem_insertNew {seen : List Text} {s t : Text} :
    s ∈ insertNew seen t ↔ s ∈ seen ∨ s = t := by
  rw [insertNew]
  split
  · next h =>
    rw [List.contains_iff_mem] at h
    exact ⟨.inl, fun h' => h'.elim id fun e => e ▸ h⟩
  · simp

theorem nodup_foldl_insertNew (texts : List Text) {seen : List Text} (h : seen.Nodup) :
    (texts.foldl insertNew seen).Nodup := by
  induction texts generalizing seen with
  | nil => exact h
  | cons t rest ih => exact ih (nodup_insertNew h t)

theorem mem_foldl_insertNew {texts seen : List Text} {s : Text} :
    s ∈ texts.foldl insertNew seen ↔ s ∈ seen ∨ s ∈ texts := by
  induction texts generalizing seen with
  | nil => simp
  | cons t rest ih => rw [List.foldl_cons, ih, mem_insertNew, List.mem_cons, or_assoc]

theorem nodup_names (template : Text) : (names template).Nodup :=
  nodup_foldl_insertNew _ List.nodup_nil

theorem mem_names {template name : Text} :
    name ∈ names template ↔ ∃ hole ∈ scan template, hole.name = name := by
  rw [names, distinct, mem_foldl_insertNew]
  simp

end LogCatalog.Template
