import LogCatalog.Template

/-!
# Reading a template piece by piece

`scanFrom` goes from place to place and, now and then, gives a hole.  Here the two are told apart:
`Place.next` is the place after a character, `Place.closed` the holes that a character shows to be
closed, and `Place.closedAtEnd` those that the end of the template shows to be closed.

* `scanFrom_append`: a template may be cut anywhere; what is read of the first piece is `closedIn`,
  and the second piece is read from `placeAfter` on.
-/

namespace LogCatalog.Template

namespace Place

def next (position : Nat) : Place → Char → Place
  | text odd, c =>
    if c = '{' then text !odd
    else if odd then
      if c = '}' then hole (position - 1) [] 1 else hole (position - 1) [c] 0
    else text false
  | hole opening content run, c =>
    if c = '}' then hole opening content (run + 1)
    else if run % 2 = 1 then text (c == '{')
    else hole opening (c :: (List.replicate run '}' ++ content)) 0

/-- The holes that a character at the given position shows to be closed. -/
def closed (position : Nat) : Place → Char → List Hole
  | text _, _ => []
  | hole opening content run, c =>
    if c = '}' then []
    else if run % 2 = 1 then [.ofContent content.reverse opening (position - run)]
    else []

/-- The holes that the end of the template at the given position shows to be closed. -/
def closedAtEnd (position : Nat) : Place → List Hole
  | text _ => []
  | hole opening content run =>
    if run = 0 then [] else [.ofContent content.reverse opening (position - run)]

end Place

theorem scanFrom_nil (position : Nat) (place : Place) :
    scanFrom position place [] = place.closedAtEnd position := by
  cases place with
  | text odd => rfl
  | hole opening content run => rfl

theorem scanFrom_cons (position : Nat) (place : Place) (c : Char) (rest : Text) :
    scanFrom position place (c :: rest) =
      place.closed position c
        ++ scanFrom (position + c.utf8Size) (place.next position c) rest := by
  cases place with
  | text odd =>
    rw [scanFrom, Place.closed, Place.next, List.nil_append]
    split
    · rfl
    · split
      · split <;> rfl
      · rfl
  | hole opening content run =>
    rw [scanFrom, Place.closed, Place.next]
    split
    · rfl
    · split <;> rfl

def placeAfter (position : Nat) (place : Place) : Text → Place
  | [] => place
  | c :: rest => placeAfter (position + c.utf8Size) (place.next position c) rest

/-- The holes that a text shows to be closed, whatever follows it. -/
def closedIn (position : Nat) (place : Place) : Text → List Hole
  | [] => []
  | c :: rest =>
    place.closed position c ++ closedIn (position + c.utf8Size) (place.next position c) rest

/-- **A template may be cut anywhere.** -/
theorem scanFrom_append (position : Nat) (place : Place) (s t : Text) :
    scanFrom position place (s ++ t) =
      closedIn position place s
        ++ scanFrom (position + Text.byteLength s) (placeAfter position place s) t := by
  induction s generalizing position place with
  | nil => rfl
  | cons c rest ih =>
    rw [List.cons_append, scanFrom_cons, ih, closedIn, placeAfter, Text.byteLength,
      List.append_assoc, Nat.add_assoc]

theorem scanFrom_eq (position : Nat) (place : Place) (t : Text) :
    scanFrom position place t =
      closedIn position place t
        ++ (placeAfter position place t).closedAtEnd (position + Text.byteLength t) := by
  have h := scanFrom_append position place t []
  rw [List.append_nil, scanFrom_nil] at h
  exact h

end LogCatalog.Template
