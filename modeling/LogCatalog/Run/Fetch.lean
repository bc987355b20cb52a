import LogCatalog.Text.Utf8

/-!
# Fetching lines

A run fetches one line after the other and, after each fetch, looks whether it has been cancelled.
The lines come from a list or from a stream of bytes, which arrives in chunks.

* `Fetch.ofLines`: the fetches from a list of lines.
* `Fetch.ofChunks`: the fetches from a stream.
* `Fetch.cut_append`: two pieces of a stream hold the lines that they hold together.
-/

namespace LogCatalog.Run

/-- The attempt to fetch one line. -/
structure Fetch where
  /-- Whether the run finds itself cancelled after the attempt. -/
  cancelled : Bool
  /-- The line, or why it could not be read. -/
  content : Except Text Text

inductive Chunk where
  | bytes (data : List UInt8)
  /-- The stream fails here. -/
  | failure (reason : Text)
  /-- The run is cancelled while the stream is read here. -/
  | cancellation
  deriving DecidableEq, Repr

namespace Fetch

/-- The fetches from a list of lines, where `cancelled` tells whether the run finds itself cancelled
after it fetched the line at a place. -/
def ofLines (cancelled : Nat → Bool) (lines : List Text) : List Fetch :=
  lines.mapIdx fun place line => { cancelled := cancelled place, content := .ok line }

def lineFeed : UInt8 := 10

def carriageReturn : UInt8 := 13

/-- The bytes of a line without the carriage return that belongs to its end.  The last byte comes
first. -/
def dropReturn : List UInt8 → List UInt8
  | [] => []
  | b :: rest => if b = carriageReturn then rest else b :: rest

/-- The line that bytes hold, or that they hold none. -/
def lineOf (bytes : List UInt8) : Except Text Text :=
  match Text.Utf8.decode bytes with
  | some line => .ok line
  | none => .error "stream did not contain valid UTF-8"

/-- Cuts bytes into the lines that end in them and the beginning of a line after these.  `begun` is
what came before the bytes, the last byte first. -/
def cut (begun : List UInt8) : List UInt8 → List (List UInt8) × List UInt8
  | [] => ([], begun)
  | b :: rest =>
    if b = lineFeed then
      let (lines, begun') := cut [] rest
      ((dropReturn begun).reverse :: lines, begun')
    else cut (b :: begun) rest

/-- It does not matter where a stream is cut into chunks. -/
theorem cut_append (begun bytes more : List UInt8) :
    cut begun (bytes ++ more) =
      ((cut begun bytes).1 ++ (cut (cut begun bytes).2 more).1,
        (cut (cut begun bytes).2 more).2) := by
  induction bytes generalizing begun with
  | nil => rfl
  | cons b rest ih =>
    rw [List.cons_append, cut, cut]
    split
    · rw [ih]; rfl
    · exact ih _

/-- The fetches from the rest of a stream.  `begun` is the beginning of a line that the stream has
given so far, the last byte first.  Nothing is fetched after a failure. -/
def ofChunksFrom (cancelled : Bool) (begun : List UInt8) : List Chunk → List Fetch
  | [] => if begun = [] then [] else [{ cancelled, content := lineOf begun.reverse }]
  | .bytes data :: rest =>
    let (lines, begun') := cut begun data
    lines.map (fun line => { cancelled, content := lineOf line })
      ++ ofChunksFrom cancelled begun' rest
  | .failure reason :: _ => [{ cancelled, content := .error reason }]
  | .cancellation :: rest => ofChunksFrom true begun rest

def ofChunks (chunks : List Chunk) : List Fetch := ofChunksFrom false [] chunks

end Fetch

end LogCatalog.Run
