import LogCatalog.Run.Fetch
import LogCatalog.Run.Intake

/-!
# Runs

A run takes in the lines of a table in order and ends with the definitions of the accepted rows or
with the reason why there are none.  The three kinds of run differ in where their lines come from:
`ofLines` takes them from a list, `ofChunks` from a stream of bytes, and `ofLinesInParallel` reads
all rows before it judges the first one.
-/

namespace LogCatalog.Run

open Row

/-- Takes in the fetched lines, of which the first has the given number, up to the first one that
finds the run cancelled or could not be read. -/
def takeIn (locales : Locales) (line : Nat) (intake : Intake) :
    List Fetch → Intake × Option Failure
  | [] => (intake, none)
  | fetch :: rest =>
    -- The run looks at its cancellation before it looks at the line.
    if fetch.cancelled then (intake, some (.cancelled line))
    else
      match fetch.content with
      | .error reason => (intake, some (.unreadable reason))
      | .ok text => takeIn locales (line + 1) (intake.push locales line text) rest

def conclude (locales : Locales) (mode : Mode) : Intake × Option Failure → Report
  | (intake, some failure) =>
    { events := .began locales.length mode :: intake.events.toList, outcome := .error failure }
  | (intake, none) =>
    let report := intake.finish
    { report with events := .began locales.length mode :: report.events }

def ofFetches (mode : Mode) (locales : Locales) (fetches : List Fetch) : Report :=
  conclude locales mode (takeIn locales 1 .empty fetches)

/-- A run over a list of lines, which is cancelled from some fetch on. -/
def ofLinesCancellable (locales : Locales) (cancelled : Nat → Bool) (lines : List Text) : Report :=
  ofFetches .sequential locales (Fetch.ofLines cancelled lines)

def ofLines (locales : Locales) (lines : List Text) : Report :=
  ofLinesCancellable locales (fun _ => false) lines

def ofChunks (locales : Locales) (chunks : List Chunk) : Report :=
  ofFetches .reader locales (Fetch.ofChunks chunks)

/-- The rows of a list of lines, read without regard to each other; `none` stands for a skipped
line. -/
def drafts (locales : Locales) (lines : List Text) : List (Option Draft) :=
  lines.mapIdx fun place line =>
    (columns? line).map fun columns => Draft.ofColumns locales columns (place + 1)

def commitDraft (intake : Intake) : Option Draft → Intake
  | some draft => intake.commit draft
  | none => intake.skip

/-- A run that reads all rows first and judges them afterwards, in the order of the lines. -/
def ofLinesInParallel (locales : Locales) (lines : List Text) : Report :=
  conclude locales .parallel ((drafts locales lines).foldl commitDraft .empty, none)

/-- A run for the locales that a list of tags names.  With a bad list the run does not begin. -/
def withTags (tags : List Text) (run : Locales → Report) : Report :=
  match Locales.ofTags tags with
  | .error fault => { events := [], outcome := .error (.locales fault) }
  | .ok locales => run locales

end LogCatalog.Run
