import LogCatalog.MessageId
import LogCatalog.Row.Localizations
import LogCatalog.Row.Registry
import LogCatalog.Row.Slots

/-!
# Rows

A row is judged in two steps.  `Draft.ofColumns` reads its columns without regard to other rows.
`Draft.commit` then looks up whether its name is free, and makes a definition of a draft in which
nothing fatal was found.
-/

namespace LogCatalog.Row

/-- What a row says, as far as it could be read. -/
structure Parts where
  id : Option Nat
  name : Option CanonicalName
  level : Option Level
  hasException : Bool
  message : Text
  placeholders : List Placeholder
  comment : Option Text
  localizations : List (Locale × Text)
  deriving DecidableEq, Repr

/-- A row that has been read and not yet been compared with other rows. -/
structure Draft where
  line : Nat
  /-- What the row says, unless it has too few columns. -/
  parts : Option Parts
  /-- What was found in the id and the name. -/
  nameNotes : List Diagnostic
  /-- What was found in the other columns. -/
  otherNotes : List Diagnostic
  deriving DecidableEq, Repr

structure Verdict where
  /-- The definition of the row, if the row was accepted. -/
  definition? : Option Definition
  diagnostics : List Diagnostic
  deriving DecidableEq, Repr

namespace Verdict

def has (v : Verdict) (kind : Diagnostic.Kind) : Bool := v.diagnostics.any (·.kind == kind)

def isFatal (v : Verdict) : Bool := v.diagnostics.any Diagnostic.isFatal

end Verdict

/-- Placeholder names that the methods made of a definition use themselves. -/
def reservedNames : List Text := ["logger", "exception"]

def idFindings (id : Option Nat) : List Finding := if id = none then [.malformedId] else []

def nameFindings : Option CanonicalName → List Finding
  | some name => name.changes.map .changedName
  | none => [.blankName]

def levelFindings (level : Option Level) (cell : Text) : List Finding :=
  if level = none then [.unknownLevel cell] else []

def templateFindings (names : List Text) : List Finding :=
  (if slotCount < names.length then [.tooManyPlaceholders names.length] else [])
    ++ (names.mapIdx fun place name => (place, name)).filterMap fun (place, name) =>
      if reservedNames.contains name then some (.reservedPlaceholder name place) else none

def comment? (columns : List Text) : Option Text :=
  (columns[commentColumn]?.map Text.trim).filter (· ≠ [])

namespace Draft

/-- Everything that was found before the names of other rows are known. -/
def diagnostics (d : Draft) : List Diagnostic := d.nameNotes ++ d.otherNotes

def ofColumns (locales : Locales) (columns : List Text) (line : Nat) : Draft :=
  if columns.length < minimumColumns then
    { line, parts := none, nameNotes := []
      otherNotes := [(Finding.tooFewColumns columns.length).onLine line] }
  else
    let cell (column : Nat) : Text := columns[column]?.getD []
    let id := MessageId.ofCell? (cell idColumn)
    let name := CanonicalName.ofLabel? (cell nameColumn)
    let level := Level.ofCell? (cell levelColumn)
    let message := cell messageColumn
    let names := Template.names message
    { line
      parts := some
        { id, name, level, message
          hasException := Text.hasContent (cell exceptionColumn)
          placeholders := slotPlaceholders cell names
          comment := comment? columns
          localizations := localizations columns names locales }
      nameNotes := (idFindings id ++ nameFindings name).map (·.onLine line)
      otherNotes :=
        (levelFindings level (cell levelColumn) ++ templateFindings names
          ++ slotFindings cell names
          ++ allLocalizationFindings columns names locales).map (·.onLine line) }

/-- What the registry has against the name of a row. -/
def takenNotes (line : Nat) (registry : Registry) : Option CanonicalName → List Diagnostic
  | none => []
  | some name =>
    (((registry.nameLine? name.name).map (Finding.takenName name.name)).toList
      ++ ((registry.identifierLine? name.identifier).map
        (Finding.takenIdentifier name.identifier)).toList).map (·.onLine line)

/-- The definition of a row of which everything could be read. -/
def definition? (parts : Parts) (warnings : List Diagnostic) : Option Definition :=
  match parts.id, parts.name, parts.level with
  | some id, some name, some level =>
    some
      { id, level, warnings
        name := name.name
        identifier := name.identifier
        hasException := parts.hasException
        message := parts.message
        placeholders := parts.placeholders
        comment := parts.comment
        localizations := parts.localizations }
  | _, _, _ => none

/-- Judges a draft.  A row that is accepted takes its name and its identifier. -/
def commit (d : Draft) (registry : Registry) : Verdict × Registry :=
  match d.parts with
  | none => (⟨none, d.diagnostics⟩, registry)
  | some parts =>
    let diagnostics := d.nameNotes ++ takenNotes d.line registry parts.name ++ d.otherNotes
    if diagnostics.any Diagnostic.isFatal then (⟨none, diagnostics⟩, registry)
    else
      -- What could not be read is fatal, so there always is a definition here.
      match definition? parts diagnostics with
      | none => (⟨none, diagnostics⟩, registry)
      | some definition =>
        (⟨some definition, diagnostics⟩,
          registry.insert definition.name definition.identifier d.line)

end Draft

def validate (locales : Locales) (columns : List Text) (line : Nat) (registry : Registry) :
    Verdict × Registry :=
  (Draft.ofColumns locales columns line).commit registry

end LogCatalog.Row
