import LogCatalog.Text.Blank
import LogCatalog.Unicode.GraphemeCluster
import LogCatalog.Unicode.IdentifierClass
import LogCatalog.Unicode.Normalization

/-!
# Names

The name of a definition is derived from a raw label: it is trimmed, spelled in NFC, and every
grapheme cluster that an identifier could not hold becomes one underscore.  Dots separate the
segments of a name; the identifier of the name has underscores in their place.

* `CanonicalName.ofLabel?`: the name of a label, with the changes made on the way.
-/

namespace LogCatalog

open Unicode

inductive NameChange where
  /-- The spelling was brought to NFC. -/
  | respelled (source result : Text)
  /-- A cluster became an underscore. -/
  | replaced (cluster : Text) (leading : Bool)
  deriving DecidableEq, Repr

namespace NameChange

/-- The code point of the base of a replaced cluster. -/
def codePoint? : NameChange → Option Nat
  | respelled .. => none
  | replaced cluster _ => cluster.head?.map Char.toNat

def message : NameChange → Text
  | respelled source result =>
    "Name '" ++ source ++ "' was normalized to '" ++ result ++ "' with Form C for compatibility."
  | change@(replaced cluster leading) =>
    "Name cannot " ++ (if leading then "begin with" else "contain") ++ " '" ++ cluster ++ "'(U+"
      ++ Text.codePoint (change.codePoint?.getD 0)
      ++ "). This character was replaced with '_'."

end NameChange

def isNameStart (c : Char) : Bool := c == '_' || isIdentifierStart c

/-- Whether a text is an identifier: a start or an underscore, then characters that go on. -/
def isIdentifier : Text → Bool
  | [] => false
  | c :: rest => isNameStart c && rest.all isIdentifierContinue

/-- Whether a cluster may stand in a name: its base is allowed there, and marks follow. -/
def isNameCluster (allowed : Char → Bool) : Text → Bool
  | [] => false
  | base :: marks => allowed base && marks.all isIdentifierContinue

/-- What becomes of one cluster of a label. -/
inductive NamePiece where
  | kept (cluster : Text)
  | dot
  | replaced (cluster : Text) (leading : Bool)
  deriving DecidableEq, Repr

namespace NamePiece

def leading (cluster : Text) : NamePiece :=
  if isNameCluster isNameStart cluster then kept cluster else replaced cluster true

def inner (cluster : Text) : NamePiece :=
  if cluster = ['.'] then dot
  else if isNameCluster isIdentifierContinue cluster then kept cluster
  else replaced cluster false

def name : NamePiece → Text
  | kept cluster => cluster
  | dot => ['.']
  | replaced .. => ['_']

def identifier : NamePiece → Text
  | kept cluster => cluster
  | dot | replaced .. => ['_']

def change? : NamePiece → Option NameChange
  | replaced cluster leading => some (.replaced cluster leading)
  | kept _ | dot => none

def ofClusters : List Text → List NamePiece
  | [] => []
  | first :: rest => leading first :: rest.map inner

end NamePiece

/-- A name, its identifier, and the changes that led from the label to them. -/
structure CanonicalName where
  name : Text
  identifier : Text
  changes : List NameChange
  deriving DecidableEq, Repr

namespace CanonicalName

def ofTrimmed (label : Text) : CanonicalName :=
  let spelled := normalize .nfc label
  let pieces := NamePiece.ofClusters (clusters spelled)
  { name := pieces.flatMap NamePiece.name
    identifier := pieces.flatMap NamePiece.identifier
    changes := (if spelled = label then [] else [.respelled label spelled])
      ++ pieces.filterMap NamePiece.change? }

/-- The name of a raw label, unless the label is blank or leads to an empty name. -/
def ofLabel? (label : Text) : Option CanonicalName :=
  let trimmed := Text.trim label
  if trimmed = [] then none
  else
    let derived := ofTrimmed trimmed
    -- The name is looked at once more, although it is never empty here.
    if derived.name = [] then none else some derived

def isClean (n : CanonicalName) : Bool := n.changes.isEmpty

end CanonicalName

end LogCatalog
