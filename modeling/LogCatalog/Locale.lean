import LogCatalog.Text.Basic

/-!
# Locales

A locale is named by a tag: subtags for the language, the script, the region and the variants,
joined by hyphens or underscores.  Tags are read without regard to case and written in one way:
`EN_latn_us` is `en-Latn-US`.

* `Locale.ofTag`: the locale that a tag names.
* `Locale.tag`: the tag of a locale.
-/

namespace LogCatalog

inductive TagFault where
  /-- The first subtag is no language. -/
  | language
  /-- A later subtag has no place in a tag. -/
  | subtag
  deriving DecidableEq, Repr

def TagFault.message : TagFault → Text
  | language => "Parser error: The given language subtag is invalid"
  | subtag => "Parser error: Invalid subtag"

/-- A locale: its subtags, spelled as its tag is written.  The variants are in increasing order. -/
structure Locale where
  language : Text
  script : Option Text
  region : Option Text
  variants : List Text
  deriving DecidableEq, Repr

namespace Locale

/-- Two, three or five to eight letters, made small. -/
def language? (s : Text) : Option Text :=
  if s.all Char.isAlpha ∧ s.length ∈ [2, 3, 5, 6, 7, 8] then some (s.map Char.toLower) else none

/-- Four letters, the first one made a capital and the others made small. -/
def script? (s : Text) : Option Text :=
  match s with
  | [a, b, c, d] =>
    if s.all Char.isAlpha then some (a.toUpper :: [b, c, d].map Char.toLower) else none
  | _ => none

/-- Two letters, made capitals, or three digits. -/
def region? (s : Text) : Option Text :=
  if s.length = 2 ∧ s.all Char.isAlpha then some (s.map Char.toUpper)
  else if s.length = 3 ∧ s.all Char.isDigit then some s
  else none

/-- A character of ASCII, the null character apart. -/
def isTagByte (c : Char) : Bool := 0 < c.toNat && c.toNat < 0x80

/-- Five to eight letters and digits, or four characters of which the first is a digit or the last
three are letters and digits, made small. -/
def variant? (s : Text) : Option Text :=
  if 5 ≤ s.length ∧ s.length ≤ 8 ∧ s.all Char.isAlphanum then some (s.map Char.toLower)
  else if s.length = 4 ∧ s.all isTagByte
      ∧ (s.head?.any Char.isDigit ∨ s.tail.all Char.isAlphanum) then some (s.map Char.toLower)
  else none

/-- Puts a variant at its place in an increasing list, unless it is there. -/
def insertVariant (v : Text) : List Text → List Text
  | [] => [v]
  | w :: rest =>
    if v = w then w :: rest
    else if v < w then v :: w :: rest
    else w :: insertVariant v rest

theorem mem_insertVariant {v w : Text} {variants : List Text} :
    w ∈ insertVariant v variants ↔ w = v ∨ w ∈ variants := by
  induction variants with
  | nil => simp [insertVariant]
  | cons u rest ih =>
    rw [insertVariant]
    split
    · next h => simp [h]
    · split
      · simp
      · rw [List.mem_cons, ih, List.mem_cons]
        exact or_left_comm

/-- Reads variants up to the end of a tag. -/
def readVariants (language : Text) (script region : Option Text) (subtags : List Text) :
    Option Locale :=
  (subtags.mapM variant?).map fun variants =>
    { language, script, region, variants := variants.foldr insertVariant [] }

/-- Reads a region, where there is one, and what follows it. -/
def readRegion (language : Text) (script : Option Text) : List Text → Option Locale
  | [] => readVariants language script none []
  | s :: rest =>
    match region? s with
    | some region => readVariants language script (some region) rest
    | none => readVariants language script none (s :: rest)

def readScript (language : Text) : List Text → Option Locale
  | [] => readRegion language none []
  | s :: rest =>
    match script? s with
    | some script => readRegion language (some script) rest
    | none => readRegion language none (s :: rest)

def isTagSeparator (c : Char) : Bool := c == '-' || c == '_'

def ofTag (tag : Text) : Except TagFault Locale :=
  match tag.splitOnP isTagSeparator with
  | [] => .error .language
  | first :: rest =>
    match language? first with
    | none => .error .language
    | some language =>
      match readScript language rest with
      | none => .error .subtag
      | some l => .ok l

def subtags (l : Locale) : List Text :=
  l.language :: (l.script.toList ++ l.region.toList ++ l.variants)

def tag (l : Locale) : Text := ['-'].intercalate l.subtags

end Locale

end LogCatalog
