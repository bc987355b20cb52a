import LogCatalog.Json.Number
import LogCatalog.Settings
import LogCatalog.Text.Quoted

/-!
# Settings as JSON

A settings document is a JSON object with one field, `locales`, that holds an array of strings.  The
field may be absent.  An array may stand for the object: its first item is then the value of the
field.
-/

namespace LogCatalog.Settings

open Json

/-- The words for a list of strings that was expected. -/
def listWords : Text := "a sequence"

def stringWords : Text := "a string"

def settingsWords : Text := "struct ReaderConfig"

def fieldName : Text := "locales"

/-- The fault of a value that has another type than expected. -/
def wrongValue (expected : Text) (t : Text) : Halt :=
  let report (found : Text) (rest : Text) : Halt := .before (.wrongType found expected) rest
  let ofWord (found word rest : Text) : Halt :=
    match readWord word rest with
    | .ok rest => report found rest
    | .error halt => halt
  let ofNumber (read : Except Halt (Number × Text)) : Halt :=
    match read with
    | .ok (number, rest) => report number.describe rest
    | .error halt => halt
  match t with
  | 'n' :: rest => ofWord "null" "ull" rest
  | 't' :: rest => ofWord "boolean `true`" "rue" rest
  | 'f' :: rest => ofWord "boolean `false`" "alse" rest
  | '-' :: rest => ofNumber (Number.read true rest)
  | '"' :: rest =>
    match readString rest with
    | .ok ⟨(s, rest), _⟩ => report ("string " ++ Text.quoted s) rest
    | .error halt => halt
  | '[' :: _ => report "sequence" t
  | '\x7b' :: _ => report "map" t
  | c :: _ =>
    if c.isDigit then ofNumber (Number.read false t) else .within .expectedValue t
  | [] => .within .endInValue t

def readText (t : Text) : Except Halt (Read Text t) :=
  match h : skipBlanks t with
  | '"' :: rest => do
    let ⟨(s, rest'), h'⟩ ← readString rest
    .ok ⟨(s, rest'), by
      have := length_skipBlanks_le t
      rw [h, List.length_cons] at this
      simp only at h' ⊢
      omega⟩
  | other => .error (wrongValue stringWords other)

/-- Reads the items of a list of strings and its closing bracket; `first` tells that none has been
read yet. -/
def readItems (first : Bool) (t : Text) : Except Halt (Read (List Text) t) :=
  have hle := length_skipBlanks_le t
  match h : skipBlanks t with
  | [] => .error (.within .endInList [])
  | ']' :: rest => .ok ⟨([], rest), by rw [h, List.length_cons] at hle; simp only; omega⟩
  | c :: rest =>
    if first then do
      let ⟨(item, rest'), h'⟩ ← readText (c :: rest)
      have hlt : rest'.length < t.length := by rw [h] at hle; simp only at h'; omega
      let ⟨(items, rest''), h''⟩ ← readItems false rest'
      .ok ⟨(item :: items, rest''), by simp only at h'' ⊢; omega⟩
    else if c = ',' then
      match skipBlanks rest with
      | ']' :: rest => .error (.within .trailingComma (']' :: rest))
      | [] => .error (.within .endInValue [])
      | _ => do
        let ⟨(item, rest'), h'⟩ ← readText rest
        have hlt : rest'.length < t.length := by
          rw [h, List.length_cons] at hle; simp only at h'; omega
        let ⟨(items, rest''), h''⟩ ← readItems false rest'
        .ok ⟨(item :: items, rest''), by simp only at h'' ⊢; omega⟩
    else .error (.within .expectedListEnd (c :: rest))
  termination_by t.length

def readList (t : Text) : Except Halt (Read (List Text) t) :=
  match h : skipBlanks t with
  | [] => .error (.within .endInValue [])
  | '[' :: rest => do
    let ⟨(items, rest'), h'⟩ ← readItems true rest
    .ok ⟨(items, rest'), by
      have := length_skipBlanks_le t
      rw [h, List.length_cons] at this
      simp only at h' ⊢
      omega⟩
  | other => .error (wrongValue listWords other)

/-- The fault of a key, which is found where the object ends or goes on after the key. -/
def keyFault (fault : Fault) (rest : Text) : Halt :=
  match skipBlanks rest with
  | '\x7d' :: rest => .before fault rest
  | rest => .before fault rest

def readField (found : Option (List Text)) (t : Text) : Except Halt (Read (List Text) t) := do
  let ⟨(key, rest), h⟩ ← readString t
  if key ≠ fieldName then .error (keyFault (.unknownField key fieldName) rest)
  else if found.isSome then .error (keyFault (.repeatedField fieldName) rest)
  else
    match h' : skipBlanks rest with
    | ':' :: rest' => do
      let ⟨(value, rest''), h''⟩ ← readList rest'
      .ok ⟨(value, rest''), by
        have := length_skipBlanks_le rest
        rw [h', List.length_cons] at this
        simp only at h h'' ⊢
        omega⟩
    | [] => .error (.within .endInObject [])
    | other => .error (.within .expectedColon other)

/-- Reads the fields of an object and its closing brace.  `found` is the value of the field, if it
has been read; `first` tells that no field has been read yet. -/
def readFields (first : Bool) (found : Option (List Text)) (t : Text) :
    Except Halt (Option (List Text) × Text) :=
  have hle := length_skipBlanks_le t
  match h : skipBlanks t with
  | [] => .error (.within .endInObject [])
  | '\x7d' :: rest => .ok (found, rest)
  | c :: rest =>
    if first then
      if c = '"' then do
        let ⟨(value, rest'), h'⟩ ← readField found rest
        have hlt : rest'.length < t.length := by
          rw [h, List.length_cons] at hle; simp only at h'; omega
        readFields false (some value) rest'
      else .error (.within .keyNotString (c :: rest))
    else if c = ',' then
      match hr : skipBlanks rest with
      | '"' :: rest' => do
        let ⟨(value, rest''), h'⟩ ← readField found rest'
        have hlt : rest''.length < t.length := by
          have := length_skipBlanks_le rest
          rw [hr, List.length_cons] at this
          rw [h, List.length_cons] at hle
          simp only at h'
          omega
        readFields false (some value) rest''
      | '\x7d' :: rest' => .error (.within .trailingComma ('\x7d' :: rest'))
      | [] => .error (.within .endInValue [])
      | other => .error (.within .keyNotString other)
    else .error (.within .expectedObjectEnd (c :: rest))
  termination_by t.length

/-- Reads the closing bracket of an array that stands for the settings. -/
def readArrayEnd (t : Text) : Except Halt Text :=
  match skipBlanks t with
  | [] => .error (.within .endInList [])
  | ']' :: rest => .ok rest
  | ',' :: rest =>
    match skipBlanks rest with
    | ']' :: rest => .error (.within .trailingComma (']' :: rest))
    | other => .error (.within .trailingCharacters other)
  | other => .error (.within .trailingCharacters other)

def readSettings (t : Text) : Except Halt (Settings × Text) :=
  match skipBlanks t with
  | [] => .error (.within .endInValue [])
  | '[' :: rest =>
    match skipBlanks rest with
    | [] => .error (.within .endInList [])
    | ']' :: rest => .ok (empty, rest)
    | items => do
      let ⟨(locales, rest), _⟩ ← readList items
      let rest ← readArrayEnd rest
      .ok (⟨locales⟩, rest)
  | '\x7b' :: rest => do
    let (found, rest) ← readFields true none rest
    .ok (⟨found.getD []⟩, rest)
  | other => .error (wrongValue settingsWords other)

/-- Reads the settings and makes sure that nothing but blanks follows. -/
def readDocument (t : Text) : Except Halt Settings := do
  let (settings, rest) ← readSettings t
  match skipBlanks rest with
  | [] => .ok settings
  | other => .error (.within .trailingCharacters other)

/-- The settings in a JSON text, or the report of what is wrong with it. -/
def ofJson (document : Text) : Except Text Settings :=
  (readDocument document).mapError (·.report document)

end LogCatalog.Settings
