import LogCatalog.Text.Basic

/-!
# JSON values and their text

A JSON value is written on several lines: every item of an array and every field of an object has a
line of its own, indented by two blanks for each array or object around it.
-/

namespace LogCatalog.Json

/-- A JSON value.  Its numbers are natural numbers. -/
inductive Value where
  | null
  | bool (b : Bool)
  | number (n : Nat)
  | string (t : Text)
  | array (items : List Value)
  | object (fields : List (Text × Value))

/-- A character of a string as it is written: quotation marks, backslashes and control characters
are escaped. -/
def escapeChar (c : Char) : Text :=
  if c = '"' then ['\\', '"']
  else if c = '\\' then ['\\', '\\']
  else if c = '\n' then ['\\', 'n']
  else if c = '\r' then ['\\', 'r']
  else if c = '\t' then ['\\', 't']
  else if c = '\x08' then ['\\', 'b']
  else if c = '\x0c' then ['\\', 'f']
  else if c.toNat < 0x20 then
    ['\\', 'u', '0', '0', Nat.digitChar (c.toNat / 16), Nat.digitChar (c.toNat % 16)]
  else [c]

def quote (t : Text) : Text := '"' :: t.flatMap escapeChar ++ ['"']

def newLine (depth : Nat) : Text := '\n' :: List.replicate (2 * depth) ' '

/-- Entries between brackets, each on a line of its own; the brackets stand at the given depth. -/
def block (depth : Nat) (opening closing : Char) (entries : List Text) : Text :=
  match entries with
  | [] => [opening, closing]
  | _ =>
    opening :: [','].intercalate (entries.map (newLine (depth + 1) ++ ·))
      ++ newLine depth ++ [closing]

mutual

def render (depth : Nat) : Value → Text
  | .null => "null"
  | .bool b => if b then "true" else "false"
  | .number n => Text.ofNat n
  | .string t => quote t
  | .array items => block depth '[' ']' (renderItems (depth + 1) items)
  | .object fields => block depth '\x7b' '\x7d' (renderFields (depth + 1) fields)

def renderItems (depth : Nat) : List Value → List Text
  | [] => []
  | item :: rest => render depth item :: renderItems depth rest

def renderFields (depth : Nat) : List (Text × Value) → List Text
  | [] => []
  | (name, value) :: rest =>
    (quote name ++ ": " ++ render depth value) :: renderFields depth rest

end

def pretty (v : Value) : Text := render 0 v

end LogCatalog.Json
