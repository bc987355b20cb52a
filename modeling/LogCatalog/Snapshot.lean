import LogCatalog.Definition
import LogCatalog.Json.Value

/-!
# Snapshots

The definitions of a catalog as JSON.
-/

namespace LogCatalog

open Json

def Placeholder.toJson (p : Placeholder) : Value :=
  .object [("name", .string p.name), ("type_name", .string p.type.label)]

def Diagnostic.toJson (d : Diagnostic) : Value :=
  .object
    [("line", .number d.line),
      ("field", match d.field with
        | some field => .number field
        | none => .null),
      ("kind", .string d.kind.label),
      ("message", .string d.message)]

def Definition.toJson (d : Definition) : Value :=
  .object
    [("id", .number d.id),
      ("name", .string d.name),
      ("program_identifier", .string d.identifier),
      ("level", .string d.level.label),
      ("has_exception", .bool d.hasException),
      ("message", .string d.message),
      ("placeholders", .array (d.placeholders.map Placeholder.toJson)),
      ("comment", match d.comment with
        | some comment => .string comment
        | none => .null),
      ("localizations",
        .object (d.localizations.map fun (locale, text) => (locale.tag, .string text))),
      ("warnings", .array (d.warnings.map Diagnostic.toJson))]

def snapshot (definitions : List Definition) : Text :=
  pretty (.array (definitions.map Definition.toJson))

end LogCatalog
