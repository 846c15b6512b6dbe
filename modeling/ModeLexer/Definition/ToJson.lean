import ModeLexer.Definition.Basic
import ModeLexer.Json.Printer

/-!
# Writing definitions in JSON

All fields of a definition are written, in a fixed order; a rule without a transition is written
without one. Patterns and modes come in the order of their names.
-/

namespace ModeLexer

/-- The labels of a rule as a value. -/
def Labels.toJson : Labels → Json
  | whole label => .string label
  | groups labels => .array (labels.map .string)

/-- A rule as a value. -/
def RuleSpec.toJson (r : RuleSpec) : Json :=
  .object (("regex", .string r.regex) :: ("token", r.labels.toJson) ::
    if r.next = .stay then [] else [("next", .string r.next.toText)])

/-- An entry of a mode as a value. -/
def Entry.toJson : Entry → Json
  | rule r => r.toJson
  | includeMode mode => .object [("include", .string mode)]

/-- A map as a value. -/
def KeyMap.toJson {α : Type} (value : α → Json) (m : KeyMap α) : Json :=
  .object (m.entries.map fun (key, v) ↦ (key, value v))

namespace Definition

/-- A definition as a value. -/
def toJson (d : Definition) : Json :=
  .object [
    ("name", .string d.name),
    ("base_mode", .string d.baseMode),
    ("default_token", .string d.defaultToken),
    ("ignore_case", .bool d.ignoreCase),
    ("patterns", d.patterns.toJson .string),
    ("modes", d.modes.toJson fun es ↦ .array (es.map Entry.toJson))]

/-- Writes a definition in JSON, without blanks. -/
def toJsonText (d : Definition) : String := d.toJson.compact

end Definition

end ModeLexer
