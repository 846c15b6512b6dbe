import ModeLexer.Definition.Shape
import ModeLexer.Json.Parser

/-!
# Definitions written in JSON

A definition is an object, or an array of the values of all its fields in order; the same goes for
the entries of a mode, where an array may leave out the transition. Objects may hold no other fields
and no field twice, but in the maps of patterns and of modes the last of several entries with one
key counts. Null stands for nothing anywhere.
-/

namespace ModeLexer

/-- What can be wrong with a definition in JSON. -/
inductive JsonDefinitionError where
  | syntaxError (e : Json.SyntaxError)
  | shape (e : ShapeError)
  deriving DecidableEq, Repr

/-- What is wrong, in words. -/
def JsonDefinitionError.message : JsonDefinitionError → String
  | syntaxError e => e.message
  | shape e => e.message

namespace Json

/-- A string. -/
def readText : Json → Except ShapeError String
  | .string s => .ok s
  | _ => .error (.wrongType "a string")

/-- A truth value. -/
def readBool : Json → Except ShapeError Bool
  | .bool b => .ok b
  | _ => .error (.wrongType "a boolean")

/-- The items of an array, each of them read in the same way. -/
def readItemsWith {α : Type} (read : Json → Except ShapeError α) :
    Json → Except ShapeError (List α)
  | .array items => items.mapM read
  | _ => .error (.wrongType "a sequence")

/-- The members of an object, each of them read in the same way. -/
def readMapWith {α : Type} (read : Json → Except ShapeError α) :
    Json → Except ShapeError (KeyMap α)
  | .object members => do
    let entries ← members.mapM fun (key, v) ↦ return (key, ← read v)
    return .ofList entries
  | _ => .error (.wrongType "a map")

/-- The labels of a rule: one, or one for each group. -/
def readLabels : Json → Except ShapeError Labels
  | .string s => .ok (.whole s)
  | j => (j.readItemsWith readText).map .groups

/-- A transition. -/
def readTransition (j : Json) : Except ShapeError Transition := do
  Transition.read (← j.readText)

/-- An include. -/
def readInclude : Json → Except ShapeError String
  | .object members => do
    Fields.check Definition.includeFieldNames members
    (← Fields.require "include" members).readText
  | .array [mode] => mode.readText
  | .array _ => .error .wrongLength
  | _ => .error (.wrongType "an include")

/-- A rule. -/
def readRule : Json → Except ShapeError RuleSpec
  | .object members => do
    Fields.check Definition.ruleFieldNames members
    let regex ← (← Fields.require "regex" members).readText
    let labels ← (← Fields.require "token" members).readLabels
    let next ← Fields.readOr "next" .stay readTransition members
    return { regex, labels, next }
  | .array [regex, token] => return { regex := ← regex.readText, labels := ← token.readLabels }
  | .array [regex, token, next] =>
    return {
      regex := ← regex.readText
      labels := ← token.readLabels
      next := ← next.readTransition }
  | .array _ => .error .wrongLength
  | _ => .error (.wrongType "a rule")

/-- An entry of a mode: an include if it can be read as one, else a rule. -/
def readEntry (j : Json) : Except ShapeError Entry :=
  match j.readInclude with
  | .ok mode => .ok (.includeMode mode)
  | .error _ =>
    match j.readRule with
    | .ok r => .ok (.rule r)
    | .error _ => .error .invalidEntry

/-- A definition. -/
def readDefinition : Json → Except ShapeError Definition
  | .object members => do
    Fields.check Definition.fieldNames members
    let name ← (← Fields.require "name" members).readText
    let baseMode ← (← Fields.require "base_mode" members).readText
    let defaultToken ← Fields.readOr "default_token" unclassified readText members
    let ignoreCase ← Fields.readOr "ignore_case" false readBool members
    let patterns ← Fields.readOr "patterns" .empty (readMapWith readText) members
    let modes ← (← Fields.require "modes" members).readMapWith (readItemsWith readEntry)
    return { name, baseMode, defaultToken, ignoreCase, patterns, modes }
  | .array [name, baseMode, defaultToken, ignoreCase, patterns, modes] =>
    return {
      name := ← name.readText
      baseMode := ← baseMode.readText
      defaultToken := ← defaultToken.readText
      ignoreCase := ← ignoreCase.readBool
      patterns := ← patterns.readMapWith readText
      modes := ← modes.readMapWith (readItemsWith readEntry) }
  | .array _ => .error .wrongLength
  | _ => .error (.wrongType "a definition")

end Json

namespace Definition

/-- Reads a definition in JSON. -/
def ofJsonText (text : String) : Except JsonDefinitionError Definition := do
  let j ← (Json.parse text).mapError .syntaxError
  j.readDefinition.mapError .shape

end Definition

end ModeLexer
