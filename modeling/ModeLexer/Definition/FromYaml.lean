import ModeLexer.Definition.Shape
import ModeLexer.Yaml.Anchor
import ModeLexer.Yaml.ScalarValue

/-!
# Definitions written in YAML

A definition is a mapping, and so are the maps in it. There any scalar may stand for a text,
whatever else it could stand for, and a plain empty scalar for an empty mapping or sequence. The
entries of a mode are read as in JSON: a scalar in them is a text only if it does not stand for
something else, and they may be written as sequences as well. Their keys may be the numbers of their
fields. An entry may hold no tags of one's own.
-/

namespace ModeLexer

/-- What can be wrong with a definition in YAML. -/
inductive YamlDefinitionError where
  | syntaxError (e : Yaml.SyntaxError)
  | shape (e : ShapeError)
  deriving DecidableEq, Repr

/-- What is wrong, in words. -/
def YamlDefinitionError.message : YamlDefinitionError → String
  | syntaxError e => e.message
  | shape e => e.message

namespace Yaml

/-- A node without aliases. -/
abbrev Tree := Node Empty

namespace Node

/-! ### Values outside of entries -/

/-- The text of a scalar. -/
def readText : Tree → Except ShapeError String
  | .scalar _ _ text => .ok text
  | _ => .error (.wrongType "a string")

/-- A truth value: a plain scalar, or a literal one that is tagged as such. -/
def readBool : Tree → Except ShapeError Bool
  | .scalar props style text =>
    if style = .plain || (style = .literal && props.tag? = some "tag:yaml.org,2002:bool") then
      match ScalarValue.bool? text with
      | some b => .ok b
      | none => .error (.wrongType "a boolean")
    else .error (.wrongType "a boolean")
  | _ => .error (.wrongType "a boolean")

/-- The items of a sequence, each of them read in the same way. -/
def readItemsWith {α : Type} (read : Tree → Except ShapeError α) :
    Tree → Except ShapeError (List α)
  | .sequence _ items => items.mapM read
  | .scalar _ .plain "" => .ok []
  | _ => .error (.wrongType "a sequence")

/-- The entries of a mapping with their keys as texts. -/
def readMembers : Tree → Except ShapeError (List (String × Tree))
  | .mapping _ entries => entries.mapM fun (key, value) ↦ return (← key.readText, value)
  | .scalar _ .plain "" => .ok []
  | _ => .error (.wrongType "a map")

/-- The entries of a mapping, each of their values read in the same way. -/
def readMapWith {α : Type} (read : Tree → Except ShapeError α) (node : Tree) :
    Except ShapeError (KeyMap α) := do
  let entries ← (← node.readMembers).mapM fun (key, value) ↦ return (key, ← read value)
  return .ofList entries

/-! ### Values within entries -/

/-- What a scalar within an entry stands for. -/
def scalarValue (props : Properties) (style : ScalarStyle) (text : String) :
    Except ShapeError ScalarValue :=
  if (props.tag?.getD "").startsWith "!" then .error .invalidEntry
  else match ScalarValue.ofScalar? props style text with
    | some v => .ok v
    | none => .error .invalidEntry

/-- A text within an entry. -/
def readEntryText : Tree → Except ShapeError String
  | .scalar props style text => do
    match ← scalarValue props style text with
    | .text s => return s
    | _ => throw (.wrongType "a string")
  | _ => .error (.wrongType "a string")

/-- Refuses a collection with a tag of one's own. -/
def checkTag (props : Properties) : Except ShapeError Unit :=
  if (props.tag?.getD "").startsWith "!" then .error .invalidEntry else .ok ()

/-- A key in an entry: the name of a field, or its number among the given names. -/
def readKey (names : List String) : Tree → Except ShapeError String
  | .scalar props style text => do
    match ← scalarValue props style text with
    | .text s => return s
    | .index n =>
      match names[n]? with
      | some name => return name
      | none => throw (.wrongType "a field")
    | _ => throw (.wrongType "a field")
  | _ => .error (.wrongType "a field")

/-- The labels of a rule: one, or one for each group. -/
def readLabels : Tree → Except ShapeError Labels
  | .sequence props items => do
    checkTag props
    return .groups (← items.mapM readEntryText)
  | node => node.readEntryText.map .whole

/-- A transition. -/
def readTransition (node : Tree) : Except ShapeError Transition := do
  Transition.read (← node.readEntryText)

/-- The fields of an entry, which are written as a mapping. -/
def readFields (names : List String) (entries : List (Tree × Tree)) :
    Except ShapeError (List (String × Tree)) := do
  let members ← entries.mapM fun (key, value) ↦ return (← key.readKey names, value)
  Fields.check names members
  return members

/-- An include. -/
def readInclude : Tree → Except ShapeError String
  | .mapping props entries => do
    checkTag props
    let members ← readFields Definition.includeFieldNames entries
    (← Fields.require "include" members).readEntryText
  | .sequence props [mode] => do
    checkTag props
    mode.readEntryText
  | .sequence .. => .error .wrongLength
  | _ => .error (.wrongType "an include")

/-- A rule. -/
def readRule : Tree → Except ShapeError RuleSpec
  | .mapping props entries => do
    checkTag props
    let members ← readFields Definition.ruleFieldNames entries
    let regex ← (← Fields.require "regex" members).readEntryText
    let labels ← (← Fields.require "token" members).readLabels
    let next ← Fields.readOr "next" .stay readTransition members
    return { regex, labels, next }
  | .sequence props items => do
    checkTag props
    match items with
    | [regex, token] =>
      return { regex := ← regex.readEntryText, labels := ← token.readLabels }
    | [regex, token, next] =>
      return {
        regex := ← regex.readEntryText
        labels := ← token.readLabels
        next := ← next.readTransition }
    | _ => throw .wrongLength
  | _ => .error (.wrongType "a rule")

/-- An entry of a mode: an include if it can be read as one, else a rule. -/
def readEntry (node : Tree) : Except ShapeError Entry :=
  match node.readInclude with
  | .ok mode => .ok (.includeMode mode)
  | .error _ =>
    match node.readRule with
    | .ok r => .ok (.rule r)
    | .error _ => .error .invalidEntry

/-! ### Definitions -/

/-- A definition. -/
def readDefinition (node : Tree) : Except ShapeError Definition := do
  let members ← node.readMembers
  Fields.check Definition.fieldNames members
  let name ← (← Fields.require "name" members).readText
  let baseMode ← (← Fields.require "base_mode" members).readText
  let defaultToken ← Fields.readOr "default_token" unclassified readText members
  let ignoreCase ← Fields.readOr "ignore_case" false readBool members
  let patterns ← Fields.readOr "patterns" .empty (readMapWith readText) members
  let modes ← (← Fields.require "modes" members).readMapWith (readItemsWith readEntry)
  return { name, baseMode, defaultToken, ignoreCase, patterns, modes }

end Node

end Yaml

namespace Definition

/-- Reads a definition in YAML. -/
def ofYamlText (text : String) : Except YamlDefinitionError Definition := do
  let node ← (Yaml.parse text).mapError .syntaxError
  node.readDefinition.mapError .shape

end Definition

end ModeLexer
