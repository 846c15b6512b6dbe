import ModeLexer.Definition.Basic

/-!
# The shape of a written definition

What can be wrong with the shape of a definition that is written down as nested values, whatever the
notation of these values is, and the names of its fields.
-/

namespace ModeLexer

/-- A mistake in the shape of a written definition. -/
inductive ShapeError where
  | missingField (name : String)
  | unknownField (name : String)
  | repeatedField (name : String)
  /-- A value of another type than the expected one. -/
  | wrongType (expected : String)
  | wrongLength
  | invalidTransition (reason : Transition.Error)
  /-- An entry of a mode that is neither a rule nor an include. -/
  | invalidEntry
  deriving DecidableEq, Repr

namespace ShapeError

/-- What is wrong, in words. -/
def message : ShapeError → String
  | missingField name => "missing field '" ++ name ++ "'"
  | unknownField name => "unknown field '" ++ name ++ "'"
  | repeatedField name => "duplicate field '" ++ name ++ "'"
  | wrongType expected => "invalid type, expected " ++ expected
  | wrongLength => "invalid length"
  | invalidTransition reason => reason.message
  | invalidEntry => "an entry is neither a rule nor an include"

end ShapeError

namespace Fields

/-- Checks that every member has one of the allowed keys and that no key stands twice. -/
def check {α : Type} (allowed : List String) : List (String × α) → Except ShapeError Unit
  | [] => .ok ()
  | (key, _) :: ms =>
    if !allowed.contains key then .error (.unknownField key)
    else if ms.any (·.1 == key) then .error (.repeatedField key)
    else check allowed ms

/-- The value of a field that has to be there. -/
def require {α : Type} (name : String) (ms : List (String × α)) : Except ShapeError α :=
  match ms.lookup name with
  | some v => .ok v
  | none => .error (.missingField name)

/-- Reads the value of a field, or takes its default where the field is absent. -/
def readOr {α β : Type} (name : String) (default : β) (read : α → Except ShapeError β)
    (ms : List (String × α)) : Except ShapeError β :=
  match ms.lookup name with
  | some v => read v
  | none => .ok default

end Fields

namespace Definition

/-- The fields of a definition. -/
def fieldNames : List String :=
  ["name", "base_mode", "default_token", "ignore_case", "patterns", "modes"]

/-- The fields of a rule. -/
def ruleFieldNames : List String := ["regex", "token", "next"]

/-- The field of an include. -/
def includeFieldNames : List String := ["include"]

end Definition

/-- Reads a transition within a definition. -/
def Transition.read (text : String) : Except ShapeError Transition :=
  (Transition.parse text).mapError .invalidTransition

end ModeLexer
