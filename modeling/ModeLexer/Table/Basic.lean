import ModeLexer.Pattern.Basic

/-!
# Rule tables

A rule table is a language that is ready for scanning: modes are numbered in the order of their
names, and rules refer to modes by number and hold compiled patterns.
-/

namespace ModeLexer

/-- The number of a mode. -/
abbrev ModeId := Nat

/-- What a rule does to the stack, with modes by number. -/
inductive Action where
  | stay
  | push (mode : ModeId)
  | pop
  | switchTo (mode : ModeId)
  | rematch
  deriving DecidableEq, Repr, Inhabited

/-- What a rule emits. A group without a class is skipped. -/
inductive Emission where
  | whole (cls : String)
  | groups (classes : List (Option String))
  deriving DecidableEq, Repr, Inhabited

/-- A rule of a table. -/
structure Rule where
  pattern : Pattern
  emission : Emission
  action : Action
  deriving DecidableEq, Repr

/-- A mode: its rules in the order in which they are tried. -/
structure Mode where
  name : String
  rules : List Rule
  deriving DecidableEq, Repr

/-- The modes of a language, ready for scanning. -/
structure RuleTable where
  language : String
  modes : List Mode
  base : ModeId
  /-- The class of what no rule accounts for. -/
  defaultToken : String
  deriving DecidableEq, Repr

namespace RuleTable

/-- The rules of a mode. -/
def rulesOf (t : RuleTable) (id : ModeId) : List Rule :=
  match t.modes[id]? with
  | some m => m.rules
  | none => []

/-- The name of a mode. -/
def nameOf (t : RuleTable) (id : ModeId) : String :=
  match t.modes[id]? with
  | some m => m.name
  | none => ""

/-- The mode with a name. -/
def idOf? (t : RuleTable) (name : String) : Option ModeId :=
  (t.modes.map (·.name)).idxOf? name

/-- The number of rules in all modes. -/
def ruleCount (t : RuleTable) : Nat := t.modes.foldl (fun n mode ↦ n + mode.rules.length) 0

/-- The actions of a mode's rules. -/
def actionsOf (t : RuleTable) (id : ModeId) : List Action := (t.rulesOf id).map (·.action)

end RuleTable

end ModeLexer
