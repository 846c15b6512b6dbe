import ModeLexer.KeyMap
import ModeLexer.Definition.Transition

/-!
# Language definitions

A language is described by modes, which are ordered lists of rules, by a library of named patterns
and by a base mode, in which scanning starts. A definition is plain data: nothing in it is checked
before a rule table is built from it.

The functions that set one part of a definition make it possible to write a language down in steps,
beginning from `Definition.new`.
-/

namespace ModeLexer

/-- What a rule emits: one label for its whole match, or one for each capturing group. An empty
label means the default class where it labels a whole match, and no token where it labels a
group. -/
inductive Labels where
  | whole (label : String)
  | groups (labels : List String)
  deriving DecidableEq, Repr

/-- A rule: where it matches, what it emits and how it changes the stack. -/
structure RuleSpec where
  regex : String
  labels : Labels
  next : Transition := .stay
  deriving DecidableEq, Repr

/-- An entry of a mode: a rule, or all rules of another mode in its place. -/
inductive Entry where
  | rule (r : RuleSpec)
  | includeMode (mode : String)
  deriving DecidableEq, Repr

namespace Entry

/-- A rule that emits one class and stays. -/
def token (regex label : String) : Entry := .rule { regex, labels := .whole label }

/-- A rule that emits one class for each capturing group and stays. -/
def tokens (regex : String) (labels : List String) : Entry :=
  .rule { regex, labels := .groups labels }

/-- Gives a rule a transition. An include has none. -/
def withNext (next : Transition) : Entry → Entry
  | .rule r => .rule { r with next }
  | .includeMode m => .includeMode m

def push (e : Entry) (mode : String) : Entry := e.withNext (.push mode)

def pushSelf (e : Entry) : Entry := e.withNext .pushSelf

def pop (e : Entry) : Entry := e.withNext .pop

def switchTo (e : Entry) (mode : String) : Entry := e.withNext (.switchTo mode)

def rematch (e : Entry) : Entry := e.withNext .rematch

end Entry

/-- The class of what no rule accounts for, unless a definition sets another one. -/
def unclassified : String := "unclassified"

/-- The description of a language. -/
structure Definition where
  name : String
  baseMode : String
  /-- The class of what no rule accounts for. -/
  defaultToken : String := unclassified
  /-- Whether case does not matter in the rules. -/
  ignoreCase : Bool := false
  patterns : KeyMap String := .empty
  modes : KeyMap (List Entry)
  deriving DecidableEq, Repr

namespace Definition

/-- A definition without modes and patterns. -/
def new (name baseMode : String) : Definition := { name, baseMode, modes := .empty }

def setDefaultToken (d : Definition) (label : String) : Definition :=
  { d with defaultToken := label }

def setIgnoreCase (d : Definition) (value : Bool) : Definition := { d with ignoreCase := value }

/-- Adds a named pattern, or replaces it. -/
def addPattern (d : Definition) (name source : String) : Definition :=
  { d with patterns := d.patterns.insert name source }

/-- Adds a mode, or replaces it. -/
def addMode (d : Definition) (name : String) (entries : List Entry) : Definition :=
  { d with modes := d.modes.insert name entries }

end Definition

end ModeLexer
