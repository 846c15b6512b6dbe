import ModeLexer.Text.Blank

/-!
# Transitions

How a rule changes the stack of modes, and the notation for it: `@push m` (also `@m` and `m`),
`@push` alone for the mode that the rule runs in, `@pop`, `@switchTo m`, `@rematch`, and nothing at
all for no change. Only a mode whose name is made of ASCII letters, digits, `_`, `.` and `-`, and
does not start with a digit, a dot or a hyphen, can be named.
-/

namespace ModeLexer

/-- What a rule does to the mode stack. -/
inductive Transition where
  /-- Nothing. -/
  | stay
  /-- Puts a mode on the stack. -/
  | push (target : String)
  /-- Puts the mode that the rule runs in on the stack once more. -/
  | pushSelf
  /-- Takes the top mode off the stack. -/
  | pop
  /-- Replaces the top mode. -/
  | switchTo (target : String)
  /-- Takes the top mode off the stack and scans the line again from its start. -/
  | rematch
  deriving DecidableEq, Repr, Inhabited

namespace Transition

/-- The mode that a transition names. -/
def target? : Transition → Option String
  | push target | switchTo target => some target
  | stay | pushSelf | pop | rematch => none

/-- The notation of a transition. -/
def toText : Transition → String
  | stay => ""
  | push target => "@push " ++ target
  | pushSelf => "@push"
  | pop => "@pop"
  | switchTo target => "@switchTo " ++ target
  | rematch => "@rematch"

instance : ToString Transition := ⟨toText⟩

/-! ### Reading the notation -/

/-- What can be wrong with the notation of a transition. -/
inductive Error where
  /-- More words than a transition has. -/
  | malformed (text : String)
  | invalidModeName (name : String)
  /-- A switch without a mode to switch to. -/
  | missingTarget
  deriving DecidableEq, Repr

/-- What is wrong, in words. -/
def Error.message : Error → String
  | malformed text => "invalid transition '" ++ text ++ "'"
  | invalidModeName name => "invalid mode name '" ++ name ++ "'"
  | missingTarget => "'@switchTo' needs a target mode"

/-- Whether a mode can be named in a transition. -/
def isModeName : List Char → Bool
  | [] => false
  | c :: cs => (c.isAlpha || c = '_') &&
      cs.all fun d ↦ d.isAlphanum || d = '_' || d = '.' || d = '-'

/-- Reads the name of a mode. -/
def readModeName (name : List Char) : Except Error String :=
  if isModeName name then .ok (String.ofList name)
  else .error (.invalidModeName (String.ofList name))

/-- Reads a transition from its characters. -/
def ofChars (cs : List Char) : Except Error Transition :=
  match Text.words cs with
  | [] => .ok stay
  | [w] =>
    if w = ['@', 'p', 'u', 's', 'h'] then .ok pushSelf
    else if w = ['@', 'p', 'o', 'p'] then .ok pop
    else if w = ['@', 'r', 'e', 'm', 'a', 't', 'c', 'h'] then .ok rematch
    else if w = ['@', 's', 'w', 'i', 't', 'c', 'h', 'T', 'o'] then .error .missingTarget
    else match w with
      | '@' :: name => (readModeName name).map push
      | name => (readModeName name).map push
  | [w, name] =>
    if w = ['@', 'p', 'u', 's', 'h'] then (readModeName name).map push
    else if w = ['@', 's', 'w', 'i', 't', 'c', 'h', 'T', 'o'] then (readModeName name).map switchTo
    else .error (.malformed (String.ofList (Text.trim cs)))
  | _ => .error (.malformed (String.ofList (Text.trim cs)))

/-- Reads a transition. -/
def parse (text : String) : Except Error Transition := ofChars text.toList

end Transition

end ModeLexer
