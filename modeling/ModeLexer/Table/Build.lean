import ModeLexer.Notice
import ModeLexer.Pattern.Library
import ModeLexer.Table.Splice
import ModeLexer.Table.Under

/-!
# Building a rule table

`RuleTable.build` makes a table of a definition or names what is wrong with it. Mistakes are looked
for in this order, and the first one is reported:

1. the base mode is not defined;
2. the pattern library does not resolve;
3. for each mode in the order of the names: an include that does not resolve, no rules at all, and
   then for each rule a reference, the pattern, the target of the transition;
4. the base mode has a rule that pops, switches or rematches;
5. a mode can rematch onto a mode whose first rule rematches again.

The last two make a table safe to run: the base mode stays at the bottom of the stack, and after a
rematch the line does not rematch at once.
-/

namespace ModeLexer

namespace RuleTable

/-- The class that a label stands for, if it is not empty. -/
def classOf? (label : String) : Option String := if label = "" then none else some label

/-- What labels stand for. -/
def resolveLabels (defaultToken : String) : Labels → Emission
  | .whole label => .whole ((classOf? label).getD defaultToken)
  | .groups labels => .groups (labels.map classOf?)

/-- The mode that rule `index` of `mode` names as its target. -/
def resolveTarget (names : List String) (mode : String) (index : Nat) (target : String) :
    Except ConfigError ModeId :=
  match names.idxOf? target with
  | some id => .ok id
  | none => .error (.undefinedMode mode index target)

/-- The action of a transition of rule `index` in mode `mode`, which has the number `id`. -/
def resolveTransition (names : List String) (mode : String) (id : ModeId) (index : Nat) :
    Transition → Except ConfigError Action
  | .stay => .ok .stay
  | .push target => (resolveTarget names mode index target).map .push
  | .pushSelf => .ok (.push id)
  | .pop => .ok .pop
  | .switchTo target => (resolveTarget names mode index target).map .switchTo
  | .rematch => .ok .rematch

variable [Regex.SizeLimit]

/-- Compiles rule `index` of mode `mode`, which has the number `id`. -/
def compileRule (d : Definition) (library : PatternLibrary) (mode : String) (id : ModeId)
    (index : Nat) (r : RuleSpec) : Except ConfigError Rule := do
  let source ← library.expand r.regex (.rule mode index)
  let pattern ← PatternLibrary.compileAt (.rule mode index) source d.ignoreCase
  let action ← resolveTransition d.modes.keys mode id index r.next
  return { pattern, emission := resolveLabels d.defaultToken r.labels, action }

/-- Compiles rules, the first of which has number `index`. -/
def compileRules (d : Definition) (library : PatternLibrary) (mode : String) (id : ModeId) :
    Nat → List RuleSpec → Except ConfigError (List Rule)
  | _, [] => .ok []
  | index, r :: rs => do
    let rule ← compileRule d library mode id index r
    let rules ← compileRules d library mode id (index + 1) rs
    return rule :: rules

/-- Compiles a mode. -/
def compileMode (d : Definition) (library : PatternLibrary) (id : ModeId) (name : String) :
    Except ConfigError Mode := do
  let specs ← d.splice name
  if specs.isEmpty then .error (.emptyMode name)
  else
    let rules ← compileRules d library name id 0 specs
    return { name, rules }

/-- Compiles modes, the first of which has number `id`. -/
def compileModes (d : Definition) (library : PatternLibrary) :
    ModeId → List String → Except ConfigError (List Mode)
  | _, [] => .ok []
  | id, name :: names => do
    let mode ← compileMode d library id name
    let modes ← compileModes d library (id + 1) names
    return mode :: modes

/-! ### Checks of the whole table -/

/-- The notation of an action that would leave the mode it is used in. -/
def unwinding? (t : RuleTable) : Action → Option Transition
  | .pop => some .pop
  | .rematch => some .rematch
  | .switchTo target => some (.switchTo (t.nameOf target))
  | .stay | .push _ => none

/-- The first rule of the base mode that would leave it, with its number. -/
def unwindingRule? (t : RuleTable) : Option (Nat × Transition) :=
  (t.actionsOf t.base).zipIdx.findSome? fun (a, i) ↦ (t.unwinding? a).map (i, ·)

/-- Whether the first rule of a mode rematches. -/
def startsWithRematch (t : RuleTable) (id : ModeId) : Bool :=
  (t.actionsOf id).head? = some .rematch

/-- The first mode that can rematch onto a mode whose first rule rematches again, with that mode. -/
def rematchChain? (t : RuleTable) : Option (ModeId × ModeId) :=
  let rematching := (List.range t.modes.length).filter fun id ↦
    (t.actionsOf id).contains .rematch
  rematching.findSome? fun id ↦
    ((t.underModes id).find? t.startsWithRematch).map (id, ·)

/-- Checks that the table is safe to run. -/
def check (t : RuleTable) : Except ConfigError Unit :=
  match t.unwindingRule? with
  | some (index, transition) => .error (.baseModeUnwinds (t.nameOf t.base) index transition)
  | none =>
    match t.rematchChain? with
    | some (id, under) => .error (.rematchChain (t.nameOf id) (t.nameOf under))
    | none => .ok ()

/-- Builds the table of a definition. -/
def build (d : Definition) : Except ConfigError RuleTable := do
  match d.modes.keys.idxOf? d.baseMode with
  | none => .error (.undefinedBaseMode d.baseMode)
  | some base =>
    let library ← PatternLibrary.ofSources d.patterns
    let modes ← compileModes d library 0 d.modes.keys
    let t : RuleTable := { language := d.name, modes, base, defaultToken := d.defaultToken }
    t.check
    return t

/-- What is reported about a table that has been built. -/
def builtNotice (t : RuleTable) : Notice :=
  .builtTable t.language t.modes.length t.ruleCount (t.nameOf t.base)

end RuleTable

end ModeLexer
