import ModeLexer.ConfigError
import ModeLexer.Definition.Basic

/-!
# Splicing in included modes

The rules of a mode are its own and, in the place of an include, those of the included mode. The
modes on the way to an include are remembered: one that comes up again closes a cycle. Each step
adds a defined mode to them, so one step more than there are modes is never needed.
-/

namespace ModeLexer.Definition

/-- Joins the rules of entries, given the rules of included modes, up to the first mistake. -/
def spliceEntries (included : String → Except ConfigError (List RuleSpec)) :
    List Entry → Except ConfigError (List RuleSpec)
  | [] => .ok []
  | .rule r :: es => do
    let rs ← spliceEntries included es
    return r :: rs
  | .includeMode mode :: es => do
    let first ← included mode
    let rs ← spliceEntries included es
    return first ++ rs

/-- The rules of a mode after splicing. `visiting` are the modes on the way to it. -/
def spliceFrom (d : Definition) :
    Nat → List String → String → Except ConfigError (List RuleSpec)
  | 0, visiting, mode => .error (.includeCycle (visiting ++ [mode]))
  | fuel + 1, visiting, mode =>
    if visiting.contains mode then .error (.includeCycle (visiting ++ [mode]))
    else match d.modes.get? mode with
      | none => .error (.undefinedInclude (visiting.getLastD "") mode)
      | some entries => spliceEntries (d.spliceFrom fuel (visiting ++ [mode])) entries

/-- The rules of a mode after splicing. -/
def splice (d : Definition) (mode : String) : Except ConfigError (List RuleSpec) :=
  d.spliceFrom (d.modes.size + 1) [] mode

end ModeLexer.Definition
