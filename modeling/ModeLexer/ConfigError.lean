import ModeLexer.Definition.Transition
import ModeLexer.Regex.Parser

/-!
# Mistakes in a definition

Text never makes scanning fail. All that can be wrong is a language definition, and it is found out
before any text is scanned. `ConfigError` has one case for each kind of mistake; `message` words it.
-/

namespace ModeLexer

/-- Where a pattern is referred to or compiled. -/
inductive PatternSite where
  /-- The library, while its patterns are resolved. -/
  | library
  /-- A pattern of the library. -/
  | pattern (name : String)
  /-- A rule of a mode, counted from 0 after includes are spliced in. -/
  | rule (mode : String) (index : Nat)
  /-- Whoever asks for a pattern by name. -/
  | caller
  /-- Whoever has a text expanded, in their own words. -/
  | described (text : String)
  deriving DecidableEq, Repr

/-- A site in words. -/
def PatternSite.describe : PatternSite → String
  | library => "pattern library"
  | pattern name => "pattern '@" ++ name ++ "'"
  | rule mode index => "mode '" ++ mode ++ "' rule " ++ toString index
  | caller => "caller"
  | described text => text

/-- A mistake in a definition. -/
inductive ConfigError where
  /-- The base mode is none of the modes. -/
  | undefinedBaseMode (mode : String)
  /-- A rule pushes or switches to a mode that is not defined. -/
  | undefinedMode (mode : String) (rule : Nat) (target : String)
  /-- A mode has no rule after includes are spliced in. -/
  | emptyMode (mode : String)
  | undefinedInclude (mode target : String)
  /-- Modes that include each other, from the first to its second mention. -/
  | includeCycle (modes : List String)
  | unknownPattern (name : String) (site : PatternSite)
  /-- Patterns that refer to each other, from the first one looked at to a second mention. -/
  | patternCycle (names : List String)
  | invalidPattern (site : PatternSite) (reason : Regex.Error)
  /-- A rule of the base mode would leave the base mode. -/
  | baseModeUnwinds (mode : String) (rule : Nat) (transition : Transition)
  /-- A mode can rematch onto a mode whose first rule rematches again. -/
  | rematchChain (mode under : String)
  deriving DecidableEq, Repr

/-- A mistake in words. -/
def ConfigError.message : ConfigError → String
  | undefinedBaseMode mode => "base mode '" ++ mode ++ "' is not defined"
  | undefinedMode mode rule target =>
    "mode '" ++ mode ++ "' rule " ++ toString rule ++
      ": transition references undefined mode '" ++ target ++ "'"
  | emptyMode mode => "mode '" ++ mode ++ "' has no rules"
  | undefinedInclude mode target =>
    "mode '" ++ mode ++ "' includes undefined mode '" ++ target ++ "'"
  | includeCycle modes => "include cycle: " ++ " -> ".intercalate modes
  | unknownPattern name site =>
    "unknown pattern '@" ++ name ++ "' referenced from " ++ site.describe
  | patternCycle names => "pattern cycle: " ++ " -> ".intercalate (names.map ("@" ++ ·))
  | invalidPattern site reason => site.describe ++ ": invalid pattern: " ++ reason.message
  | baseModeUnwinds mode rule transition =>
    "base mode '" ++ mode ++ "' rule " ++ toString rule ++ " uses '" ++ transition.toText ++
      "', which would unwind the base mode"
  | rematchChain mode under =>
    "mode '" ++ mode ++ "' can rematch onto mode '" ++ under ++
      "', whose first rule rematches again"

end ModeLexer
