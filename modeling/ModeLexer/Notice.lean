/-!
# Notices

What the library reports about its work, apart from results. Operations that have something to
report return it as data, in the order in which it happened.
-/

namespace ModeLexer

/-- How important a notice is. -/
inductive Notice.Level where
  | debug | warn
  deriving DecidableEq, Repr

/-- The word for a level. -/
def Notice.Level.label : Notice.Level → String
  | debug => "DEBUG"
  | warn => "WARN"

/-- Something that happened. Lines and columns are counted from 0, columns in bytes. -/
inductive Notice where
  /-- The text of a definition was read from a file and is about to be understood. -/
  | loading (format path : String)
  | builtTable (language : String) (modes rules : Nat) (baseMode : String)
  | pushed (line : Nat) (mode : String)
  | switched (line : Nat) (mode : String)
  /-- A rule popped while only one mode was on the stack. -/
  | popIgnored (line : Nat)
  /-- A rule switched while only one mode was on the stack. -/
  | switchIgnored (line : Nat)
  /-- The line is scanned again from its start, in the mode beneath. -/
  | rematched (line column : Nat) (mode : String)
  /-- A rematch would not have brought the stack below where an earlier one had. -/
  | rematchDemoted (line column : Nat) (mode : String)
  /-- Too many rules in a row matched the empty text. -/
  | zeroWidthLoop (line column : Nat)
  | tokenized (lines tokens : Nat) (language : String)
  | retokenized (scanned lines : Nat) (language : String)
  | registered (language : String)
  | replaced (language : String)
  deriving DecidableEq, Repr

namespace Notice

/-- The level of a notice: what a rule table cannot honour is a warning. -/
def level : Notice → Level
  | popIgnored .. | switchIgnored .. | rematchDemoted .. | zeroWidthLoop .. => .warn
  | _ => .debug

/-- The start of a notice about a line. -/
def atLine (line : Nat) (text : String) : String := "line " ++ toString line ++ ": " ++ text

/-- A notice in words. -/
def message : Notice → String
  | loading format path => "loading " ++ format ++ " definition from " ++ path
  | builtTable language modes rules baseMode =>
    "built rule table '" ++ language ++ "': " ++ toString modes ++ " modes, " ++ toString rules ++
      " rules, base mode '" ++ baseMode ++ "'"
  | pushed line mode => atLine line ("push '" ++ mode ++ "'")
  | switched line mode => atLine line ("switch to '" ++ mode ++ "'")
  | popIgnored line => atLine line "pop in the base mode ignored"
  | switchIgnored line => atLine line "switch away from the base mode ignored"
  | rematched line column mode =>
    atLine line ("rematch from column " ++ toString column ++ " into '" ++ mode ++ "'")
  | rematchDemoted line column mode =>
    atLine line ("repeated rematch in mode '" ++ mode ++ "' at column " ++ toString column ++
      " treated as a pop")
  | zeroWidthLoop line column =>
    atLine line ("zero-width transitions loop at column " ++ toString column ++
      ", skipping a character")
  | tokenized lines tokens language =>
    "tokenized " ++ toString lines ++ " lines into " ++ toString tokens ++ " tokens (" ++
      language ++ ")"
  | retokenized scanned lines language =>
    "retokenized " ++ toString scanned ++ " of " ++ toString lines ++ " lines (" ++ language ++ ")"
  | registered language => "registered language '" ++ language ++ "'"
  | replaced language => "replaced language '" ++ language ++ "'"

end Notice

end ModeLexer
