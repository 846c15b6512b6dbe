import ModeLexer.Scanner.Step

/-!
# Scanning a line

A scan takes steps until nothing is left of the line. What goes on from one line to the next is the
stack; the cursor is kept only to say where a scan has ended.
-/

namespace ModeLexer

/-- What a scan leaves behind. -/
structure ScanState where
  stack : ModeStack
  /-- Where the last scan ended, in bytes. -/
  cursor : Nat := 0
  deriving DecidableEq, Repr, Inhabited

namespace ScanState

/-- A state with one mode on the stack. -/
def new (mode : ModeId) : ScanState := { stack := { bottom := mode } }

/-- The names of the modes on the stack, from the bottom to the top. -/
def describe (s : ScanState) (t : RuleTable) : List String := s.stack.toList.map t.nameOf

end ScanState

/-- The result of scanning a line. -/
structure LineScan where
  tokens : List Token
  state : ScanState
  notices : List Notice
  deriving DecidableEq, Repr

/-- Takes steps until the line is at its end. -/
def Progress.run (t : RuleTable) (number : Nat) (line : List Char) (p : Progress) : Progress :=
  match _h : p.rest with
  | [] => p
  | c :: rest => Progress.run t number line (p.step t number line c rest)
termination_by p.measure
decreasing_by exact step_lt t number line ‹_›

/-- What a finished scan comes to. -/
def Progress.result (p : Progress) : LineScan where
  tokens := p.tokens.reverse
  state := { stack := p.stack, cursor := p.cursor }
  notices := p.notices.reverse

namespace RuleTable

/-- Scans the characters of line `number`. -/
def scanChars (t : RuleTable) (number : Nat) (stack : ModeStack) (line : List Char) : LineScan :=
  ((Progress.start stack line).run t number line).result

/-- Scans line `number`, beginning with the stack of a state. -/
def scanLine (t : RuleTable) (s : ScanState) (number : Nat) (line : String) : LineScan :=
  t.scanChars number s.stack line.toList

/-- The state in which a document begins: the base mode alone on the stack. -/
def initialState (t : RuleTable) : ScanState := .new t.base

end RuleTable

end ModeLexer
