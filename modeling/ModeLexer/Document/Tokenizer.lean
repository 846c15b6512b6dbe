import ModeLexer.Document.Basic
import ModeLexer.Scanner.Line

/-!
# Tokenizing documents

The lines of a document are scanned in order, each with the stack that the one before it left. For
every line its tokens and the state after it are kept, so that after a change the scan can go on
from the last line before the change: `retokenize` keeps the lines before it and scans the others.
-/

namespace ModeLexer

/-- The tokens of a line and the state after it. -/
structure TokenizedLine where
  tokens : List Token
  endState : ScanState
  deriving DecidableEq, Repr

/-- The tokens of a document. All of them stand in one list; where a line begins in it is kept for
each line, so that blank lines and the line after them begin at the same place. -/
structure TokenizedDocument where
  /-- All tokens in the order of the document. -/
  tokens : List Token
  /-- For each line the number of tokens before it. -/
  lineStarts : List Nat
  /-- The state after each line. -/
  endStates : List ScanState
  deriving DecidableEq, Repr

namespace TokenizedDocument

/-- The tokens of a document without lines. -/
def empty : TokenizedDocument := ⟨[], [], []⟩

/-- Adds a line at the end. -/
def pushLine (d : TokenizedDocument) (tokens : List Token) (endState : ScanState) :
    TokenizedDocument where
  tokens := d.tokens ++ tokens
  lineStarts := d.lineStarts ++ [d.tokens.length]
  endStates := d.endStates ++ [endState]

/-- The number of lines. -/
def lineCount (d : TokenizedDocument) : Nat := d.lineStarts.length

/-- The tokens of a line, which end where the next line begins; there are none beyond the last
line. -/
def line (d : TokenizedDocument) (index : Nat) : List Token :=
  match d.lineStarts[index]? with
  | some start => (d.tokens.take (d.lineStarts[index + 1]?.getD d.tokens.length)).drop start
  | none => []

/-- The state after a line. -/
def endState? (d : TokenizedDocument) (index : Nat) : Option ScanState := d.endStates[index]?

/-- The state after the last line. -/
def finalState? (d : TokenizedDocument) : Option ScanState := d.endStates.getLast?

/-- The document line by line. -/
def lines (d : TokenizedDocument) : List TokenizedLine :=
  d.endStates.mapIdx fun index endState ↦ ⟨d.line index, endState⟩

/-- The first `n` lines. -/
def keep (d : TokenizedDocument) : Nat → TokenizedDocument
  | 0 => empty
  | n + 1 =>
    match d.endState? n with
    | some endState => (d.keep n).pushLine (d.line n) endState
    | none => d.keep n

end TokenizedDocument

/-! ### Sessions -/

/-- A scan that is given one line after the other. -/
structure Session where
  state : ScanState
  /-- The number of the next line. -/
  nextLine : Nat := 0
  deriving DecidableEq, Repr

namespace Session

/-- A session at the beginning of a document. -/
def begin (t : RuleTable) : Session := { state := t.initialState }

/-- Scans the next line. -/
def feed (t : RuleTable) (s : Session) (line : String) : LineScan × Session :=
  let r := t.scanLine s.state s.nextLine line
  (r, { state := r.state, nextLine := s.nextLine + 1 })

/-- Scans several lines and adds them to those that are tokenized already; gives what was reported
too. -/
def feedAll (t : RuleTable) :
    Session → TokenizedDocument → List String → TokenizedDocument × List Notice
  | _, d, [] => (d, [])
  | s, d, line :: lines =>
    let (r, s') := s.feed t line
    let (d', ns) := feedAll t s' (d.pushLine r.tokens r.state) lines
    (d', r.notices ++ ns)

end Session

/-! ### Whole documents -/

namespace RuleTable

/-- Scans lines from the initial state on. -/
def tokenizeLines (t : RuleTable) (lines : List String) : TokenizedDocument :=
  ((Session.begin t).feedAll t .empty lines).1

/-- Tokenizes a document. -/
def tokenize (t : RuleTable) (d : Document) : TokenizedDocument := t.tokenizeLines d.lines

/-- What is reported while lines are tokenized. -/
def tokenizeNotices (t : RuleTable) (lines : List String) : List Notice :=
  let (d, ns) := (Session.begin t).feedAll t .empty lines
  ns ++ [.tokenized d.lineCount d.tokens.length t.language]

/-- How many lines are kept when the lines from `firstChanged` on may have changed: no more than
there were, and no more than there are now. -/
def keptLines (previous : TokenizedDocument) (lines : List String) (firstChanged : Nat) : Nat :=
  min (min firstChanged previous.lineCount) lines.length

/-- The session that goes on after the kept lines. -/
def resume (t : RuleTable) (previous : TokenizedDocument) (keep : Nat) : Session where
  state :=
    match keep with
    | 0 => t.initialState
    | last + 1 => (previous.endState? last).getD t.initialState
  nextLine := keep

/-- Tokenizes lines of which those before `firstChanged` are unchanged since `previous`. -/
def retokenize (t : RuleTable) (previous : TokenizedDocument) (lines : List String)
    (firstChanged : Nat) : TokenizedDocument :=
  let keep := keptLines previous lines firstChanged
  ((t.resume previous keep).feedAll t (previous.keep keep) (lines.drop keep)).1

/-- What is reported while lines are tokenized again. -/
def retokenizeNotices (t : RuleTable) (previous : TokenizedDocument) (lines : List String)
    (firstChanged : Nat) : List Notice :=
  let keep := keptLines previous lines firstChanged
  ((t.resume previous keep).feedAll t (previous.keep keep) (lines.drop keep)).2 ++
    [.retokenized (lines.length - keep) lines.length t.language]

end RuleTable

end ModeLexer
