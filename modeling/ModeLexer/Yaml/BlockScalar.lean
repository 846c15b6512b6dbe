import ModeLexer.Yaml.Cursor

/-!
# Literal and folded scalars

Scalars that consist of the lines of a block. Their header says how far the block is indented, if
this cannot be told from its first line, and what becomes of the line ends after its last line. In a
folded scalar the end of a line counts as a space where a line that starts with a character other
than a blank follows on another such line.
-/

namespace ModeLexer.Yaml

/-! ### Headers -/

/-- What becomes of the line ends after the last line. -/
inductive Chomping where
  /-- All of them are dropped. -/
  | strip
  /-- The first one is kept. -/
  | clip
  /-- All of them are kept. -/
  | keep
  deriving DecidableEq, Repr

/-- What stands after the sign of a block scalar. -/
structure BlockHeader where
  chomping : Chomping
  /-- How much deeper than its surroundings the block is indented, if this is given. -/
  increment? : Option Nat
  deriving DecidableEq, Repr

namespace Cursor

/-- Passes the sign of a chomping. -/
def chomping? (c : Cursor) : Option Chomping × Cursor :=
  match c.rest with
  | '-' :: _ => (some .strip, c.skip 1)
  | '+' :: _ => (some .keep, c.skip 1)
  | _ => (none, c)

/-- Passes the digit of an indentation. -/
def increment? (c : Cursor) : Except SyntaxError (Option Nat × Cursor) :=
  match c.rest with
  | '0' :: _ => .error .invalidBlockHeader
  | d :: _ => .ok (if d.isDigit then (some (d.toNat - '0'.toNat), c.skip 1) else (none, c))
  | [] => .ok (none, c)

/-- Reads a header up to the end of its line. Its two parts may stand in either order. -/
def readBlockHeader (c : Cursor) : Except SyntaxError (BlockHeader × Cursor) := do
  let (before, c) := c.chomping?
  let (increment?, c) ← c.increment?
  let (chomping, c) := if before.isSome then (before, c) else c.chomping?
  return (⟨chomping.getD .clip, increment?⟩, ← c.finishLine .invalidBlockHeader)

end Cursor

/-! ### Lines -/

/-- Passes empty lines and the indentation of the line after them, with at most `n` characters. The
indentation ends at column `indent`, or at its last space if `indent` is 0. Gives the ends of the
lines that were passed, added to `ends`, and the largest column that was reached. -/
def readIndentation (indent : Nat) :
    Nat → List Char → Nat → Cursor → Except SyntaxError (List Char × Nat × Cursor)
  | 0, ends, widest, c => .ok (ends, max widest c.column, c)
  | n + 1, ends, widest, c =>
    let within : Bool := indent = 0 || c.column < indent
    match c.rest with
    | [] => .ok (ends, max widest c.column, c)
    | d :: _ =>
      if within && d = ' ' then readIndentation indent n ends widest (c.skip 1)
      else if within && d = '\t' then .error .misplacedTab
      else if isBreak d then
        readIndentation indent n (ends ++ c.lineText) (max widest c.column) c.skipLine
      else .ok (ends, max widest c.column, c)

/-- The part of a block scalar that has been read. -/
structure BlockLines where
  /-- The text up to the end of the last line. -/
  text : List Char := []
  /-- The end of the last line. -/
  lineEnd : List Char := []
  /-- The ends of the empty lines after it. -/
  emptyLines : List Char := []
  /-- Whether the last line starts with a blank. -/
  startsBlank : Bool := false
  deriving DecidableEq, Repr

namespace BlockLines

/-- What stands between the last line and another one. -/
def joint (l : BlockLines) (folded startsBlank : Bool) : List Char :=
  if folded && l.lineEnd = ['\n'] && !l.startsBlank && !startsBlank then
    if l.emptyLines.isEmpty then [' '] else l.emptyLines
  else l.lineEnd ++ l.emptyLines

/-- The whole text after its last line. -/
def chomped (l : BlockLines) : Chomping → List Char
  | .strip => l.text
  | .clip => l.text ++ l.lineEnd
  | .keep => l.text ++ l.lineEnd ++ l.emptyLines

/-- Reads lines as long as they are indented. -/
def read (folded : Bool) (indent : Nat) :
    Nat → BlockLines → Cursor → Except SyntaxError (BlockLines × Cursor)
  | 0, l, c => .ok (l, c)
  | n + 1, l, c =>
    if c.column ≠ indent || c.rest.isEmpty then .ok (l, c)
    else do
      let startsBlank := c.rest.head?.any isBlank
      let (line, c) := c.takeWhile (!isBreak ·)
      let text := l.text ++ l.joint folded startsBlank ++ line
      let lineEnd := c.lineText
      let c := c.skipLine
      let (emptyLines, _, c) ← readIndentation indent c.rest.length [] 0 c
      read folded indent n { text, lineEnd, emptyLines, startsBlank } c

end BlockLines

/-- Reads a block scalar after its sign. `level` is the least column at which it may stand. -/
def readBlockScalar (folded : Bool) (level : Nat) (c : Cursor) :
    Except SyntaxError (List Char × Cursor) := do
  let (header, c) ← c.readBlockHeader
  let indent? := header.increment?.map (level - 1 + ·)
  let (emptyLines, widest, c) ← readIndentation (indent?.getD 0) c.rest.length [] 0 c
  let indent := indent?.getD (max widest (max level 1))
  let (l, c) ← BlockLines.read folded indent c.rest.length { emptyLines } c
  return (l.chomped header.chomping, c)

end ModeLexer.Yaml
