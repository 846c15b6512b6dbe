import ModeLexer.Pattern.Lookahead
import ModeLexer.Regex.Match

/-!
# Patterns of rules

A pattern is a regular expression that is matched at a position of a line, against the rest of the
line from there on; that rest is all that it sees. Two things are added to plain expressions. A
caret at the very start is taken off and makes the whole pattern match at the start of the line
only. A lookahead at the very end is compiled as a second part of the expression, behind a group
around the first part; the span of a match is then that of this group.
-/

namespace ModeLexer

/-- A compiled pattern. -/
structure Pattern where
  /-- The text that it was compiled from. -/
  source : String
  regex : Regex
  lineStartOnly : Bool
  hasLookahead : Bool
  deriving DecidableEq, Repr

/-- Where a pattern matched, in bytes from the start of the line. -/
structure PatternMatch where
  /-- What the pattern takes, without what its lookahead saw. -/
  span : Span
  /-- What the groups written in the pattern captured. -/
  groups : List (Option Span)
  deriving DecidableEq, Repr

namespace Pattern

/-- The group around the part that a pattern takes comes before the groups written in it. -/
def groupOffset (p : Pattern) : Nat := if p.hasLookahead then 1 else 0

/-- The number of groups written in a pattern. -/
def groupCount (p : Pattern) : Nat := p.regex.groupCount - p.groupOffset

/-- The expression that is compiled for a body and a lookahead. -/
def anchoredText (ignoreCase : Bool) (body : List Char) (ahead : Option (List Char)) :
    List Char :=
  (if ignoreCase then ['(', '?', 'i', ')'] else []) ++
    match ahead with
    | some ahead => ['^', '('] ++ body ++ [')', '(', '?', ':'] ++ ahead ++ [')']
    | none => ['^', '(', '?', ':'] ++ body ++ [')']

/-- Takes the caret off the start of a pattern. -/
def stripLineStart : List Char → Bool × List Char
  | '^' :: cs => (true, cs)
  | cs => (false, cs)

/-- Compiles a pattern in which all references are resolved. -/
def compile [Regex.SizeLimit] (source : String) (ignoreCase : Bool) :
    Except Regex.Error Pattern := do
  let (lineStartOnly, whole) := stripLineStart source.toList
  let (body, ahead) := splitLookahead whole
  let regex ← Regex.compile (anchoredText ignoreCase body ahead)
  return { source, regex, lineStartOnly, hasLookahead := ahead.isSome }

/-- A match of the expression as a match of the pattern, `offset` bytes further on. -/
def ofMatch (p : Pattern) (offset : Nat) (m : Regex.Match) : PatternMatch where
  span := (if p.hasLookahead then (m.group? 1).getD m.span else m.span).shift offset
  groups := (List.range p.groupCount).map fun i ↦
    (m.group? (i + 1 + p.groupOffset)).map (·.shift offset)

/-- Matches at byte offset `offset` of a line of which `rest` is left there. -/
def matchRest (p : Pattern) (offset : Nat) (rest : List Char) : Option PatternMatch :=
  if p.lineStartOnly ∧ offset ≠ 0 then none
  else (p.regex.find? rest).map (p.ofMatch offset)

/-- A match of a pattern is that of its expression. -/
theorem exists_find?_of_matchRest {p : Pattern} {offset : Nat} {rest : List Char} {m : PatternMatch}
    (h : p.matchRest offset rest = some m) :
    ∃ found, p.regex.find? rest = some found ∧ p.ofMatch offset found = m := by
  rw [matchRest] at h
  split at h
  · simp at h
  · exact Option.map_eq_some_iff.1 h

/-- A match starts at the position or, if the expression closes the group around it, after it. -/
theorem le_start_of_matchRest {p : Pattern} {offset : Nat} {rest : List Char} {m : PatternMatch}
    (h : p.matchRest offset rest = some m) : offset ≤ m.span.start := by
  obtain ⟨m', -, rfl⟩ := exists_find?_of_matchRest h
  simp [ofMatch, Span.shift]

/-- Matches at a byte offset of a line. At an offset that is out of range or inside a character
nothing matches. -/
def matchAt (p : Pattern) (line : List Char) (offset : Nat) : Option PatternMatch :=
  (Text.sliceFrom? line offset).bind (p.matchRest offset)

end Pattern

end ModeLexer
