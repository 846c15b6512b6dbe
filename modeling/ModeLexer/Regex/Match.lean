import ModeLexer.Regex.Program
import ModeLexer.Text.Span

/-!
# Matching

`Program.run` matches a program at a position and goes on with a continuation, so that a choice
that leads nowhere later on is taken back. The first success in the order of the choices wins: that
is the match that leftmost-first search reports. `Regex.find?` tries one start after the other.
-/

namespace ModeLexer.Regex

open Unicode

/-- What is known at a position during an attempt. -/
structure MatchState where
  /-- The character right before the position. -/
  before : Option Char
  /-- The characters after the position. -/
  rest : List Char
  /-- The byte offset of the position in the text. -/
  offset : Nat
  /-- The spans that groups have captured, the latest first. -/
  groups : List (Nat × Span)
  /-- The guards passed since the last character was taken. -/
  passed : List Nat
  deriving DecidableEq, Repr

namespace MatchState

/-- The state before any character of a text. -/
def start (cs : List Char) : MatchState := ⟨none, cs, 0, [], []⟩

/-- The state after taking `c`, with `cs` left. -/
def advance (s : MatchState) (c : Char) (cs : List Char) : MatchState :=
  { s with before := some c, rest := cs, offset := s.offset + c.utf8Size, passed := [] }

/-- Records that a group has captured the text from `start` to here. -/
def record (s : MatchState) (index start : Nat) : MatchState :=
  { s with groups := (index, ⟨start, s.offset⟩) :: s.groups }

/-- Passes a guard, unless it was passed at this position already. -/
def pass (s : MatchState) : Option Nat → Option MatchState
  | none => some s
  | some g => if s.passed.contains g then none else some { s with passed := g :: s.passed }

end MatchState

/-- Whether the character next to a position, if there is one, is a word character. -/
def besideWord (ascii : Bool) : Option Char → Bool
  | none => false
  | some c => if ascii then isAsciiWord c else isWord c

/-- Whether a test of a position holds between `before` and `after`. -/
def Look.holds (before after : Option Char) : Look → Bool
  | textStart => before.isNone
  | textEnd => after.isNone
  | lineStart => before.all (· = '\n')
  | lineEnd => after.all (· = '\n')
  | crlfLineStart => before.all fun b ↦ b = '\n' || (b = '\r' && after != some '\n')
  | crlfLineEnd => after.all fun a ↦ a = '\r' || (a = '\n' && before != some '\r')
  | wordBoundary ascii => besideWord ascii before != besideWord ascii after
  | notWordBoundary ascii => besideWord ascii before == besideWord ascii after
  | wordStart ascii => !besideWord ascii before && besideWord ascii after
  | wordEnd ascii => besideWord ascii before && !besideWord ascii after
  | wordStartHalf ascii => !besideWord ascii before
  | wordEndHalf ascii => !besideWord ascii after

namespace Program

variable {α : Type}

/-- How an attempt goes on from a state. -/
abbrev Continuation (α : Type) := MatchState → Option α

/-- Goes round a loop or leaves it; `n` bounds the number of rounds. -/
def loop (guard : Option Nat) (greedy : Bool) (body : Continuation α → Continuation α)
    (k : Continuation α) : Nat → Continuation α
  | 0, _ => none
  | n + 1, s =>
    match s.pass guard with
    | none => none
    | some s =>
      if greedy then body (loop guard greedy body k n) s <|> k s
      else k s <|> body (loop guard greedy body k n) s

/-- Matches a program at a state and goes on with `k`. Every round of a loop but the last takes a
character or fails at a guard, so a loop is left after at most as many rounds as there are
characters, and one more. -/
def run : Program → Continuation α → Continuation α
  | empty, k, s => k s
  | set a, k, s =>
    match s.rest with
    | [] => none
    | c :: cs => if a.contains c then k (s.advance c cs) else none
  | look l, k, s => if l.holds s.before s.rest.head? then k s else none
  | capture i p, k, s => p.run (fun s' ↦ k (s'.record i s.offset)) s
  | seq p q, k, s => p.run (q.run k) s
  | choice guard p q, k, s =>
    match s.pass guard with
    | none => none
    | some s => p.run k s <|> q.run k s
  | star guard greedy p, k, s => loop guard greedy p.run k (s.rest.length + 1) s
  | plus guard greedy p, k, s => p.run (loop guard greedy p.run k (s.rest.length + 1)) s

/-- The state at the end of the first match at a state, if there is one. -/
def match? (p : Program) (s : MatchState) : Option MatchState := p.run some s

end Program

/-- Where a regular expression matched. -/
structure Match where
  span : Span
  /-- The spans that groups captured, the latest first. -/
  groups : List (Nat × Span)
  deriving DecidableEq, Repr

/-- What the group with a number captured last. -/
def Match.group? (m : Match) (index : Nat) : Option Span := m.groups.lookup index

end ModeLexer.Regex

namespace ModeLexer

/-- A compiled regular expression. -/
structure Regex where
  program : Regex.Program
  /-- The largest number of a group. -/
  groupCount : Nat
  deriving DecidableEq, Repr

namespace Regex

/-- Which programs are too large to be made. That depends on how they are kept in memory, of which
nothing is said here. -/
class SizeLimit where
  /-- Whether the program of the expression with a text takes up little enough memory. -/
  fits : List Char → Bool

/-- The limit to run with: ten megabytes, where a node takes up about 32 bytes. -/
instance : SizeLimit where
  fits cs :=
    match Expr.parse cs with
    | .ok e => e.programSize * 32 ≤ 10 * 1024 * 1024
    | .error _ => true

/-- Compiles a regular expression from its characters. -/
def compile [SizeLimit] (cs : List Char) : Except Error Regex := do
  let e ← Expr.parse cs
  if SizeLimit.fits cs then return ⟨(e.compile false 0).1, e.maxGroup⟩ else .error .tooLarge

/-- The first match at or after a position. -/
def search (p : Program) (before : Option Char) (offset : Nat) (cs : List Char) : Option Match :=
  match p.match? ⟨before, cs, offset, [], []⟩ with
  | some s => some ⟨⟨offset, s.offset⟩, s.groups⟩
  | none =>
    match cs with
    | [] => none
    | c :: cs =>
      if p.startsAtTextStart then none else search p (some c) (offset + c.utf8Size) cs

/-- The first match in a text. -/
def find? (r : Regex) (cs : List Char) : Option Match := search r.program none 0 cs

end Regex

end ModeLexer
