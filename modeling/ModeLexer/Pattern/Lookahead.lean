/-!
# A lookahead at the end of a pattern

Regular expressions here have no look-around. One form is offered nevertheless: a single lookahead
`(?=A)` that ends a pattern `B(?=A)` as a whole. `splitLookahead` finds it in the text. It ends the
pattern as a whole if its closing parenthesis is the last character, its opening one is outside of
all other parentheses, and no `|` outside of them makes it the end of one branch only.

The scan knows escapes and classes, but not classes within classes: the first closing bracket closes
the class, unless it is the first character of the class.
-/

namespace ModeLexer.Pattern

/-- Where the scan stands with respect to a class. -/
inductive ClassPosition where
  | outside
  /-- Right after the opening bracket. -/
  | opened
  /-- Right after the opening bracket and a caret. -/
  | openedNegated
  | inside
  deriving DecidableEq, Repr

/-- What the scan for a lookahead knows about the characters before. -/
structure LookaheadScan where
  depth : Nat := 0
  position : ClassPosition := .outside
  escaped : Bool := false
  /-- The index of the last opening parenthesis outside of all others, if it opens a lookahead. -/
  candidate : Option Nat := none
  /-- Whether there was a `|` outside of all parentheses. -/
  alternation : Bool := false
  deriving DecidableEq, Repr

namespace LookaheadScan

/-- Whether the text goes on as a lookahead after its opening parenthesis. -/
def opensLookahead : List Char → Bool
  | '?' :: '=' :: _ => true
  | _ => false

/-- Passes one character outside of classes; `index` is its index and `rest` what follows it. -/
def stepOutside (s : LookaheadScan) (index : Nat) (c : Char) (rest : List Char) : LookaheadScan :=
  if c = '\\' then { s with escaped := true }
  else if c = '[' then { s with position := .opened }
  else if c = '|' ∧ s.depth = 0 then { s with alternation := true }
  else if c = '(' then
    { s with
      depth := s.depth + 1
      candidate := if s.depth = 0 then (if opensLookahead rest then some index else none)
        else s.candidate }
  else if c = ')' then { s with depth := s.depth - 1 }
  else s

/-- Passes one character inside a class. -/
def stepInside (s : LookaheadScan) (c : Char) : LookaheadScan :=
  if c = '\\' then { s with escaped := true, position := .inside }
  else match s.position with
    | .opened => { s with position := if c = '^' then .openedNegated else .inside }
    | .openedNegated => { s with position := .inside }
    | _ => { s with position := if c = ']' then .outside else .inside }

/-- Passes one character. -/
def step (s : LookaheadScan) (index : Nat) (c : Char) (rest : List Char) : LookaheadScan :=
  if s.escaped then { s with escaped := false }
  else if s.position = .outside then s.stepOutside index c rest
  else s.stepInside c

/-- Whether `c` would close the outermost parenthesis here. -/
def closesOutermost (s : LookaheadScan) (c : Char) : Bool :=
  c = ')' && !s.escaped && s.position = .outside && s.depth ≤ 1

end LookaheadScan

/-- The index at which the lookahead at the end starts. -/
def lookaheadStart? (s : LookaheadScan) (index : Nat) : List Char → Option Nat
  | [] => none
  | [c] => if s.closesOutermost c && !s.alternation then s.candidate else none
  | c :: cs => lookaheadStart? (s.step index c cs) (index + 1) cs

/-- Splits a pattern into what it takes and what has to follow. -/
def splitLookahead (cs : List Char) : List Char × Option (List Char) :=
  match lookaheadStart? {} 0 cs with
  | some start => (cs.take start, some ((cs.drop (start + 3)).dropLast))
  | none => (cs, none)

end ModeLexer.Pattern
