import ModeLexer.Regex.Expr

/-!
# Programs for matching

A program is an expression with its bounded repetitions written out, so that what is left of them
are choices and two kinds of loops. Which of several matches is taken depends on the order in which
a program tries its choices, and where the body of a loop can match nothing also on when it is left:
**no choice is made twice at one position of one attempt**. That rule needs choices with names.
Only a choice inside a loop whose body can match nothing can come up twice without a character
between, so only these get one, their *guard*; a program without such loops has no guards at all.
-/

namespace ModeLexer.Regex

open Unicode

/-- A program for matching. -/
inductive Program where
  | empty
  | set (s : CharSet)
  | look (l : Look)
  | capture (index : Nat) (p : Program)
  | seq (p q : Program)
  /-- Tries `p`, then `q`. -/
  | choice (guard : Option Nat) (p q : Program)
  /-- `p` any number of times, where `p` takes at least one character. -/
  | star (guard : Option Nat) (greedy : Bool) (p : Program)
  /-- `p` at least once. -/
  | plus (guard : Option Nat) (greedy : Bool) (p : Program)
  deriving DecidableEq, Repr

namespace Program

/-- The number of nodes of a program. -/
def size : Program → Nat
  | empty | set _ | look _ => 1
  | capture _ p | star _ _ p | plus _ _ p => p.size + 1
  | seq p q | choice _ p q => p.size + q.size + 1

/-- Whether a program can only match at the start of a text. -/
def startsAtTextStart : Program → Bool
  | look l => l = .textStart
  | capture _ p | plus _ _ p => p.startsAtTextStart
  | seq p _ => p.startsAtTextStart
  | choice _ p q => p.startsAtTextStart && q.startsAtTextStart
  | empty | set _ | star .. => false

/-- A choice whose preference is turned around for lazy repetitions. -/
def prefer (guard : Option Nat) (greedy : Bool) (p q : Program) : Program :=
  if greedy then choice guard p q else choice guard q p

end Program

/-- Makes programs, numbering the guards from a given number on; gives the next free number too. -/
abbrev Compile := StateM Nat

namespace Compile

/-- A new guard if one is needed. -/
def guard (needed : Bool) : Compile (Option Nat) := fun next ↦
  if needed then (some next, next + 1) else (none, next)

/-- `n` copies in sequence, followed by `last`. -/
def copies (make : Compile Program) (last : Compile Program) : Nat → Compile Program
  | 0 => last
  | n + 1 => do
    let p ← make
    let q ← copies make last n
    return .seq p q

/-- At most `n` copies, each of them tried only after the one before it. -/
def optionalCopies (needGuard greedy : Bool) (make : Compile Program) : Nat → Compile Program
  | 0 => return .empty
  | n + 1 => do
    let g ← guard needGuard
    let p ← make
    let q ← optionalCopies needGuard greedy make n
    return .prefer g greedy (.seq p q) .empty

end Compile

namespace Expr

open Compile in
/-- The program of an expression. `inLoop` says whether it stands in a loop whose body can match
nothing. -/
def compile (inLoop : Bool) : Expr → Compile Program
  | .empty => return .empty
  | .set s => return .set s
  | .look l => return .look l
  | .capture i e => return .capture i (← e.compile inLoop)
  | .concat a b => return .seq (← a.compile inLoop) (← b.compile inLoop)
  | .alternate a b => do
    let g ← guard inLoop
    return .choice g (← a.compile inLoop) (← b.compile inLoop)
  | .repetition min (some max) greedy e =>
    copies (e.compile inLoop) (optionalCopies inLoop greedy (e.compile inLoop) (max - min)) min
  | .repetition 0 none greedy e => do
    if e.consumes then
      let g ← guard inLoop
      return .star g greedy (← e.compile inLoop)
    else
      let g ← guard inLoop
      let g' ← guard true
      return .prefer g greedy (.plus g' greedy (← e.compile true)) .empty
  | .repetition (min + 1) none greedy e =>
    copies (e.compile inLoop) (do
      let needed := inLoop || !e.consumes
      let g ← guard needed
      return .plus g greedy (← e.compile needed)) min

/-- The number of nodes that the program of an expression has at most, counting copies. -/
def programSize : Expr → Nat
  | .empty | .set _ | .look _ => 1
  | .capture _ e => e.programSize + 1
  | .concat a b | .alternate a b => a.programSize + b.programSize + 1
  | .repetition min max _ e => ((max.getD min) + 1) * (e.programSize + 3)

end Expr

end ModeLexer.Regex
