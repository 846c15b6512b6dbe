import ModeLexer.Regex.Parser

/-!
# Regular expressions with their flags in effect

An `Expr` says what is matched and no longer how it was written: a literal under `(?i)` is a set of
characters, and an anchor is the test of a position that the flags make it. `Term.resolve` gives the
expression of a term under given flags, or refuses a part that is not about whole characters.

Repetitions are simplified on the way: what can match only the empty text is repeated at most once,
and what is repeated exactly once is not repeated at all. A part that is repeated no times vanishes
with the groups inside it.
-/

namespace ModeLexer.Regex

open Unicode

/-- A test of a position: what is right before it and what is right after it. -/
inductive Look where
  | textStart | textEnd
  | lineStart | lineEnd
  /-- The start of a line where a carriage return ends a line too, though not between the two
  characters of a pair. -/
  | crlfLineStart
  | crlfLineEnd
  | wordBoundary (ascii : Bool)
  | notWordBoundary (ascii : Bool)
  | wordStart (ascii : Bool)
  | wordEnd (ascii : Bool)
  | wordStartHalf (ascii : Bool)
  | wordEndHalf (ascii : Bool)
  deriving DecidableEq, Repr

/-- A regular expression whose flags have taken effect. -/
inductive Expr where
  | empty
  | set (s : CharSet)
  | look (l : Look)
  | capture (index : Nat) (e : Expr)
  | concat (a b : Expr)
  /-- Either side, the left one first. -/
  | alternate (a b : Expr)
  /-- At least `min` and at most `max` times, as often as possible if `greedy`. -/
  | repetition (min : Nat) (max : Option Nat) (greedy : Bool) (e : Expr)
  deriving DecidableEq, Repr

namespace Expr

/-- Whether the expression can match nothing but the empty text. -/
def onlyEmpty : Expr → Bool
  | empty | look _ => true
  | set _ => false
  | capture _ e => e.onlyEmpty
  | concat a b | alternate a b => a.onlyEmpty && b.onlyEmpty
  | repetition _ _ _ e => e.onlyEmpty

/-- Whether every match of the expression takes at least one character. -/
def consumes : Expr → Bool
  | empty | look _ => false
  | set _ => true
  | capture _ e => e.consumes
  | concat a b => a.consumes || b.consumes
  | alternate a b => a.consumes && b.consumes
  | repetition min _ _ e => 0 < min && e.consumes

/-- The largest number of a group in the expression, `0` if it has none. -/
def maxGroup : Expr → Nat
  | empty | set _ | look _ => 0
  | capture i e => max i e.maxGroup
  | concat a b | alternate a b => max a.maxGroup b.maxGroup
  | repetition _ _ _ e => e.maxGroup

/-- Repeats an expression, in the simplest form. -/
def repeated (min : Nat) (max : Option Nat) (greedy : Bool) (e : Expr) : Expr :=
  let (min, max) := if e.onlyEmpty then (Nat.min min 1, some ((max.getD 1).min 1)) else (min, max)
  match min, max with
  | 0, some 0 => empty
  | 1, some 1 => e
  | _, _ => repetition min max greedy e

end Expr

/-! ### Flags -/

/-- The flags that bear on what an expression matches. -/
structure Flags where
  ignoreCase : Bool := false
  multiLine : Bool := false
  dotAll : Bool := false
  swapGreed : Bool := false
  unicode : Bool := true
  crlf : Bool := false
  deriving DecidableEq, Repr

/-- The flags after a change. -/
def Flags.apply (f : Flags) (fc : FlagChange) : Flags where
  ignoreCase := (fc.value? .ignoreCase).getD f.ignoreCase
  multiLine := (fc.value? .multiLine).getD f.multiLine
  dotAll := (fc.value? .dotAll).getD f.dotAll
  swapGreed := (fc.value? .swapGreed).getD f.swapGreed
  unicode := (fc.value? .unicode).getD f.unicode
  crlf := (fc.value? .crlf).getD f.crlf

/-- Closes a set under changes of case if case does not matter. -/
def Flags.close (f : Flags) (s : CharSet) : CharSet :=
  if f.ignoreCase then (if f.unicode then .variants s else .asciiVariants s) else s

/-- The complement of a set if `negated`. Without the Unicode flag it is refused: it would take
single bytes of characters. -/
def Flags.negate (f : Flags) (negated : Bool) (s : CharSet) : Except Error CharSet :=
  if negated then (if f.unicode then .ok (.compl s) else .error .notText) else .ok s

/-! ### Atoms -/

/-- The characters of a named ASCII class. -/
def PosixClass.set : PosixClass → CharSet
  | alnum => .unions [.range '0' '9', .range 'A' 'Z', .range 'a' 'z']
  | alpha => .union (.range 'A' 'Z') (.range 'a' 'z')
  | ascii => .range '\x00' '\x7f'
  | blank => .union (.single '\t') (.single ' ')
  | cntrl => .union (.range '\x00' '\x1f') (.single '\x7f')
  | digit => .range '0' '9'
  | graph => .range '!' '~'
  | lower => .range 'a' 'z'
  | print => .range ' ' '~'
  | punct => .unions [.range '!' '/', .range ':' '@', .range '[' '\x60', .range '\x7b' '~']
  | space => .union (.range '\t' '\r') (.single ' ')
  | upper => .range 'A' 'Z'
  | word => .unions [.range '0' '9', .range 'A' 'Z', .single '_', .range 'a' 'z']
  | xdigit => .unions [.range '0' '9', .range 'A' 'F', .range 'a' 'f']

/-- The set of a single byte, which is a character with the Unicode flag. Without it only ASCII has
bytes that are characters. -/
def Flags.byte (f : Flags) (c : Char) : Except Error CharSet :=
  if f.unicode || c.toNat < 128 then .ok (.single c) else .error .notText

/-- The set of an abbreviated class. -/
def Flags.charClass (f : Flags) (k : CharClass) (negated : Bool) : Except Error CharSet :=
  f.negate negated (if f.unicode then .charClass k else .asciiClass k)

/-- The set of a property, which is there with the Unicode flag only. -/
def Flags.property (f : Flags) (s : CharSet) (negated : Bool) : Except Error CharSet :=
  if f.unicode then f.negate negated (f.close s) else .error .notText

/-- The set of two sets under an operation. -/
def SetOperation.apply : SetOperation → CharSet → CharSet → CharSet
  | intersection, a, b => .inter a b
  | difference, a, b => .diff a b
  | symmetricDifference, a, b => .symmDiff a b

/-- The set of a bracketed class, which is one of bytes without the Unicode flag. Case is
disregarded before a complement is taken and before an operation is applied. -/
def Bracket.resolve (f : Flags) : Bracket → Except Error CharSet
  | .empty => .ok .empty
  | .literal c => f.byte c
  | .range lo hi => do
    let _ ← f.byte lo
    let _ ← f.byte hi
    return .range lo hi
  | .posix k negated => f.negate negated (f.close k.set)
  | .charClass k negated => f.charClass k negated
  | .property s negated => f.property s negated
  | .union a b => return .union (← a.resolve f) (← b.resolve f)
  | .operation o a b => return o.apply (f.close (← a.resolve f)) (f.close (← b.resolve f))
  | .nested negated b => do f.negate negated (f.close (← b.resolve f))

/-- The test of a position that an anchor stands for. -/
def Anchor.look (f : Flags) : Anchor → Look
  | lineStart => if f.multiLine then (if f.crlf then .crlfLineStart else .lineStart) else .textStart
  | lineEnd => if f.multiLine then (if f.crlf then .crlfLineEnd else .lineEnd) else .textEnd
  | textStart => .textStart
  | textEnd => .textEnd
  | wordBoundary => .wordBoundary !f.unicode
  | notWordBoundary => .notWordBoundary !f.unicode
  | wordStart => .wordStart !f.unicode
  | wordEnd => .wordEnd !f.unicode
  | wordStartHalf => .wordStartHalf !f.unicode
  | wordEndHalf => .wordEndHalf !f.unicode

/-- The characters that a dot takes. -/
def Flags.dot (f : Flags) : Except Error CharSet :=
  if !f.unicode then .error .notText
  else if f.dotAll then .ok .all
  else if f.crlf then .ok (.compl (.union (.single '\r') (.single '\n')))
  else .ok (.compl (.single '\n'))

/-- The expression of an atom. -/
def Atom.resolve (f : Flags) : Atom → Except Error Expr
  | .literal c => .ok (.set (f.close (.single c)))
  | .byte c => return .set (f.close (← f.byte c))
  | .dot => return .set (← f.dot)
  | .anchor a => .ok (.look (a.look f))
  | .charClass k negated => return .set (← f.charClass k negated)
  | .property s negated => return .set (← f.property s negated)

/-! ### Whole terms -/

/-- The expression of a term under flags, and the flags that hold after it: a change of flags in a
group lasts to the end of the group, also across its branches. -/
def Term.resolve (f : Flags) : Term → Except Error (Expr × Flags)
  | .empty => .ok (.empty, f)
  | .atom a => return (← a.resolve f, f)
  | .bracket b => return (.set (← b.resolve f), f)
  | .setFlags fc => .ok (.empty, f.apply fc)
  | .capture i t => do
    let (e, _) ← t.resolve f
    return (.capture i e, f)
  | .group fc t => do
    let (e, _) ← t.resolve (f.apply fc)
    return (e, f)
  | .repetition min max greedy t => do
    let (e, f') ← t.resolve f
    return (.repeated min max (greedy != f.swapGreed) e, f')
  | .concat a b => do
    let (a, f) ← a.resolve f
    let (b, f) ← b.resolve f
    return (.concat a b, f)
  | .alternate a b => do
    let (a, f) ← a.resolve f
    let (b, f) ← b.resolve f
    return (.alternate a b, f)

/-- The largest depth of a term. -/
def nestLimit : Nat := 250

/-- Reads a regular expression. -/
def Expr.parse (cs : List Char) : Except Error Expr := do
  let t ← Term.parse cs
  if nestLimit < t.depth then .error .tooDeep
  else
    let (e, _) ← t.resolve {}
    return e

end ModeLexer.Regex
