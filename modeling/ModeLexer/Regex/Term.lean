import ModeLexer.Unicode.CharSet

/-!
# Regular expressions as they are written

A `Term` is a regular expression after reading and before its flags have taken effect: `(?i)` is an
item of its own in it, and a dot does not yet say whether it takes a line feed.
-/

namespace ModeLexer.Regex

open Unicode

/-- The one-letter flags of a group. -/
inductive Flag where
  /-- `i`: case does not matter. -/
  | ignoreCase
  /-- `m`: `^` and `$` match at every line. -/
  | multiLine
  /-- `s`: a dot takes a line terminator too. -/
  | dotAll
  /-- `U`: repetitions are lazy, and those marked with `?` greedy. -/
  | swapGreed
  /-- `u`: classes and literals range over all characters and not only over ASCII. -/
  | unicode
  /-- `R`: a carriage return also ends a line. -/
  | crlf
  /-- `x`: blanks and comments in the expression do not count. -/
  | verbose
  deriving DecidableEq, Repr

/-- The flags that a group sets and clears. -/
abbrev FlagChange := List (Flag × Bool)

/-- Which way a change sets a flag, if it names it. -/
def FlagChange.value? (fc : FlagChange) (f : Flag) : Option Bool := fc.lookup f

/-- Assertions about a position. -/
inductive Anchor where
  | lineStart | lineEnd
  | textStart | textEnd
  | wordBoundary | notWordBoundary
  | wordStart | wordEnd | wordStartHalf | wordEndHalf
  deriving DecidableEq, Repr

/-- The named ASCII classes, `[:alpha:]`. -/
inductive PosixClass where
  | alnum | alpha | ascii | blank | cntrl | digit | graph | lower | print | punct | space | upper
  | word | xdigit
  deriving DecidableEq, Repr

/-- The operations between the parts of a bracket. -/
inductive SetOperation where
  | intersection | difference | symmetricDifference
  deriving DecidableEq, Repr

/-- A bracketed class, or a part of one. -/
inductive Bracket where
  | empty
  | literal (c : Char)
  | range (lo hi : Char)
  | posix (k : PosixClass) (negated : Bool)
  | charClass (k : CharClass) (negated : Bool)
  | property (s : CharSet) (negated : Bool)
  | union (a b : Bracket)
  | operation (o : SetOperation) (a b : Bracket)
  | nested (negated : Bool) (inner : Bracket)
  deriving DecidableEq, Repr

/-- A part of an expression that has no parts itself. -/
inductive Atom where
  | literal (c : Char)
  /-- A character given by two hexadecimal digits, `\xHH`. Without the Unicode flag it is a byte. -/
  | byte (c : Char)
  | dot
  | anchor (a : Anchor)
  | charClass (k : CharClass) (negated : Bool)
  | property (s : CharSet) (negated : Bool)
  deriving DecidableEq, Repr

/-- The character that an atom stands for, if it is one. -/
def Atom.char? : Atom → Option Char
  | literal c | byte c => some c
  | dot | anchor _ | charClass .. | property .. => none

/-- A regular expression as written. -/
inductive Term where
  | empty
  | atom (a : Atom)
  | bracket (b : Bracket)
  /-- A change of flags that holds to the end of the group around it. -/
  | setFlags (fc : FlagChange)
  /-- A group that captures under a number. -/
  | capture (index : Nat) (t : Term)
  /-- A group that only changes flags. -/
  | group (fc : FlagChange) (t : Term)
  /-- A repetition; without `max` there is no upper bound. -/
  | repetition (min : Nat) (max : Option Nat) (greedy : Bool) (t : Term)
  | concat (a b : Term)
  | alternate (a b : Term)
  deriving Repr

/-- The concatenation of several terms. -/
def Term.concats : List Term → Term
  | [] => .empty
  | [t] => t
  | t :: ts => .concat t (concats ts)

/-- The alternation of several terms. -/
def Term.alternates : List Term → Term
  | [] => .empty
  | [t] => t
  | t :: ts => .alternate t (alternates ts)

/-! ### Depth -/

/-- How many members a part of a bracket lists. -/
def Bracket.memberCount : Bracket → Nat
  | empty => 0
  | union a b => a.memberCount + b.memberCount
  | literal _ | range .. | posix .. | charClass .. | property .. | operation .. | nested .. => 1

/-- The depth of a part of a bracket whose members have a given depth: a list of several members is
a level of its own. -/
def Bracket.listDepth (b : Bracket) (depth : Nat) : Nat :=
  if b.memberCount ≤ 1 then depth else depth + 1

/-- The largest depth of a member of a part of a bracket. Brackets and operations are levels. -/
def Bracket.memberDepth : Bracket → Nat
  | empty | literal _ | range .. | posix .. | charClass .. | property .. => 0
  | union a b => max a.memberDepth b.memberDepth
  | operation _ a b => max (a.listDepth a.memberDepth) (b.listDepth b.memberDepth) + 1
  | nested _ b => b.listDepth b.memberDepth + 1

/-- Whether a term is a concatenation of two terms or more. -/
def Term.isConcat : Term → Bool
  | concat .. => true
  | _ => false

/-- Whether a term has alternatives outside of all groups. -/
def Term.isAlternation : Term → Bool
  | alternate .. => true
  | _ => false

/-- The depth of a term. Groups, repetitions and brackets are levels, and so are concatenations and
alternations, each of them a single one whatever its length. -/
def Term.depth : Term → Nat
  | empty | atom _ | setFlags _ => 0
  | bracket b => b.listDepth b.memberDepth
  | capture _ t | group _ t | repetition _ _ _ t => t.depth + 1
  | concat a b => max (a.depth + 1) (if b.isConcat then b.depth else b.depth + 1)
  | alternate a b => max (a.depth + 1) (if b.isAlternation then b.depth else b.depth + 1)

end ModeLexer.Regex
