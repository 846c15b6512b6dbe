/-!
# References to named patterns

Within a pattern, `@name` refers to a pattern of the library. A name starts with an ASCII letter or
an underscore and goes on with those and digits; an at-sign that no name follows stands for itself,
and so does any character after a backslash. `Piece.ofChars` takes a pattern apart into single
characters and references.
-/

namespace ModeLexer.Pattern

/-- A part of a pattern. -/
inductive Piece where
  | char (c : Char)
  | reference (name : List Char)
  deriving DecidableEq, Repr

/-- What the characters before say about the next one. -/
inductive PieceState where
  | plain
  /-- Right after a backslash. -/
  | escaped
  /-- After an at-sign and the start of a name. -/
  | named (name : List Char)
  deriving DecidableEq, Repr

namespace PieceState

/-- Whether a character starts a name. -/
def startsName (c : Char) : Bool := c.isAlpha || c = '_'

/-- Whether a name can go on with a character. -/
def continuesName (name : List Char) (c : Char) : Bool :=
  startsName c || (!name.isEmpty && c.isDigit)

/-- The piece that is complete when a name ends. -/
def flush : PieceState → List Piece
  | plain | escaped => []
  | named [] => [.char '@']
  | named name => [.reference name]

/-- The pieces and the state that a character leads to where it continues no name. -/
def start (c : Char) : List Piece × PieceState :=
  if c = '\\' then ([.char c], escaped)
  else if c = '@' then ([], named [])
  else ([.char c], plain)

/-- The pieces and the state that a character leads to. -/
def step : PieceState → Char → List Piece × PieceState
  | plain, c => start c
  | escaped, c => ([.char c], plain)
  | named name, c =>
    if continuesName name c then ([], named (name ++ [c]))
    else ((named name).flush ++ (start c).1, (start c).2)

end PieceState

/-- The pieces of the characters that are left. -/
def Piece.read (s : PieceState) : List Char → List Piece
  | [] => s.flush
  | c :: cs => (s.step c).1 ++ Piece.read (s.step c).2 cs

/-- The pieces of a pattern. -/
def Piece.ofChars (cs : List Char) : List Piece := Piece.read .plain cs

/-- The names that a pattern refers to, in the order of the references. -/
def references (cs : List Char) : List String :=
  (Piece.ofChars cs).filterMap fun
    | .char _ => none
    | .reference name => some (String.ofList name)

/-- A text as a group that captures nothing. -/
def grouped (cs : List Char) : List Char := ['(', '?', ':'] ++ cs ++ [')']

/-- Replaces every reference by what `resolve` gives for it, as a group. The references are resolved
in the order in which they stand. -/
def substitute {m : Type → Type} [Monad m] (resolve : String → m (List Char)) :
    List Piece → m (List Char)
  | [] => return []
  | .char c :: ps => do
    let rest ← substitute resolve ps
    return c :: rest
  | .reference name :: ps => do
    let text ← resolve (String.ofList name)
    let rest ← substitute resolve ps
    return grouped text ++ rest

end ModeLexer.Pattern
