/-!
# A position in a YAML text

The characters that count as blanks, as breaks and as parts of names, and a cursor that knows where
it stands: how many characters are before it, in which line and in which column.
-/

namespace ModeLexer.Yaml

/-- What can be wrong with a YAML text. -/
inductive SyntaxError where
  | controlCharacter
  | unexpectedEnd
  /-- A character that starts nothing here. -/
  | unexpectedCharacter
  | misplacedTab
  /-- A key that has to be on its line, without its colon. -/
  | missingColon
  /-- An entry, a key or a value where no block can start. -/
  | misplacedIndicator
  | invalidDirective
  | invalidName
  | invalidTag
  | invalidEscape
  | invalidBlockHeader
  /-- The sign of a document within a quoted scalar. -/
  | documentInScalar
  /-- A part of the structure is missing or superfluous. -/
  | malformed
  | undefinedHandle
  | unknownAnchor
  /-- An alias that leads back into its own anchor, or too many aliases. -/
  | endlessAlias
  deriving DecidableEq, Repr

/-- What is wrong, in words. -/
def SyntaxError.message : SyntaxError → String
  | controlCharacter => "control characters are not allowed"
  | unexpectedEnd => "unexpected end of stream"
  | unexpectedCharacter => "found character that cannot start any token"
  | misplacedTab => "found a tab character where an indentation space is expected"
  | missingColon => "could not find expected ':'"
  | misplacedIndicator => "block entries are not allowed in this context"
  | invalidDirective => "invalid directive"
  | invalidName => "did not find expected alphabetic or numeric character"
  | invalidTag => "invalid tag"
  | invalidEscape => "found unknown escape character"
  | invalidBlockHeader => "invalid header of a block scalar"
  | documentInScalar => "found unexpected document indicator"
  | malformed => "did not find expected node content"
  | undefinedHandle => "found undefined tag handle"
  | unknownAnchor => "unknown anchor"
  | endlessAlias => "recursion limit exceeded"

/-! ### Characters -/

/-- Whether a character may stand in a text at all. -/
def isPrintable (c : Char) : Bool :=
  let n := c.toNat
  n = 9 || n = 10 || n = 13 || (0x20 ≤ n && n ≤ 0x7E) || n = 0x85 ||
    (0xA0 ≤ n && n ≤ 0xFFFD) || 0x10000 ≤ n

/-- Space and tab. -/
def isBlank (c : Char) : Bool := c = ' ' || c = '\t'

/-- Characters that end a line. -/
def isBreak (c : Char) : Bool :=
  c = '\r' || c = '\n' || c = '\x85' || c = '\u2028' || c = '\u2029'

/-- Whether a text is at its end or at a character that separates. -/
def atSeparator : List Char → Bool
  | [] => true
  | c :: _ => isBlank c || isBreak c

/-- Whether a text is at its end or at the end of a line. -/
def atLineEnd : List Char → Bool
  | [] => true
  | c :: _ => isBreak c

/-- Whether a text is at the end of a line but not at its own. -/
def atBreak : List Char → Bool
  | [] => false
  | c :: _ => isBreak c

/-- ASCII letters, digits, the underscore and the hyphen. -/
def isNameChar (c : Char) : Bool := c.isAlphanum || c = '_' || c = '-'

/-- Characters that separate the parts of a flow collection. -/
def isFlowIndicator (c : Char) : Bool := c = ',' || c = '[' || c = ']' || c = '\x7b' || c = '\x7d'

/-- Whether a text starts with the sign of the start of a document. -/
def atDocumentStart : List Char → Bool
  | '-' :: '-' :: '-' :: rest => atSeparator rest
  | _ => false

/-- Whether a text starts with the sign of the end of a document. -/
def atDocumentEnd : List Char → Bool
  | '.' :: '.' :: '.' :: rest => atSeparator rest
  | _ => false

/-! ### Cursors -/

/-- A position in a text. -/
structure Cursor where
  rest : List Char
  /-- The number of characters before the position. -/
  index : Nat := 0
  line : Nat := 0
  column : Nat := 0
  deriving DecidableEq, Repr

namespace Cursor

/-- Passes a number of characters within a line. -/
def skip (c : Cursor) (n : Nat) : Cursor :=
  { c with rest := c.rest.drop n, index := c.index + n, column := c.column + n }

/-- Passes the end of a line; a carriage return and a line feed together are one end. -/
def skipLine (c : Cursor) : Cursor :=
  match c.rest with
  | '\r' :: '\n' :: rest => ⟨rest, c.index + 2, c.line + 1, 0⟩
  | _ :: rest => ⟨rest, c.index + 1, c.line + 1, 0⟩
  | [] => c

/-- What an end of a line stands for in a scalar: a line feed, or itself if it is one of the two
separators. -/
def lineText (c : Cursor) : List Char :=
  match c.rest with
  | [] => []
  | d :: _ => if d = '\u2028' ∨ d = '\u2029' then [d] else ['\n']

/-- Passes the longest run of characters that satisfy `p`, none of which ends a line. -/
def takeWhile (c : Cursor) (p : Char → Bool) : List Char × Cursor :=
  let run := c.rest.takeWhile p
  (run, c.skip run.length)

/-- Passes the longest run of characters that satisfy `p`. -/
def skipWhile (c : Cursor) (p : Char → Bool) : Cursor := (c.takeWhile p).2

/-- The start of a text. A byte order mark there is passed, but takes a column. -/
def ofChars (cs : List Char) : Cursor :=
  let c : Cursor := { rest := cs }
  if cs.head? = some '\ufeff' then c.skip 1 else c

/-- Passes blanks and a comment. -/
def skipComment (c : Cursor) : Cursor :=
  let c := c.skipWhile isBlank
  if c.rest.head? = some '#' then c.skipWhile (!isBreak ·) else c

/-- Passes the rest of a line, in which nothing but blanks and a comment may stand. -/
def finishLine (c : Cursor) (otherwise : SyntaxError) : Except SyntaxError Cursor :=
  let c := c.skipComment
  if atLineEnd c.rest then .ok c.skipLine else .error otherwise

/-- Whether the position is at the start of a line, at the sign of a document. -/
def atDocumentSign (c : Cursor) : Bool :=
  c.column = 0 && (atDocumentStart c.rest || atDocumentEnd c.rest)

end Cursor

end ModeLexer.Yaml
