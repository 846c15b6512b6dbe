import ModeLexer.Yaml.BlockScalar
import ModeLexer.Yaml.FlowScalar
import ModeLexer.Yaml.Token

/-!
# From a text to its tokens

Tokens are read from left to right. A key without a question mark is known as one only when its
colon comes; so the place where a key may begin is remembered, and the tokens that mark it are put
in there afterwards.
-/

namespace ModeLexer.Yaml

/-- A place where a key may begin. -/
structure PossibleKey where
  /-- How many tokens come before it. -/
  position : Nat
  /-- Whether something else than a key cannot stand there. -/
  required : Bool
  index : Nat
  line : Nat
  column : Nat
  deriving DecidableEq, Repr

/-- How far a text has been read. -/
structure TokenStream where
  cursor : Cursor
  /-- The tokens so far, last first. -/
  tokens : List Token := []
  /-- The columns of the open blocks, innermost first. -/
  blocks : List Nat := []
  /-- Where a key may begin in the innermost flow collection, or in the block if there is none. -/
  key : Option PossibleKey := none
  /-- Where keys may begin around each open flow collection, innermost first. -/
  outerKeys : List (Option PossibleKey) := []
  /-- Whether a key may begin at the next token. -/
  keyAllowed : Bool := true
  deriving DecidableEq, Repr

namespace TokenStream

/-- Whether the cursor is within a flow collection. -/
def inFlow (s : TokenStream) : Bool := !s.outerKeys.isEmpty

/-- The least column at which something belongs to the innermost block. -/
def level (s : TokenStream) : Nat :=
  match s.blocks with
  | [] => 0
  | column :: _ => column + 1

/-- Adds a token. -/
def emit (s : TokenStream) (t : Token) : TokenStream := { s with tokens := t :: s.tokens }

/-- Adds tokens before those that come after the first `position` ones. -/
def emitAt (s : TokenStream) (position : Nat) (ts : List Token) : TokenStream :=
  let later := s.tokens.length - position
  { s with tokens := s.tokens.take later ++ ts.reverse ++ s.tokens.drop later }

/-- Passes a number of characters and adds the token that they make. -/
def pass (s : TokenStream) (n : Nat) (t : Token) : TokenStream :=
  { s.emit t with cursor := s.cursor.skip n }

def allowKey (s : TokenStream) (allowed : Bool) : TokenStream := { s with keyAllowed := allowed }

/-! ### Possible keys -/

/-- Gives up a possible key, which may not be a required one. -/
def giveUp (key : Option PossibleKey) : Except SyntaxError (Option PossibleKey) :=
  if key.any (·.required) then .error .missingColon else .ok none

/-- Gives up the innermost possible key. -/
def dropKey (s : TokenStream) : Except SyntaxError TokenStream := do
  return { s with key := ← giveUp s.key }

/-- Remembers that a key may begin here. -/
def saveKey (s : TokenStream) : Except SyntaxError TokenStream :=
  if !s.keyAllowed then .ok s
  else do
    let s ← s.dropKey
    let { index, line, column, .. } := s.cursor
    let required := !s.inFlow && s.blocks.head? = some column
    return { s with key := some { position := s.tokens.length, required, index, line, column } }

/-- The most characters that may stand between the beginning of a key and its colon. -/
def keyLimit : Nat := 1024

/-- Gives up the possible keys that began on an earlier line or too far away. -/
def dropStaleKeys (s : TokenStream) : Except SyntaxError TokenStream := do
  let check (key : Option PossibleKey) : Except SyntaxError (Option PossibleKey) :=
    if key.any fun k ↦ k.line < s.cursor.line || k.index + keyLimit < s.cursor.index then giveUp key
    else .ok key
  return { s with key := ← check s.key, outerKeys := ← s.outerKeys.mapM check }

/-! ### Blocks -/

/-- Opens a block at a column unless one is open there, and adds its start and another token before
those that come after the first `position` ones. -/
def openBlockAt (s : TokenStream) (position column : Nat) (start : Token) (ts : List Token) :
    TokenStream :=
  if !s.inFlow && s.level ≤ column then
    { s.emitAt position (start :: ts) with blocks := column :: s.blocks }
  else s.emitAt position ts

/-- Opens a block at the cursor unless one is open there. -/
def openBlock (s : TokenStream) (start : Token) : TokenStream :=
  s.openBlockAt s.tokens.length s.cursor.column start []

/-- Closes the blocks of which `closes` holds, as long as there is one. -/
def closeBlocksWhile (closes : Nat → Bool) (tokens : List Token) :
    List Nat → List Token × List Nat
  | [] => (tokens, [])
  | column :: blocks =>
    if closes column then closeBlocksWhile closes (.blockEnd :: tokens) blocks
    else (tokens, column :: blocks)

/-- Closes the blocks to the right of a column; in a flow collection indentation does not count. -/
def closeBlocks (s : TokenStream) (closes : Nat → Bool) : TokenStream :=
  if s.inFlow then s
  else
    let (tokens, blocks) := closeBlocksWhile closes s.tokens s.blocks
    { s with tokens, blocks }

/-- Closes all blocks and gives up the possible key. -/
def endDocument (s : TokenStream) : Except SyntaxError TokenStream := do
  return (← (s.closeBlocks fun _ ↦ true).dropKey).allowKey false

/-! ### Blanks -/

/-- Passes blanks, comments and line ends, with at most `n` lines. In a block a key may begin on a
new line; where one may begin in a block, tabs are no blanks. -/
def skipBlanks (s : TokenStream) : Nat → TokenStream
  | 0 => s
  | n + 1 =>
    let tabs := s.inFlow || !s.keyAllowed
    let c := s.cursor.skipWhile fun d ↦ d = ' ' || (tabs && d = '\t')
    let c := if c.rest.head? = some '#' then c.skipWhile (!isBreak ·) else c
    if atBreak c.rest then
      skipBlanks { s with cursor := c.skipLine, keyAllowed := s.keyAllowed || !s.inFlow } n
    else { s with cursor := c }

/-! ### Tokens -/

/-- Reads a directive. -/
def readDirectiveLine (s : TokenStream) : Except SyntaxError TokenStream := do
  let s ← s.endDocument
  let (directive, cursor) ← readDirective (s.cursor.skip 1)
  return { s.emit (.directive directive) with cursor }

/-- Passes the sign of the start or the end of a document. -/
def readDocumentSign (s : TokenStream) (sign : Token) : Except SyntaxError TokenStream := do
  return (← s.endDocument).pass 3 sign

/-- Passes the opening bracket of a flow collection. -/
def openFlow (s : TokenStream) (start : Token) : Except SyntaxError TokenStream := do
  let s ← s.saveKey
  let s := { s with key := none, outerKeys := s.key :: s.outerKeys }
  return (s.allowKey true).pass 1 start

/-- Passes the closing bracket of a flow collection. -/
def closeFlow (s : TokenStream) (stop : Token) : Except SyntaxError TokenStream := do
  let s ← s.dropKey
  let s := match s.outerKeys with
    | [] => s
    | key :: outerKeys => { s with key, outerKeys }
  return (s.allowKey false).pass 1 stop

/-- Passes a comma. -/
def readComma (s : TokenStream) : Except SyntaxError TokenStream := do
  return ((← s.dropKey).allowKey true).pass 1 .flowEntry

/-- Opens a block for an indicator that may stand only where a key may begin. -/
def openBlockFor (s : TokenStream) (start : Token) : Except SyntaxError TokenStream :=
  if s.inFlow then .ok s
  else if s.keyAllowed then .ok (s.openBlock start)
  else .error .misplacedIndicator

/-- Passes the hyphen before an item. -/
def readHyphen (s : TokenStream) : Except SyntaxError TokenStream := do
  let s ← s.openBlockFor .blockSequenceStart
  return ((← s.dropKey).allowKey true).pass 1 .blockEntry

/-- Passes the question mark before a key. -/
def readQuestionMark (s : TokenStream) : Except SyntaxError TokenStream := do
  let s ← s.openBlockFor .blockMappingStart
  return ((← s.dropKey).allowKey !s.inFlow).pass 1 .key

/-- Passes the colon before a value. -/
def readColon (s : TokenStream) : Except SyntaxError TokenStream :=
  match s.key with
  | some k =>
    let s := s.openBlockAt k.position k.column .blockMappingStart [.key]
    .ok (({ s with key := none }.allowKey false).pass 1 .value)
  | none => do
    let s ← s.openBlockFor .blockMappingStart
    return (s.allowKey !s.inFlow).pass 1 .value

/-- Reads a name after the sign of an anchor or of an alias. -/
def readName (s : TokenStream) (token : String → Token) : Except SyntaxError TokenStream := do
  let s ← s.saveKey
  let (name, cursor) ← readAnchorName (s.cursor.skip 1)
  return { (s.emit (token name)).allowKey false with cursor }

/-- Reads a tag. -/
def readTagToken (s : TokenStream) : Except SyntaxError TokenStream := do
  let s ← s.saveKey
  let (t, cursor) ← readTag s.inFlow s.cursor
  return { (s.emit (.tag t)).allowKey false with cursor }

/-- Reads a literal or a folded scalar. -/
def readBlock (s : TokenStream) (style : ScalarStyle) : Except SyntaxError TokenStream := do
  let s ← s.dropKey
  let (text, cursor) ← readBlockScalar (style = .folded) s.level (s.cursor.skip 1)
  return { (s.emit (.scalar style (String.ofList text))).allowKey true with cursor }

/-- Reads a quoted scalar. -/
def readQuote (s : TokenStream) (style : ScalarStyle) : Except SyntaxError TokenStream := do
  let s ← s.saveKey
  let c := s.cursor.skip 1
  let (text, cursor) ← readQuoted (style = .singleQuoted) (c.rest.length + 1) [] c
  return { (s.emit (.scalar style (String.ofList text))).allowKey false with cursor }

/-- Whether a plain scalar may start with a character that others follow. -/
def startsPlain (inFlow : Bool) (d : Char) (cs : List Char) : Bool :=
  !("-?:,[]\x7b\x7d#&*!|>'\"%@\x60".toList.contains d || isBlank d) ||
    (d = '-' && !atSeparator cs) || (!inFlow && (d = '?' || d = ':') && !atSeparator cs)

/-- Reads a plain scalar. After one that runs to the end of a line a key may begin. -/
def readPlainToken (s : TokenStream) : Except SyntaxError TokenStream := do
  let s ← s.saveKey
  let scanned ← readPlain s.inFlow s.level (s.cursor.rest.length + 1) [] {} s.cursor
  return {
    (s.emit (.scalar .plain (String.ofList scanned.text))).allowKey scanned.endsLine with
    cursor := scanned.cursor }

/-- Reads the token at the cursor, whose first character is given with those after it. -/
def readToken (s : TokenStream) (d : Char) (cs : List Char) : Except SyntaxError TokenStream :=
  let c := s.cursor
  if c.column = 0 && d = '%' then s.readDirectiveLine
  else if c.column = 0 && atDocumentStart c.rest then s.readDocumentSign .documentStart
  else if c.column = 0 && atDocumentEnd c.rest then s.readDocumentSign .documentEnd
  else if d = '[' then s.openFlow .flowSequenceStart
  else if d = '\x7b' then s.openFlow .flowMappingStart
  else if d = ']' then s.closeFlow .flowSequenceEnd
  else if d = '\x7d' then s.closeFlow .flowMappingEnd
  else if d = ',' then s.readComma
  else if d = '-' && atSeparator cs then s.readHyphen
  else if d = '?' && (s.inFlow || atSeparator cs) then s.readQuestionMark
  else if d = ':' && (s.inFlow || atSeparator cs) then s.readColon
  else if d = '*' then s.readName .reference
  else if d = '&' then s.readName .anchor
  else if d = '!' then s.readTagToken
  else if d = '|' && !s.inFlow then s.readBlock .literal
  else if d = '>' && !s.inFlow then s.readBlock .folded
  else if d = '\'' then s.readQuote .singleQuoted
  else if d = '"' then s.readQuote .doubleQuoted
  else if startsPlain s.inFlow d cs then s.readPlainToken
  else .error .unexpectedCharacter

/-- Reads all tokens, at most `n` of them. -/
def readAll : Nat → TokenStream → Except SyntaxError TokenStream
  | 0, _ => .error .unexpectedEnd
  | n + 1, s => do
    let s := s.skipBlanks (s.cursor.rest.length + 1)
    let s ← s.dropStaleKeys
    let s := s.closeBlocks (s.cursor.column < ·)
    match s.cursor.rest with
    | [] => s.endDocument
    | d :: cs => readAll n (← s.readToken d cs)

end TokenStream

/-- The tokens of a text. -/
def tokens (text : String) : Except SyntaxError (List Token) :=
  let cs := text.toList
  if !cs.all isPrintable then .error .controlCharacter
  else do
    let s ← TokenStream.readAll (cs.length + 1) { cursor := .ofChars cs }
    return s.tokens.reverse

end ModeLexer.Yaml
