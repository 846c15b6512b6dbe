import ModeLexer.Document.Tokenizer
import ModeLexer.Text.Quoted

/-!
# Expectations about tokens

What can be expected of the tokens of a document, for use in tests of a language. An expectation is
checked against the tokens and a document that their texts are taken from; it holds, or a `Mismatch`
says what is different. A check fails at the first thing that goes wrong, which may be a token whose
span does not lie in its line, so that it has no text.
-/

namespace ModeLexer

/-- The class of blanks, which `significant` passes over. -/
def whitespaceClass : String := "white"

/-- What can be expected of a line. -/
inductive LineExpectation where
  /-- The number of tokens. -/
  | tokenCount (count : Nat)
  /-- The token at an index has a class and a text. -/
  | token (index : Nat) (cls text : String)
  /-- All classes and texts, in order. -/
  | sequence (run : List (String × String))
  /-- All classes and texts but those of blanks, in order. -/
  | significant (run : List (String × String))
  /-- Some token has a class and a text. -/
  | contains (cls text : String)
  /-- No token has a class. -/
  | lacksClass (cls : String)
  /-- The tokens tile the line. -/
  | coversExactly
  deriving DecidableEq, Repr

/-- What can be expected of a document. -/
inductive Expectation where
  /-- The number of tokenized lines. -/
  | lineCount (count : Nat)
  /-- The tokens of every line tile it. -/
  | coversEveryLine
  /-- The height of the stack after a line. -/
  | depthAfter (line depth : Nat)
  /-- What is expected of a line. -/
  | line (index : Nat) (e : LineExpectation)
  deriving DecidableEq, Repr

/-- How tokens differ from what is expected of them. Where a case has a `listing`, it shows the
tokens of the line. -/
inductive Mismatch where
  | lineCount (expected found : Nat)
  | lineOutOfBounds (index count : Nat)
  | noEndState (line : Nat)
  | depth (line expected found : Nat)
  | tokenCount (line expected found : Nat) (listing : String)
  | tokenOutOfBounds (line index count : Nat) (listing : String)
  | token (line index : Nat) (listing : String)
  | sequence (line : Nat)
  | significant (line : Nat)
  | missingToken (line : Nat) (cls text listing : String)
  | unexpectedClass (line : Nat) (cls listing : String)
  | emptyToken (line index : Nat)
  | detachedToken (line index start previous : Nat)
  | endsElsewhere (line column length : Nat)
  | spanOutside (line : Nat) (span : Span) (text : String)
  deriving DecidableEq, Repr

namespace Mismatch

/-- A text in quotation marks. -/
def quote (s : String) : String := String.ofList (Text.quoted s.toList)

/-- The start of a message about a line. -/
def atLine (line : Nat) (text : String) : String := "line " ++ toString line ++ ": " ++ text

/-- A difference in words. -/
def message : Mismatch → String
  | lineCount expected found =>
    "Expected " ++ toString expected ++ " tokenized lines, found " ++ toString found
  | lineOutOfBounds index count =>
    "Line index " ++ toString index ++ " out of bounds (document has " ++ toString count ++
      " lines)"
  | noEndState line => "No end state recorded for line " ++ toString line
  | depth line expected found =>
    atLine line ("Expected stack depth " ++ toString expected ++ " at end of line, found " ++
      toString found)
  | tokenCount line expected found listing =>
    atLine line ("Expected " ++ toString expected ++ " tokens, found " ++ toString found ++ ": [" ++
      listing ++ "]")
  | tokenOutOfBounds line index count listing =>
    atLine line ("Token index " ++ toString index ++ " out of bounds (line has " ++
      toString count ++ " tokens): [" ++ listing ++ "]")
  | token line index listing =>
    atLine line ("token " ++ toString index ++ " mismatch in [" ++ listing ++ "]")
  | sequence line => atLine line "token run mismatch"
  | significant line => atLine line "significant token run mismatch"
  | missingToken line cls text listing =>
    atLine line ("Expected a " ++ cls ++ " token " ++ quote text ++ " in [" ++ listing ++ "]")
  | unexpectedClass line cls listing =>
    atLine line ("Expected no " ++ cls ++ " token in [" ++ listing ++ "]")
  | emptyToken line index => atLine line ("token " ++ toString index ++ " is empty")
  | detachedToken line index start previous =>
    atLine line ("token " ++ toString index ++ " starts at " ++ toString start ++
      " but the previous token ended at " ++ toString previous)
  | endsElsewhere line column length =>
    atLine line ("tokens end at column " ++ toString column ++ " but the line is " ++
      toString length ++ " bytes long")
  | spanOutside line span text =>
    atLine line ("token span " ++ toString span.start ++ ".." ++ toString span.stop ++
      " is outside the line " ++ quote text)

end Mismatch

/-! ### Checking a line -/

/-- A line under check. -/
structure CheckedLine where
  index : Nat
  tokens : List Token
  text : String

namespace CheckedLine

/-- The text of a token. -/
def textOf (l : CheckedLine) (k : Token) : Except Mismatch String :=
  match k.text? l.text.toList with
  | some text => .ok (String.ofList text)
  | none => .error (.spanOutside l.index k.span l.text)

/-- The classes and texts of tokens. -/
def pairs (l : CheckedLine) (ks : List Token) : Except Mismatch (List (String × String)) :=
  ks.mapM fun k ↦ return (k.cls, ← l.textOf k)

/-- The tokens of the line, for a message. -/
def listing (l : CheckedLine) : Except Mismatch String := do
  let ps ← l.pairs l.tokens
  return ", ".intercalate (ps.map fun (cls, text) ↦ cls ++ " " ++ Mismatch.quote text)

/-- Fails with a difference that shows the tokens of the line. -/
def fail (l : CheckedLine) (m : String → Mismatch) : Except Mismatch Unit := do
  .error (m (← l.listing))

/-- Whether one of several tokens has a class and a text. -/
def anyToken (l : CheckedLine) (cls text : String) : List Token → Except Mismatch Bool
  | [] => .ok false
  | k :: ks =>
    if k.cls = cls then do
      if (← l.textOf k) = text then return true else l.anyToken cls text ks
    else l.anyToken cls text ks

/-- Checks that tokens, the first of them with a given index, follow on each other from a column on
and end where the line ends. -/
def checkCover (l : CheckedLine) : Nat → Nat → List Token → Except Mismatch Unit
  | _, column, [] =>
    if column = l.text.utf8ByteSize then .ok ()
    else .error (.endsElsewhere l.index column l.text.utf8ByteSize)
  | index, column, k :: ks =>
    if k.isEmpty then .error (.emptyToken l.index index)
    else if k.span.start ≠ column then
      .error (.detachedToken l.index index k.span.start column)
    else l.checkCover (index + 1) k.span.stop ks

/-- Checks what is expected of the line. -/
def check (l : CheckedLine) : LineExpectation → Except Mismatch Unit
  | .tokenCount count =>
    if l.tokens.length = count then .ok ()
    else l.fail (.tokenCount l.index count l.tokens.length)
  | .token index cls text =>
    match l.tokens[index]? with
    | none => l.fail (.tokenOutOfBounds l.index index l.tokens.length)
    | some k => do
      let found ← l.textOf k
      if k.cls = cls ∧ found = text then return () else l.fail (.token l.index index)
  | .sequence run => do
    if (← l.pairs l.tokens) = run then return () else .error (.sequence l.index)
  | .significant run => do
    if (← l.pairs (l.tokens.filter (·.cls ≠ whitespaceClass))) = run then return ()
    else .error (.significant l.index)
  | .contains cls text => do
    if ← l.anyToken cls text l.tokens then return ()
    else l.fail (.missingToken l.index cls text)
  | .lacksClass cls =>
    if l.tokens.all (·.cls ≠ cls) then .ok () else l.fail (.unexpectedClass l.index cls)
  | .coversExactly => l.checkCover 0 0 l.tokens

end CheckedLine

/-! ### Checking a document -/

namespace TokenizedDocument

/-- A line for checking; a line that the document lacks has no text. -/
def checkedLine (r : TokenizedDocument) (d : Document) (index : Nat) : CheckedLine :=
  ⟨index, r.line index, (d.line? index).getD ""⟩

/-- Checks lines one after the other. -/
def checkLines (r : TokenizedDocument) (d : Document) (e : LineExpectation) :
    List Nat → Except Mismatch Unit
  | [] => .ok ()
  | i :: is => do
    (r.checkedLine d i).check e
    r.checkLines d e is

/-- Checks what is expected of tokens, with their texts taken from a document. -/
def check (r : TokenizedDocument) (d : Document) : Expectation → Except Mismatch Unit
  | .lineCount count =>
    if r.lineCount = count then .ok () else .error (.lineCount count r.lineCount)
  | .coversEveryLine => r.checkLines d .coversExactly (List.range r.lineCount)
  | .depthAfter line depth =>
    match r.endState? line with
    | none => .error (.noEndState line)
    | some s => if s.stack.depth = depth then .ok () else .error (.depth line depth s.stack.depth)
  | .line index e =>
    if index < r.lineCount then (r.checkedLine d index).check e
    else .error (.lineOutOfBounds index r.lineCount)

end TokenizedDocument

end ModeLexer
