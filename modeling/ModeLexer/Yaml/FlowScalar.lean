import ModeLexer.Unicode.CodeRanges
import ModeLexer.Yaml.Cursor

/-!
# Plain and quoted scalars

Scalars that run through the text as it comes. A line end inside of one is folded: it becomes a
space, or if empty lines follow, as many line feeds as there are of these.
-/

namespace ModeLexer.Yaml

open Unicode

/-! ### Gaps -/

/-- Blanks and line ends within a scalar. -/
structure Gap where
  /-- The blanks before the first line end. -/
  blanks : List Char := []
  /-- The first line end, if there is one; empty if it is escaped. -/
  first : Option (List Char) := none
  /-- The line ends after the first one. -/
  more : List Char := []
  deriving DecidableEq, Repr

namespace Gap

/-- What a gap stands for. -/
def text (g : Gap) : List Char :=
  match g.first with
  | none => g.blanks
  | some ['\n'] => if g.more.isEmpty then [' '] else g.more
  | some first => first ++ g.more

/-- Reads a gap, with at most `n` characters. After a line end a tab may not stand before column
`indent`. -/
def read (indent : Nat) (g : Gap) : Nat → Cursor → Except SyntaxError (Gap × Cursor)
  | 0, c => .ok (g, c)
  | n + 1, c =>
    match c.rest with
    | [] => .ok (g, c)
    | d :: _ =>
      if isBlank d then
        if g.first.isSome then
          if d = '\t' ∧ c.column < indent then .error .misplacedTab
          else read indent g n (c.skip 1)
        else read indent { g with blanks := g.blanks ++ [d] } n (c.skip 1)
      else if isBreak d then
        let g := match g.first with
          | none => { g with blanks := [], first := some c.lineText }
          | some _ => { g with more := g.more ++ c.lineText }
        read indent g n c.skipLine
      else .ok (g, c)

end Gap

/-! ### Plain scalars -/

/-- Reads the characters of a plain scalar up to a blank, a line end or something that ends it. -/
def readPlainRun (flow : Bool) : List Char → Except SyntaxError (List Char)
  | [] => .ok []
  | c :: cs =>
    if isBlank c || isBreak c then .ok []
    else if c = ':' ∧ flow ∧ cs.head?.any (fun d ↦ isFlowIndicator d || d = '?') then
      .error .unexpectedCharacter
    else if c = ':' ∧ atSeparator cs then .ok []
    else if flow ∧ isFlowIndicator c then .ok []
    else do
      let run ← readPlainRun flow cs
      return c :: run

/-- A scalar that has been read: its text, whether it was followed by a line end, and the position
after it. -/
structure ScannedScalar where
  text : List Char
  endsLine : Bool
  cursor : Cursor

/-- Reads a plain scalar; its lines after the first have to start at column `indent` at least,
unless it is in a flow collection. `acc` is what was read before, and `gap` the gap after it. -/
def readPlain (flow : Bool) (indent : Nat) :
    Nat → List Char → Gap → Cursor → Except SyntaxError ScannedScalar
  | 0, acc, gap, c => .ok ⟨acc, gap.first.isSome, c⟩
  | n + 1, acc, gap, c =>
    if c.atDocumentSign || c.rest.head? = some '#' then .ok ⟨acc, gap.first.isSome, c⟩
    else do
      let run ← readPlainRun flow c.rest
      let c := c.skip run.length
      let acc := if run.isEmpty then acc else acc ++ gap.text ++ run
      let gap := if run.isEmpty then gap else {}
      if c.rest.isEmpty || !atSeparator c.rest then return ⟨acc, gap.first.isSome, c⟩
      else
        let (gap, c) ← Gap.read indent gap c.rest.length c
        if !flow && c.column < indent then return ⟨acc, gap.first.isSome, c⟩
        else readPlain flow indent n acc gap c

/-! ### Quoted scalars -/

/-- What a letter stands for after a backslash. -/
def escapedChar? : Char → Option Char
  | '0' => some '\x00'
  | 'a' => some '\x07'
  | 'b' => some '\x08'
  | 't' => some '\t'
  | '\t' => some '\t'
  | 'n' => some '\n'
  | 'v' => some '\x0b'
  | 'f' => some '\x0c'
  | 'r' => some '\r'
  | 'e' => some '\x1b'
  | ' ' => some ' '
  | '"' => some '"'
  | '/' => some '/'
  | '\\' => some '\\'
  | 'N' => some '\x85'
  | '_' => some '\xa0'
  | 'L' => some '\u2028'
  | 'P' => some '\u2029'
  | _ => none

/-- The number of hexadecimal digits after a letter that introduces a code point. -/
def codeLength? : Char → Option Nat
  | 'x' => some 2
  | 'u' => some 4
  | 'U' => some 8
  | _ => none

/-- Reads what follows a backslash; gives the character and how many characters it took. -/
def readEscape : List Char → Except SyntaxError (Char × Nat)
  | [] => .error .unexpectedEnd
  | e :: cs =>
    match codeLength? e with
    | some n =>
      let digits := cs.take n
      let value := digits.foldl (fun v d ↦ 16 * v + hexDigitValue d) 0
      if digits.length = n ∧ digits.all isHexDigit ∧ value.isValidChar then
        .ok (Char.ofNat value, n + 1)
      else .error .invalidEscape
    | none =>
      match escapedChar? e with
      | some c => .ok (c, 1)
      | none => .error .invalidEscape

/-- A stretch of a quoted scalar without blanks and line ends. -/
structure QuotedRun where
  text : List Char := []
  /-- The gap that an escaped line end opens, if the stretch ends with one. -/
  gap? : Option Gap := none
  cursor : Cursor

/-- Puts a character before a stretch. -/
def QuotedRun.cons (d : Char) (r : QuotedRun) : QuotedRun := { r with text := d :: r.text }

/-- Reads the characters of a quoted scalar up to a blank, a line end or the closing quote. -/
def readQuotedRun (single : Bool) : Nat → Cursor → Except SyntaxError QuotedRun
  | 0, c => .ok { cursor := c }
  | n + 1, c =>
    match c.rest with
    | [] => .ok { cursor := c }
    | d :: cs =>
      if isBlank d || isBreak d then .ok { cursor := c }
      else if single then
        if d ≠ '\'' then return (← readQuotedRun single n (c.skip 1)).cons d
        else if cs.head? = some '\'' then return (← readQuotedRun single n (c.skip 2)).cons d
        else .ok { cursor := c }
      else if d = '"' then .ok { cursor := c }
      else if d = '\\' then
        if atBreak cs then
          .ok { gap? := some { first := some [] }, cursor := (c.skip 1).skipLine }
        else do
          let (e, taken) ← readEscape cs
          return (← readQuotedRun single n (c.skip (taken + 1))).cons e
      else return (← readQuotedRun single n (c.skip 1)).cons d

/-- Reads a quoted scalar after its opening quote; `acc` is what was read before. -/
def readQuoted (single : Bool) :
    Nat → List Char → Cursor → Except SyntaxError (List Char × Cursor)
  | 0, _, _ => .error .unexpectedEnd
  | n + 1, acc, c =>
    if c.atDocumentSign then .error .documentInScalar
    else do
      let run ← readQuotedRun single c.rest.length c
      let acc := acc ++ run.text
      let c := run.cursor
      if c.rest.head? = some (if single then '\'' else '"') then return (acc, c.skip 1)
      else if c.rest.isEmpty then .error .unexpectedEnd
      else
        let (gap, c) ← Gap.read 0 (run.gap?.getD {}) c.rest.length c
        readQuoted single n (acc ++ gap.text) c

end ModeLexer.Yaml
