import ModeLexer.Regex.Term
import ModeLexer.Unicode.PropertyName

/-!
# Reading regular expressions

`Term.parse` reads an expression from its characters. A reader of a part takes the characters that
are left and gives the part and what is left after it. In verbose mode, which `(?x)` switches on,
blanks and comments between the parts of an expression do not count; `skip` passes over them.

The reader of a whole expression runs on fuel. Every step takes at least one character, so the
number of characters, plus one step to see the end, is enough.
-/

namespace ModeLexer.Regex

open Unicode

/-- What can be wrong with the text of a regular expression. -/
inductive Error where
  /-- A group or a class is not closed, or the text ends within an escape or a count. -/
  | unexpectedEnd
  /-- A closing parenthesis without its opening one. -/
  | unopenedGroup
  /-- A repetition of nothing. -/
  | nothingToRepeat
  /-- A repetition count that is no number, too large, or a lower bound above the upper one. -/
  | invalidCount
  | invalidEscape
  /-- A look-ahead or look-behind group. -/
  | lookAround
  | invalidGroupName
  | invalidFlags
  | invalidClassRange
  | unknownProperty
  /-- A part that could match in the middle of a character. -/
  | notText
  /-- Groups, classes and other parts that are nested too deep. -/
  | tooDeep
  /-- A program that takes up too much memory. -/
  | tooLarge
  deriving DecidableEq, Repr

/-- What is wrong, in words. -/
def Error.message : Error → String
  | unexpectedEnd => "unexpected end of the expression"
  | unopenedGroup => "unopened group"
  | nothingToRepeat => "repetition operator missing expression"
  | invalidCount => "invalid repetition count"
  | invalidEscape => "invalid escape sequence"
  | lookAround => "look-around is not supported"
  | invalidGroupName => "invalid capture group name"
  | invalidFlags => "invalid flags"
  | invalidClassRange => "invalid character class range"
  | unknownProperty => "unknown character property"
  | notText => "pattern can match invalid text"
  | tooDeep => "the expression is nested too deep"
  | tooLarge => "the compiled expression is too large"

/-! ### Blanks and runs of characters -/

/-- Passes over blanks and comments; a comment runs from `#` to the end of its line. -/
def skipBlanks (inComment : Bool) : List Char → List Char
  | [] => []
  | c :: cs =>
    if inComment then skipBlanks (c ≠ '\n') cs
    else if isSpace c then skipBlanks false cs
    else if c = '#' then skipBlanks true cs
    else c :: cs

/-- Passes over blanks and comments if they do not count. -/
def skip (verbose : Bool) (cs : List Char) : List Char :=
  if verbose then skipBlanks false cs else cs

/-- The longest run of characters that satisfy `p`, with what `skip` passes over after each of them
left out; it is at most `n` characters long. -/
def takeRun (verbose : Bool) (p : Char → Bool) : Nat → List Char → List Char × List Char
  | _, [] => ([], [])
  | 0, cs => ([], cs)
  | n + 1, c :: cs =>
    if p c then
      let (run, rest) := takeRun verbose p n (skip verbose cs)
      (c :: run, rest)
    else ([], c :: cs)

/-- The longest run of characters that satisfy `p`. -/
def readRun (verbose : Bool) (p : Char → Bool) (cs : List Char) : List Char × List Char :=
  takeRun verbose p cs.length cs

/-! ### Escapes -/

/-- Characters with a meaning of their own. -/
def isMeta (c : Char) : Bool :=
  ['\\', '.', '+', '*', '?', '(', ')', '|', '[', ']', '\x7b', '\x7d', '^', '$', '#', '&', '-',
    '~'].contains c

/-- Characters that stand for themselves after a backslash: those with a meaning, and all others of
ASCII but letters, digits and angle brackets. -/
def isEscapable (c : Char) : Bool :=
  isMeta c || (c.toNat < 128 && !c.isAlphanum && c ≠ '<' && c ≠ '>')

/-- The number that hexadecimal digits stand for. -/
def hexValue (digits : List Char) : Nat :=
  digits.foldl (fun n d ↦ 16 * n + hexDigitValue d) 0

/-- The character with a code point, if there is one. -/
def charOfCode? (n : Nat) : Option Char :=
  if n.isValidChar then some (Char.ofNat n) else none

/-- Reads a fixed number of hexadecimal digits. -/
def readHexDigits (verbose : Bool) : Nat → List Char → Except Error (List Char × List Char)
  | 0, cs => .ok ([], cs)
  | _ + 1, [] => .error .unexpectedEnd
  | n + 1, c :: cs =>
    if isHexDigit c then do
      let (ds, rest) ← readHexDigits verbose n (skip verbose cs)
      return (c :: ds, rest)
    else .error .invalidEscape

/-- Reads a character given by its code point: `n` digits, which make the atom `fixed`, or any
number of them in braces. -/
def readHex (verbose : Bool) (n : Nat) (fixed : Char → Atom) (cs : List Char) :
    Except Error (Atom × List Char) := do
  let (atom, digits, rest) ← match skip verbose cs with
    | [] => .error .unexpectedEnd
    | '\x7b' :: cs =>
      match readRun verbose (· ≠ '\x7d') (skip verbose cs) with
      | (_, []) => .error .unexpectedEnd
      | (digits, _ :: rest) =>
        if digits.all isHexDigit && !digits.isEmpty then
          .ok (Atom.literal, digits, skip verbose rest)
        else .error .invalidEscape
    | cs => (readHexDigits verbose n cs).map (fixed, ·)
  match charOfCode? (hexValue digits) with
  | some c => return (atom c, rest)
  | none => .error .invalidEscape

/-- Splits a text at the first place where `separator` stands in it. -/
def splitAtFirst? (separator : List Char) : List Char → Option (List Char × List Char)
  | [] => none
  | c :: cs =>
    if separator.isPrefixOf (c :: cs) then some ([], (c :: cs).drop separator.length)
    else (splitAtFirst? separator cs).map fun (a, b) ↦ (c :: a, b)

/-- The set that the text between the braces of a property names, and whether it is its complement
that is meant. -/
def propertyNamed? (name : List Char) : Option (CharSet × Bool) :=
  match splitAtFirst? ['!', '='] name with
  | some (p, v) => (CharSet.valued? p v).map (·, true)
  | none =>
    match splitAtFirst? [':'] name <|> splitAtFirst? ['='] name with
    | some (p, v) => (CharSet.valued? p v).map (·, false)
    | none => (CharSet.named? name).map (·, false)

/-- Reads the name of a property after its `p`. -/
def readProperty (verbose negated : Bool) (cs : List Char) :
    Except Error (Atom × List Char) := do
  let (name, rest) ← match skip verbose cs with
    | [] => .error .unexpectedEnd
    | '\x7b' :: cs =>
      match readRun verbose (· ≠ '\x7d') (skip verbose cs) with
      | (_, []) => .error .unexpectedEnd
      | (name, _ :: rest) => .ok (name, rest)
    | '\\' :: _ => .error .invalidEscape
    | c :: cs => .ok ([c], skip verbose cs)
  match propertyNamed? name with
  | some (s, complemented) => return (.property s (negated != complemented), rest)
  | none => .error .unknownProperty

/-- The assertions `\b\x7bstart\x7d` and the like, by name. -/
def boundaryNamed? (name : List Char) : Option Anchor :=
  if name = "start".toList then some .wordStart
  else if name = "end".toList then some .wordEnd
  else if name = "start-half".toList then some .wordStartHalf
  else if name = "end-half".toList then some .wordEndHalf
  else none

/-- Letters and the hyphen, of which the names of boundaries are made. -/
def isBoundaryNameChar (c : Char) : Bool := c.isAlpha || c = '-'

/-- Reads what can follow `\b`: the name of a boundary in braces. Braces that start otherwise are
left alone, since they count a repetition. -/
def readBoundary (verbose : Bool) (cs : List Char) : Except Error (Anchor × List Char) :=
  match cs with
  | '\x7b' :: r =>
    match skip verbose r with
    | [] => .error .unexpectedEnd
    | c :: r' =>
      if isBoundaryNameChar c then
        match readRun verbose isBoundaryNameChar (c :: r') with
        | (name, '\x7d' :: rest) =>
          match boundaryNamed? name with
          | some a => .ok (a, rest)
          | none => .error .invalidEscape
        | _ => .error .unexpectedEnd
      else .ok (.wordBoundary, cs)
  | _ => .ok (.wordBoundary, cs)

/-- Reads an escape after its backslash. -/
def readEscape (verbose : Bool) : List Char → Except Error (Atom × List Char)
  | [] => .error .unexpectedEnd
  | 'x' :: cs => readHex verbose 2 .byte cs
  | 'u' :: cs => readHex verbose 4 .literal cs
  | 'U' :: cs => readHex verbose 8 .literal cs
  | 'p' :: cs => readProperty verbose false cs
  | 'P' :: cs => readProperty verbose true cs
  | 'd' :: cs => .ok (.charClass .digit false, cs)
  | 'D' :: cs => .ok (.charClass .digit true, cs)
  | 's' :: cs => .ok (.charClass .space false, cs)
  | 'S' :: cs => .ok (.charClass .space true, cs)
  | 'w' :: cs => .ok (.charClass .word false, cs)
  | 'W' :: cs => .ok (.charClass .word true, cs)
  | 'a' :: cs => .ok (.literal '\x07', cs)
  | 'f' :: cs => .ok (.literal '\x0c', cs)
  | 't' :: cs => .ok (.literal '\t', cs)
  | 'n' :: cs => .ok (.literal '\n', cs)
  | 'r' :: cs => .ok (.literal '\r', cs)
  | 'v' :: cs => .ok (.literal '\x0b', cs)
  | 'A' :: cs => .ok (.anchor .textStart, cs)
  | 'z' :: cs => .ok (.anchor .textEnd, cs)
  | 'B' :: cs => .ok (.anchor .notWordBoundary, cs)
  | '<' :: cs => .ok (.anchor .wordStart, cs)
  | '>' :: cs => .ok (.anchor .wordEnd, cs)
  | 'b' :: cs => (readBoundary verbose cs).map fun (a, rest) ↦ (.anchor a, rest)
  | c :: cs => if isEscapable c then .ok (.literal c, cs) else .error .invalidEscape

/-! ### Bracketed classes -/

/-- The ASCII class with a given name. -/
def posixNamed? (name : List Char) : Option PosixClass :=
  [("alnum", PosixClass.alnum), ("alpha", .alpha), ("ascii", .ascii), ("blank", .blank),
    ("cntrl", .cntrl), ("digit", .digit), ("graph", .graph), ("lower", .lower), ("print", .print),
    ("punct", .punct), ("space", .space), ("upper", .upper), ("word", .word),
    ("xdigit", .xdigit)].findSome? fun (n, k) ↦ if n.toList = name then some k else none

/-- Reads a named ASCII class after its opening bracket. What is none is read as a nested class. -/
def readPosix? : List Char → Option (Bracket × List Char)
  | ':' :: cs =>
    let (negated, cs) := match cs with
      | '^' :: r => (true, r)
      | _ => (false, cs)
    match splitAtFirst? [':'] cs with
    | some (name, ']' :: rest) => (posixNamed? name).map fun k ↦ (.posix k negated, rest)
    | _ => none
  | _ => none

/-- Reads hyphens at the start of a class, which stand for themselves. -/
def readHyphens (verbose : Bool) (b : Bracket) : Nat → List Char → Bracket × List Char
  | n + 1, '-' :: cs => readHyphens verbose (.union b (.literal '-')) n (skip verbose cs)
  | _, cs => (b, cs)

/-- Reads the start of a class after its opening bracket: whether it is negated, and the hyphens or
the closing bracket that stand for themselves there. -/
def readBracketStart (verbose : Bool) (cs : List Char) : Bool × Bracket × List Char :=
  let (negated, cs) := match skip verbose cs with
    | '^' :: r => (true, skip verbose r)
    | r => (false, r)
  match readHyphens verbose .empty cs.length cs with
  | (.empty, ']' :: rest) => (negated, .literal ']', skip verbose rest)
  | (b, rest) => (negated, b, rest)

/-- Reads one end of a range, or a single member of a class. -/
def readClassItem (verbose : Bool) : List Char → Except Error (Atom × List Char)
  | [] => .error .unexpectedEnd
  | '\\' :: cs => readEscape verbose cs
  | c :: cs => .ok (.literal c, cs)

/-- An atom as a member of a class. -/
def Atom.toBracket : Atom → Except Error Bracket
  | .literal c | .byte c => .ok (.literal c)
  | .charClass k negated => .ok (.charClass k negated)
  | .property s negated => .ok (.property s negated)
  | .dot | .anchor _ => .error .invalidEscape

/-- The character that comes after a hyphen, which decides whether the hyphen makes a range. -/
def peekAfterHyphen (verbose : Bool) (cs : List Char) : Option Char :=
  if verbose then
    match cs.dropWhile isSpace with
    | '#' :: r => (r.dropWhile isSpace).head?
    | r => r.head?
  else cs.head?

/-- Reads a member of a class or a range of members. A hyphen before a closing bracket or before
another hyphen makes no range. -/
def readClassRange (verbose : Bool) (cs : List Char) :
    Except Error (Bracket × List Char) := do
  let (first, rest) ← readClassItem verbose cs
  match skip verbose rest with
  | [] => .error .unexpectedEnd
  | '-' :: r =>
    let next := peekAfterHyphen verbose r
    if next = some ']' ∨ next = some '-' then
      return (← first.toBracket, '-' :: r)
    else
      let (last, rest) ← readClassItem verbose (skip verbose r)
      match first.char?, last.char? with
      | some lo, some hi =>
        if lo ≤ hi then return (.range lo hi, rest) else .error .invalidClassRange
      | _, _ => .error .invalidClassRange
  | r => return (← first.toBracket, r)

/-- An operation that waits for its right-hand side. -/
abbrev PendingOperation := Option (SetOperation × Bracket)

/-- Closes a waiting operation. The operations associate to the left and all bind alike. -/
def PendingOperation.close (pending : PendingOperation) (b : Bracket) : Bracket :=
  match pending with
  | none => b
  | some (o, a) => .operation o a b

/-- Adds a member to the members read so far. -/
def Bracket.add : Bracket → Bracket → Bracket
  | .empty, b => b
  | a, b => .union a b

/-- Reads the members of a class up to its closing bracket. -/
def readMembers (verbose : Bool) :
    Nat → PendingOperation → Bracket → List Char → Except Error (Bracket × List Char)
  | 0, _, _, _ => .error .unexpectedEnd
  | n + 1, pending, acc, cs =>
    match skip verbose cs with
    | [] => .error .unexpectedEnd
    | ']' :: rest => .ok (pending.close acc, rest)
    | '[' :: r =>
      match readPosix? r with
      | some (b, rest) => readMembers verbose n pending (acc.add b) rest
      | none => do
        let (negated, start, rest) := readBracketStart verbose r
        let (inner, rest) ← readMembers verbose n none start rest
        readMembers verbose n pending (acc.add (.nested negated inner)) rest
    | '&' :: '&' :: r => readMembers verbose n (some (.intersection, pending.close acc)) .empty r
    | '-' :: '-' :: r => readMembers verbose n (some (.difference, pending.close acc)) .empty r
    | '~' :: '~' :: r =>
      readMembers verbose n (some (.symmetricDifference, pending.close acc)) .empty r
    | r => do
      let (b, rest) ← readClassRange verbose r
      readMembers verbose n pending (acc.add b) rest

/-- Reads a class after its opening bracket. -/
def readBracket (verbose : Bool) (cs : List Char) : Except Error (Bracket × List Char) := do
  let (negated, start, rest) := readBracketStart verbose cs
  let (inner, rest) ← readMembers verbose (cs.length + 1) none start rest
  return (.nested negated inner, rest)

/-! ### Repetitions -/

/-- The largest count of a repetition. -/
def maxCount : Nat := 0xffffffff

/-- Reads a number within the braces of a repetition; blanks around it do not count. -/
def readCount (verbose : Bool) (cs : List Char) : Except Error (Nat × List Char) :=
  let (digits, rest) := readRun verbose (fun c ↦ '0' ≤ c && c ≤ '9') (cs.dropWhile isSpace)
  let (_, rest) := readRun verbose isSpace rest
  let n := digits.foldl (fun n d ↦ 10 * n + hexDigitValue d) 0
  if digits.isEmpty || maxCount < n then .error .invalidCount else .ok (n, rest)

/-- Reads the bounds of a counted repetition after its opening brace, up to its closing one. -/
def readBounds (verbose : Bool) (cs : List Char) :
    Except Error ((Nat × Option Nat) × List Char) := do
  let (min, rest) ← readCount verbose (skip verbose cs)
  let (max, rest) ← match rest with
    | ',' :: r =>
      match skip verbose r with
      | '\x7d' :: r' => pure (none, '\x7d' :: r')
      | r' => (readCount verbose r').map fun (m, rest) ↦ (some m, rest)
    | r => pure (some min, r)
  match rest with
  | '\x7d' :: r =>
    if max.all (min ≤ ·) then return ((min, max), r) else .error .invalidCount
  | _ => .error .unexpectedEnd

/-- Reads the question mark that makes a repetition lazy. -/
def readGreedy : List Char → Bool × List Char
  | '?' :: cs => (false, cs)
  | cs => (true, cs)

/-! ### Groups -/

/-- The flag with a given letter. -/
def Flag.ofChar? : Char → Option Flag
  | 'i' => some .ignoreCase
  | 'm' => some .multiLine
  | 's' => some .dotAll
  | 'U' => some .swapGreed
  | 'u' => some .unicode
  | 'R' => some .crlf
  | 'x' => some .verbose
  | _ => none

/-- Reads flags up to a colon or a closing parenthesis. No flag may stand twice and no hyphen may
stand twice or last. -/
def readFlags (cleared : Bool) (fc : FlagChange) :
    List Char → Except Error (FlagChange × List Char)
  | [] => .error .unexpectedEnd
  | '-' :: cs =>
    match cs with
    | ':' :: _ | ')' :: _ => .error .invalidFlags
    | _ => if cleared then .error .invalidFlags else readFlags true fc cs
  | c :: cs =>
    if c = ':' ∨ c = ')' then .ok (fc, c :: cs)
    else match Flag.ofChar? c with
      | none => .error .invalidFlags
      | some f =>
        if (fc.value? f).isSome then .error .invalidFlags
        else readFlags cleared (fc ++ [(f, !cleared)]) cs

/-- Whether a character can stand in the name of a group. -/
def isGroupNameChar (first : Bool) (c : Char) : Bool :=
  c = '_' || isAlphabetic c ||
    (!first && (isNumeric c || c = '.' || c = '[' || c = ']'))

/-- Reads the name of a group up to its closing angle bracket. -/
def readGroupName (cs : List Char) : Except Error (List Char × List Char) :=
  match splitAtFirst? ['>'] cs with
  | none => .error .invalidGroupName
  | some ([], _) => .error .invalidGroupName
  | some (c :: name, rest) =>
    if isGroupNameChar true c && name.all (isGroupNameChar false) then .ok (c :: name, rest)
    else .error .invalidGroupName

/-- The head of a group, from after its opening parenthesis. -/
inductive GroupHead where
  | setFlags (fc : FlagChange)
  | plain (fc : FlagChange)
  | numbered
  | named (name : List Char)
  deriving Repr

/-- Reads the head of a group. -/
def readGroupHead (verbose : Bool) (cs : List Char) : Except Error (GroupHead × List Char) :=
  match skip verbose cs with
  | '?' :: '=' :: _ | '?' :: '!' :: _ | '?' :: '<' :: '=' :: _ | '?' :: '<' :: '!' :: _ =>
    .error .lookAround
  | '?' :: 'P' :: '<' :: r | '?' :: '<' :: r =>
    (readGroupName r).map fun (name, rest) ↦ (.named name, rest)
  | '?' :: r => do
    match ← readFlags false [] r with
    | (fc, ':' :: rest) => return (.plain fc, rest)
    | (fc, _ :: rest) =>
      if fc.isEmpty then .error .nothingToRepeat else return (.setFlags fc, rest)
    | (_, []) => .error .unexpectedEnd
  | r => .ok (.numbered, r)

/-! ### Whole expressions -/

/-- What is left to read, and what the groups read so far were. -/
structure ParserState where
  rest : List Char
  verbose : Bool
  /-- The number of capturing groups opened so far. -/
  captures : Nat
  /-- The names given to groups so far. -/
  names : List (List Char)

/-- Puts a repetition around the last item. Nothing and a change of flags cannot be repeated. -/
def repeatLast (min : Nat) (max : Option Nat) (greedy : Bool) :
    List Term → Except Error (List Term)
  | [] => .error .nothingToRepeat
  | .setFlags _ :: _ => .error .nothingToRepeat
  | t :: ts => .ok (.repetition min max greedy t :: ts)

/-- Reads branches up to a closing parenthesis or the end. `items` are the items of the branch being
read and `branches` the branches before it, both with the last one first. -/
def readBranches : Nat → List Term → List Term → ParserState →
    Except Error (Term × ParserState)
  | 0, _, _, _ => .error .unexpectedEnd
  | n + 1, items, branches, s =>
    let finish (rest : List Char) : Except Error (Term × ParserState) :=
      .ok (.alternates (.concats items.reverse :: branches).reverse, { s with rest })
    let simpleRepetition (min : Nat) (max : Option Nat) (rest : List Char) := do
      let (greedy, rest) := readGreedy rest
      let items ← repeatLast min max greedy items
      readBranches n items branches { s with rest }
    match skip s.verbose s.rest with
    | [] => finish []
    | ')' :: r => finish (')' :: r)
    | '|' :: r =>
      readBranches n [] (.concats items.reverse :: branches) { s with rest := r }
    | '?' :: r => simpleRepetition 0 (some 1) r
    | '*' :: r => simpleRepetition 0 none r
    | '+' :: r => simpleRepetition 1 none r
    | '\x7b' :: r => do
      let ((min, max), rest) ← readBounds s.verbose r
      let (greedy, rest) := readGreedy (skip s.verbose rest)
      let items ← repeatLast min max greedy items
      readBranches n items branches { s with rest }
    | '[' :: r => do
      let (b, rest) ← readBracket s.verbose r
      readBranches n (.bracket b :: items) branches { s with rest }
    | '(' :: r => do
      let (head, rest) ← readGroupHead s.verbose r
      let groupOf (fc : FlagChange) (inner : ParserState) (wrap : Term → Term) :
          Except Error (Term × ParserState) := do
        let verbose := (fc.value? .verbose).getD s.verbose
        let (t, after) ← readBranches n [] [] { inner with rest, verbose }
        match after.rest with
        | ')' :: rest =>
          readBranches n (wrap t :: items) branches { after with rest, verbose := s.verbose }
        | _ => .error .unexpectedEnd
      match head with
      | .setFlags fc =>
        let verbose := (fc.value? .verbose).getD s.verbose
        readBranches n (.setFlags fc :: items) branches { s with rest, verbose }
      | .plain fc => groupOf fc s (.group fc)
      | .numbered =>
        groupOf [] { s with captures := s.captures + 1 } (.capture (s.captures + 1))
      | .named name =>
        if s.names.contains name then
          .error .invalidGroupName
        else
          groupOf [] { s with captures := s.captures + 1, names := name :: s.names }
            (.capture (s.captures + 1))
    | '\\' :: r => do
      let (a, rest) ← readEscape s.verbose r
      readBranches n (.atom a :: items) branches { s with rest }
    | '.' :: r => readBranches n (.atom .dot :: items) branches { s with rest := r }
    | '^' :: r => readBranches n (.atom (.anchor .lineStart) :: items) branches { s with rest := r }
    | '$' :: r => readBranches n (.atom (.anchor .lineEnd) :: items) branches { s with rest := r }
    | c :: r => readBranches n (.atom (.literal c) :: items) branches { s with rest := r }

/-- Reads a regular expression. -/
def Term.parse (cs : List Char) : Except Error Term := do
  let (t, s) ← readBranches (cs.length + 1) [] [] ⟨cs, false, 0, []⟩
  if s.rest.isEmpty then return t else .error .unopenedGroup

end ModeLexer.Regex
