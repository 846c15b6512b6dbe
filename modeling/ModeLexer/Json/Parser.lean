import ModeLexer.Json.Basic
import ModeLexer.Unicode.CodeRanges

/-!
# Reading JSON

`Json.parse` reads one value that makes up a whole text. It is strict: no comments, no trailing
commas, no unescaped control characters in strings, no numerals with leading zeros, and an escape
for half of a surrogate pair is refused.
-/

namespace ModeLexer.Json

open Unicode

/-- What can be wrong with the text of a value. -/
inductive SyntaxError where
  | unexpectedEnd
  | unexpectedCharacter (c : Char)
  | invalidEscape
  | invalidNumber
  | trailingCharacters
  deriving DecidableEq, Repr

/-- What is wrong, in words. -/
def SyntaxError.message : SyntaxError → String
  | unexpectedEnd => "unexpected end of the text"
  | unexpectedCharacter c => "unexpected character '" ++ c.toString ++ "'"
  | invalidEscape => "invalid escape"
  | invalidNumber => "invalid number"
  | trailingCharacters => "trailing characters"

/-- Whether a character is a blank between the parts of a text. -/
def isBlank (c : Char) : Bool := c = ' ' || c = '\n' || c = '\t' || c = '\r'

/-- Passes over blanks. -/
def skipBlanks (cs : List Char) : List Char := cs.dropWhile isBlank

/-! ### Strings -/

/-- Reads four hexadecimal digits. -/
def readCodeUnit : List Char → Except SyntaxError (Nat × List Char)
  | a :: b :: c :: d :: rest =>
    if [a, b, c, d].all isHexDigit then
      .ok ([a, b, c, d].foldl (fun n x ↦ 16 * n + hexDigitValue x) 0, rest)
    else .error .invalidEscape
  | _ => .error .unexpectedEnd

/-- The character of a one-letter escape. -/
def escapedChar? : Char → Option Char
  | '"' => some '"'
  | '\\' => some '\\'
  | '/' => some '/'
  | 'b' => some '\x08'
  | 'f' => some '\x0c'
  | 'n' => some '\n'
  | 'r' => some '\r'
  | 't' => some '\t'
  | _ => none

/-- Reads the character of a `\u` escape, which may be two escapes that form a surrogate pair. -/
def readCodePoint (cs : List Char) : Except SyntaxError (Char × List Char) := do
  let (n, rest) ← readCodeUnit cs
  if 0xD800 ≤ n ∧ n ≤ 0xDBFF then
    match rest with
    | '\\' :: 'u' :: rest =>
      let (m, rest) ← readCodeUnit rest
      if 0xDC00 ≤ m ∧ m ≤ 0xDFFF then
        return (Char.ofNat (0x10000 + (n - 0xD800) * 0x400 + (m - 0xDC00)), rest)
      else .error .invalidEscape
    | _ => .error .invalidEscape
  else if 0xDC00 ≤ n ∧ n ≤ 0xDFFF then .error .invalidEscape
  else return (Char.ofNat n, rest)

/-- Reads a string after its opening quotation mark; `acc` is what was read, the last character
first. -/
def readString (acc : List Char) : Nat → List Char → Except SyntaxError (List Char × List Char)
  | 0, _ => .error .unexpectedEnd
  | _ + 1, [] => .error .unexpectedEnd
  | _ + 1, '"' :: rest => .ok (acc.reverse, rest)
  | n + 1, '\\' :: 'u' :: rest => do
    let (c, rest) ← readCodePoint rest
    readString (c :: acc) n rest
  | n + 1, '\\' :: e :: rest =>
    match escapedChar? e with
    | some c => readString (c :: acc) n rest
    | none => .error .invalidEscape
  | n + 1, c :: rest =>
    if c.toNat < 32 ∨ c = '\\' then .error (.unexpectedCharacter c)
    else readString (c :: acc) n rest

/-! ### Numbers -/

/-- Takes the digits off the front of a text. -/
def takeDigits (cs : List Char) : List Char × List Char :=
  (cs.takeWhile Char.isDigit, cs.dropWhile Char.isDigit)

/-- Reads the digits before the point: one zero, or digits that do not start with zero. -/
def readInteger (cs : List Char) : Except SyntaxError (List Char × List Char) :=
  match takeDigits cs with
  | ([], _) => .error .invalidNumber
  | (['0'], rest) => .ok (['0'], rest)
  | ('0' :: _, _) => .error .invalidNumber
  | (digits, rest) => .ok (digits, rest)

/-- Reads the point and the digits after it, if there is a point. -/
def readFraction : List Char → Except SyntaxError (List Char × List Char)
  | '.' :: cs =>
    match takeDigits cs with
    | ([], _) => .error .invalidNumber
    | (digits, rest) => .ok ('.' :: digits, rest)
  | cs => .ok ([], cs)

/-- Reads an exponent, if there is one. -/
def readExponent : List Char → Except SyntaxError (List Char × List Char)
  | c :: cs =>
    if c = 'e' ∨ c = 'E' then
      let (sign, digitsOn) := match cs with
        | '+' :: r => (['+'], r)
        | '-' :: r => (['-'], r)
        | r => ([], r)
      match takeDigits digitsOn with
      | ([], _) => .error .invalidNumber
      | (digits, rest) => .ok (c :: sign ++ digits, rest)
    else .ok ([], c :: cs)
  | [] => .ok ([], [])

/-- Reads a number. -/
def readNumber (cs : List Char) : Except SyntaxError (Json × List Char) := do
  let (sign, rest) := match cs with
    | '-' :: r => (['-'], r)
    | r => ([], r)
  let (integer, rest) ← readInteger rest
  let (fraction, rest) ← readFraction rest
  let (exponent, rest) ← readExponent rest
  return (.number (String.ofList (sign ++ integer ++ fraction ++ exponent)), rest)

/-! ### Values -/

/-- Passes over blanks and one given character. -/
def expect (c : Char) (cs : List Char) : Except SyntaxError (List Char) :=
  match skipBlanks cs with
  | [] => .error .unexpectedEnd
  | d :: rest => if d = c then .ok rest else .error (.unexpectedCharacter d)

mutual

/-- Reads a value. Every call of one of these readers inside another gives up some fuel, and twice
as much of it as there are characters is enough. -/
def readValue : Nat → List Char → Except SyntaxError (Json × List Char)
  | 0, _ => .error .unexpectedEnd
  | n + 1, cs =>
    match skipBlanks cs with
    | [] => .error .unexpectedEnd
    | 'n' :: 'u' :: 'l' :: 'l' :: rest => .ok (.null, rest)
    | 't' :: 'r' :: 'u' :: 'e' :: rest => .ok (.bool true, rest)
    | 'f' :: 'a' :: 'l' :: 's' :: 'e' :: rest => .ok (.bool false, rest)
    | '"' :: rest => do
      let (s, rest) ← readString [] (rest.length + 1) rest
      return (.string (String.ofList s), rest)
    | '[' :: rest =>
      match skipBlanks rest with
      | ']' :: rest => .ok (.array [], rest)
      | rest => do
        let (items, rest) ← readItems n rest
        return (.array items, rest)
    | '\x7b' :: rest =>
      match skipBlanks rest with
      | '\x7d' :: rest => .ok (.object [], rest)
      | rest => do
        let (members, rest) ← readMembers n rest
        return (.object members, rest)
    | c :: rest =>
      if c = '-' ∨ c.isDigit then readNumber (c :: rest) else .error (.unexpectedCharacter c)

/-- Reads one or more items up to the closing bracket. -/
def readItems : Nat → List Char → Except SyntaxError (List Json × List Char)
  | 0, _ => .error .unexpectedEnd
  | n + 1, cs => do
    let (item, rest) ← readValue n cs
    match skipBlanks rest with
    | ',' :: rest =>
      let (items, rest) ← readItems n rest
      return (item :: items, rest)
    | ']' :: rest => return ([item], rest)
    | [] => .error .unexpectedEnd
    | c :: _ => .error (.unexpectedCharacter c)

/-- Reads one or more members up to the closing brace. -/
def readMembers : Nat → List Char → Except SyntaxError (List (String × Json) × List Char)
  | 0, _ => .error .unexpectedEnd
  | n + 1, cs => do
    let rest ← expect '"' cs
    let (key, rest) ← readString [] (rest.length + 1) rest
    let rest ← expect ':' rest
    let (value, rest) ← readValue n rest
    let member := (String.ofList key, value)
    match skipBlanks rest with
    | ',' :: rest =>
      let (members, rest) ← readMembers n rest
      return (member :: members, rest)
    | '\x7d' :: rest => return ([member], rest)
    | [] => .error .unexpectedEnd
    | c :: _ => .error (.unexpectedCharacter c)

end

/-- Reads a value that makes up a whole text. -/
def parseChars (cs : List Char) : Except SyntaxError Json := do
  let (value, rest) ← readValue (2 * cs.length + 1) cs
  if (skipBlanks rest).isEmpty then return value else .error .trailingCharacters

/-- Reads a value that makes up a whole text. -/
def parse (text : String) : Except SyntaxError Json := parseChars text.toList

end ModeLexer.Json
