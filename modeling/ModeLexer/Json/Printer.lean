import ModeLexer.Json.Basic

/-!
# Writing JSON

Two layouts: compact, without any blanks, and indented, with one item or member on each line and two
spaces for each level. In strings, quotation marks, backslashes and control characters are escaped
and everything else is written as it is.
-/

namespace ModeLexer.Json

/-- The hexadecimal digit of a number below 16, in lower case. -/
def hexDigit (n : Nat) : Char := Nat.digitChar n

/-- A character of a string, escaped where it has to be. -/
def escapeChar (c : Char) : List Char :=
  if c = '"' then ['\\', '"']
  else if c = '\\' then ['\\', '\\']
  else if c = '\x08' then ['\\', 'b']
  else if c = '\x0c' then ['\\', 'f']
  else if c = '\n' then ['\\', 'n']
  else if c = '\r' then ['\\', 'r']
  else if c = '\t' then ['\\', 't']
  else if c.toNat < 32 then
    ['\\', 'u', '0', '0', hexDigit (c.toNat / 16), hexDigit (c.toNat % 16)]
  else [c]

/-- A string with its quotation marks. -/
def quote (s : List Char) : List Char := '"' :: s.flatMap escapeChar ++ ['"']

/-- Joins texts with a separator between them. -/
def joinWith (separator : List Char) : List (List Char) → List Char
  | [] => []
  | [t] => t
  | t :: ts => t ++ separator ++ joinWith separator ts

/-! ### The compact layout -/

mutual

/-- A value without blanks. -/
def compactChars : Json → List Char
  | .null => ['n', 'u', 'l', 'l']
  | .bool true => ['t', 'r', 'u', 'e']
  | .bool false => ['f', 'a', 'l', 's', 'e']
  | .number numeral => numeral.toList
  | .string s => quote s.toList
  | .array items => '[' :: joinWith [','] (compactItems items) ++ [']']
  | .object members => '\x7b' :: joinWith [','] (compactMembers members) ++ ['\x7d']

/-- The items of an array without blanks. -/
def compactItems : List Json → List (List Char)
  | [] => []
  | j :: js => compactChars j :: compactItems js

/-- The members of an object without blanks. -/
def compactMembers : List (String × Json) → List (List Char)
  | [] => []
  | (key, j) :: ms => (quote key.toList ++ ':' :: compactChars j) :: compactMembers ms

end

/-- A value without blanks. -/
def compact (j : Json) : String := String.ofList j.compactChars

/-! ### The indented layout -/

/-- The start of a line at a level. -/
def indent (level : Nat) : List Char := '\n' :: List.replicate (2 * level) ' '

/-- Items between brackets, one on each line. -/
def block (opening closing : Char) (level : Nat) : List (List Char) → List Char
  | [] => [opening, closing]
  | items =>
    opening :: (indent (level + 1) ++ joinWith (',' :: indent (level + 1)) items) ++
      indent level ++ [closing]

mutual

/-- A value whose inner lines are indented from a level on. -/
def prettyChars (level : Nat) : Json → List Char
  | .array items => block '[' ']' level (prettyItems (level + 1) items)
  | .object members => block '\x7b' '\x7d' level (prettyMembers (level + 1) members)
  | .null => ['n', 'u', 'l', 'l']
  | .bool true => ['t', 'r', 'u', 'e']
  | .bool false => ['f', 'a', 'l', 's', 'e']
  | .number numeral => numeral.toList
  | .string s => quote s.toList

/-- The items of an array, indented. -/
def prettyItems (level : Nat) : List Json → List (List Char)
  | [] => []
  | j :: js => prettyChars level j :: prettyItems level js

/-- The members of an object, indented. -/
def prettyMembers (level : Nat) : List (String × Json) → List (List Char)
  | [] => []
  | (key, j) :: ms =>
    (quote key.toList ++ ':' :: ' ' :: prettyChars level j) :: prettyMembers level ms

end

/-- A value with indented lines. -/
def pretty (j : Json) : String := String.ofList (j.prettyChars 0)

end ModeLexer.Json
