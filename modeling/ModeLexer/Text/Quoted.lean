import ModeLexer.Unicode.Property

/-!
# Quoted text

A text between quotation marks in which everything that cannot be seen as such is escaped: quotation
marks and backslashes, control characters, blanks other than the space, fillers, unassigned
characters, and characters that attach to the one before them. A newline is `\n`, and a character
without an escape of its own is written by its code point, `\u` with hexadecimal digits in
braces.
-/

namespace ModeLexer.Text

open Unicode

/-- The characters that cannot be seen. -/
def invisible : CharSet :=
  .unions [.compl .assigned, .defaultIgnorable, .categories [.control, .format, .privateUse,
    .lineSeparator, .paragraphSeparator, .spaceSeparator]]

/-- Whether a character is written as it is. -/
def isPlain (c : Char) : Bool :=
  if c.toNat < 127 then ' ' ≤ c
  else !CharSet.graphemeExtend.contains c && !invisible.contains c

/-- An escape by code point. -/
def codePointEscape (c : Char) : List Char :=
  ['\\', 'u', '\x7b'] ++ Nat.toDigits 16 c.toNat ++ ['\x7d']

/-- A character within quotation marks. -/
def quotedChar (c : Char) : List Char :=
  if c = '"' then ['\\', '"']
  else if c = '\\' then ['\\', '\\']
  else if c = '\n' then ['\\', 'n']
  else if c = '\r' then ['\\', 'r']
  else if c = '\t' then ['\\', 't']
  else if c = '\x00' then ['\\', '0']
  else if isPlain c then [c]
  else codePointEscape c

/-- A text with its quotation marks. -/
def quoted (cs : List Char) : List Char := '"' :: cs.flatMap quotedChar ++ ['"']

end ModeLexer.Text
