/-!
# Documents

A document is a list of lines. `Document.ofText` takes a text apart: a line feed ends a line, and a
carriage return right before it belongs to the line's end. What follows the last line feed is a line
of its own if it is not empty; a carriage return at its end stays.
-/

namespace ModeLexer

/-- A text as lines, without what ends them. -/
structure Document where
  lines : List String
  deriving DecidableEq, Repr, Inhabited

namespace Document

/-- The line of which `current` are the characters, the last one first, without a carriage return
at its end. -/
def closeLine : List Char → List Char
  | '\r' :: current => current.reverse
  | current => current.reverse

/-- The lines of a text; `current` are the characters read of the current line, the last one
first. -/
def splitFrom (current : List Char) : List Char → List (List Char)
  | [] => if current.isEmpty then [] else [current.reverse]
  | c :: cs =>
    if c = '\n' then closeLine current :: splitFrom [] cs else splitFrom (c :: current) cs

/-- The lines of a text. -/
def splitLines (cs : List Char) : List (List Char) := splitFrom [] cs

/-- Takes a text apart into lines. -/
def ofText (text : String) : Document := ⟨(splitLines text.toList).map String.ofList⟩

/-- The line with a number. -/
def line? (d : Document) (index : Nat) : Option String := d.lines[index]?

/-- The number of lines. -/
def size (d : Document) : Nat := d.lines.length

/-- Whether there is no line. -/
def isEmpty (d : Document) : Bool := d.lines.isEmpty

end Document

end ModeLexer
