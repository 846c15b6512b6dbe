/-!
# File extensions

The extension of a path is what follows the last dot of its last component. Slashes and single dots
at the end do not count as components; a component that is two dots, or whose only dot is at its
start, has no extension.
-/

namespace ModeLexer.Text

/-- The parts of a text between slashes; `current` are the characters read of a part, the last one
first. -/
def splitSlashes (current : List Char) : List Char → List (List Char)
  | [] => [current.reverse]
  | '/' :: cs => current.reverse :: splitSlashes [] cs
  | c :: cs => splitSlashes (c :: current) cs

/-- The name of the file or directory that a path leads to. -/
def fileName? (path : List Char) : Option (List Char) :=
  match ((splitSlashes [] path).filter fun part ↦ !part.isEmpty && part ≠ ['.']).getLast? with
  | some ['.', '.'] => none
  | name => name

/-- Splits a name at its last dot. -/
def splitLastDot? (name : List Char) : Option (List Char × List Char) :=
  match name.reverse.dropWhile (· ≠ '.') with
  | [] => none
  | _ :: before => some (before.reverse, (name.reverse.takeWhile (· ≠ '.')).reverse)

/-- The extension of the file that a path leads to. -/
def fileExtension? (path : List Char) : Option (List Char) :=
  match (fileName? path).bind splitLastDot? with
  | some ([], _) | none => none
  | some (_, extension) => some extension

end ModeLexer.Text
