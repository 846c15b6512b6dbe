import ModeLexer.Unicode.CharClass

/-!
# Blanks around and between words
-/

namespace ModeLexer.Text

open Unicode

/-- The characters without the blanks at both ends. -/
def trim (cs : List Char) : List Char :=
  ((cs.dropWhile isSpace).reverse.dropWhile isSpace).reverse

/-- Adds a character in front of the first word, or starts a new one. -/
def consWord (c : Char) : List (List Char) → List (List Char)
  | [] => [[c]]
  | w :: ws => (c :: w) :: ws

/-- The maximal runs of characters that are no blanks. -/
def words : List Char → List (List Char)
  | [] => []
  | c :: cs =>
    if isSpace c then words cs
    else match cs with
      | [] => [[c]]
      | d :: _ => if isSpace d then [c] :: words cs else consWord c (words cs)

end ModeLexer.Text
