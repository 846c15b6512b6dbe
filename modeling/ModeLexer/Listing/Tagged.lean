import ModeLexer.Listing.Basic
import ModeLexer.Text.Quoted

/-!
# The tagged listing

One line for each token: its line, its span, its class, and its text in quotation marks.

    0:0..5 type.identifier "main:"
    1:0..8 white "        "
-/

namespace ModeLexer.TaggedListing

/-- A number in decimal digits. -/
def digits (n : Nat) : List Char := Nat.toDigits 10 n

/-- The line for a token, with its line feed. -/
def entry (k : Token) (text : List Char) : List Char :=
  digits k.line ++ ':' :: digits k.span.start ++ '.' :: '.' :: digits k.span.stop ++
    ' ' :: k.cls.toList ++ ' ' :: Text.quoted text ++ ['\n']

/-- The lines for tokens. -/
def print (ks : List (Token × List Char)) : String :=
  String.ofList (ks.flatMap fun (k, text) ↦ entry k text)

/-- The tagged listing. -/
def format : ListingFormat where
  name := "tagged"
  description := "One line per token: position, class and text"
  print _ ks := print ks

end ModeLexer.TaggedListing
