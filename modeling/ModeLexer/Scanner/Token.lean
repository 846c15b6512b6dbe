import ModeLexer.Text.Span

/-!
# Tokens
-/

namespace ModeLexer

/-- A classified part of a line. -/
structure Token where
  cls : String
  line : Nat
  span : Span
  deriving DecidableEq, Repr, Inhabited

namespace Token

/-- The characters of a token in its line, if its span lies in the line and cuts no character. -/
def text? (k : Token) (line : List Char) : Option (List Char) := Text.slice? line k.span

/-- Whether a token covers nothing. -/
def isEmpty (k : Token) : Bool := k.span.isEmpty

end Token

end ModeLexer
