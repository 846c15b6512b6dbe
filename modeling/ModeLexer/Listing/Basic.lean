import ModeLexer.Document.Tokenizer
import ModeLexer.KeyMap

/-!
# Listings of tokens

A listing prints the tokens of a document together with their texts. `ListingFormat` is one way of
printing, and `ListingRegistry` holds formats by name.

Tokens may be printed against another document than their own. A token that does not fit it, because
the line is missing or the span is out of range or cuts a character, makes the listing fail, and the
first such token is reported.
-/

namespace ModeLexer

/-- What can go wrong with a listing. -/
inductive ListingError where
  | formatNotFound (name : String)
  | tokenOutOfRange (line : Nat) (span : Span)
  deriving DecidableEq, Repr

/-- What went wrong, in words. -/
def ListingError.message : ListingError → String
  | formatNotFound name => "Format '" ++ name ++ "' not found"
  | tokenOutOfRange line span =>
    "Token " ++ toString line ++ ":" ++ toString span.start ++ ".." ++ toString span.stop ++
      " is outside the document"

/-- The text of a token in a document. -/
def Document.textOf (d : Document) (k : Token) : Except ListingError (List Char) :=
  match (d.line? k.line).bind fun line ↦ k.text? line.toList with
  | some text => .ok text
  | none => .error (.tokenOutOfRange k.line k.span)

/-- Pairs tokens with their texts in a document, up to the first that does not fit. -/
def Document.withTexts (d : Document) :
    List Token → Except ListingError (List (Token × List Char))
  | [] => .ok []
  | k :: ks => do
    let text ← d.textOf k
    let rest ← d.withTexts ks
    return (k, text) :: rest

/-- A way of printing tokens. -/
structure ListingFormat where
  name : String
  description : String
  /-- Prints tokens with their texts, given the name of their language. -/
  print : String → List (Token × List Char) → String

/-- Prints the tokens of a document. -/
def ListingFormat.write (f : ListingFormat) (d : Document) (r : TokenizedDocument)
    (language : String) : Except ListingError String := do
  return f.print language (← d.withTexts r.tokens)

/-- Formats by name. -/
structure ListingRegistry where
  formats : KeyMap ListingFormat

namespace ListingRegistry

/-- The registry without formats. -/
def empty : ListingRegistry := ⟨.empty⟩

/-- Adds a format under its name, or replaces the one there. -/
def register (r : ListingRegistry) (f : ListingFormat) : ListingRegistry :=
  ⟨r.formats.insert f.name f⟩

def get? (r : ListingRegistry) (name : String) : Option ListingFormat := r.formats.get? name

def contains (r : ListingRegistry) (name : String) : Bool := r.formats.contains name

/-- The names of the formats, in increasing order. -/
def names (r : ListingRegistry) : List String := r.formats.keys

/-- Prints the tokens of a document in the format with a name. -/
def write (r : ListingRegistry) (format : String) (d : Document) (t : TokenizedDocument)
    (language : String) : Except ListingError String :=
  match r.get? format with
  | none => .error (.formatNotFound format)
  | some f => f.write d t language

end ListingRegistry

end ModeLexer
