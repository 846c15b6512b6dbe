import ModeLexer.Json.Printer
import ModeLexer.Listing.Basic

/-!
# The JSON listing

An object with the name of the language and the tokens, each of them an object with its class, line,
start, end and text. The layout is indented.
-/

namespace ModeLexer.JsonListing

/-- A token and its text as a value. -/
def entry (k : Token) (text : List Char) : Json :=
  .object [("class", .string k.cls), ("line", .nat k.line), ("start", .nat k.span.start),
    ("end", .nat k.span.stop), ("text", .string (String.ofList text))]

/-- The tokens of a language as a value. -/
def value (language : String) (ks : List (Token × List Char)) : Json :=
  .object [("language", .string language), ("tokens", .array (ks.map fun (k, text) ↦ entry k text))]

/-- The JSON listing. -/
def format : ListingFormat where
  name := "json"
  description := "Token list as pretty-printed JSON"
  print language ks := (value language ks).pretty

end ModeLexer.JsonListing
