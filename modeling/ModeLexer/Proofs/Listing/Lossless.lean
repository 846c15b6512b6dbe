import ModeLexer.Proofs.Json.Indented
import ModeLexer.Proofs.Listing.Agreement

/-!
# The JSON listing gives the tokens back

A reader that knows the form of a JSON listing takes the language and the tokens with their texts
out of it (`JsonListing.read?`). It is strict: every object has just the fields that the listing
writes, in their order, and every number is a natural number.

The text that is printed parses as the value that the tokens come to, and the reader inverts that
value, so nothing is lost, whatever is in the labels and the texts (`JsonListing.listing_lossless`).
-/

namespace ModeLexer.JsonListing

/-! ### Reading a listing -/

/-- A natural number, from its decimal digits. -/
def readNat? : Json → Option Nat
  | .number numeral =>
    if numeral.toList.all Char.isDigit then some (Nat.ofDigitChars 10 numeral.toList 0) else none
  | _ => none

/-- A token and its text, from an object with just these fields. -/
def readToken? : Json → Option (Token × List Char)
  | .object [("class", .string cls), ("line", line), ("start", start), ("end", stop),
      ("text", .string text)] => do
    return (⟨cls, ← readNat? line, ⟨← readNat? start, ← readNat? stop⟩⟩, text.toList)
  | _ => none

/-- The language and the tokens with their texts, from an object with just these fields. -/
def read? : Json → Option (String × List (Token × List Char))
  | .object [("language", .string language), ("tokens", .array items)] => do
    return (language, ← items.mapM readToken?)
  | _ => none

theorem readNat?_nat (n : Nat) : readNat? (.nat n) = some n := by
  have hdigits : (Nat.toDigits 10 n).all Char.isDigit :=
    List.all_eq_true.2 (Json.isNumeral_toDigits n).2.1
  rw [Json.nat, readNat?, Nat.toString_eq_ofList_toDigits, String.toList_ofList, if_pos hdigits,
    Nat.ofDigitChars_ten_toDigits]

theorem readToken?_entry (k : Token) (text : List Char) :
    readToken? (entry k text) = some (k, text) := by
  simp [readToken?, entry, readNat?_nat]

theorem mapM_readToken? (xs : List (Token × List Char)) :
    (xs.map fun (k, text) ↦ entry k text).mapM readToken? = some xs := by
  induction xs with
  | nil => rfl
  | cons x xs ih =>
    rw [List.map_cons, List.mapM_cons, readToken?_entry, ih]
    rfl

/-- The reader inverts the value of a listing. -/
theorem read?_value (language : String) (xs : List (Token × List Char)) :
    read? (value language xs) = some (language, xs) := by
  simp only [read?, value, mapM_readToken?]
  rfl

/-! ### Parsing a listing -/

theorem readsIndented_entry (k : Token) (text : List Char) :
    Json.ReadsIndented (entry k text) := by
  refine Json.readsIndented_object ?_
  simp [Json.readsIndented_string, Json.readsIndented_nat]

theorem readsIndented_value (language : String) (xs : List (Token × List Char)) :
    Json.ReadsIndented (value language xs) := by
  have hitems : ∀ j ∈ xs.map (fun (k, text) ↦ entry k text), Json.ReadsIndented j := by
    rw [List.forall_mem_map]
    exact fun x _ ↦ readsIndented_entry x.1 x.2
  refine Json.readsIndented_object ?_
  simp [Json.readsIndented_string, Json.readsIndented_array hitems]

/-- **Losslessness.** What the JSON listing prints for tokens that fit a document parses as an
object with the name of the language and one entry for each token, in order, with its class, line,
start, end and text in the document; and from this object the name and the tokens with their texts
can be read back. -/
theorem listing_lossless {d : Document} {r : TokenizedDocument} {language out : String}
    (h : format.write d r language = .ok out) :
    ∃ xs : List (Token × List Char), xs.map (·.1) = r.tokens ∧
      (∀ x ∈ xs, d.textOf x.1 = .ok x.2) ∧
      Json.parse out = .ok (.object [("language", .string language),
        ("tokens", .array (xs.map fun (k, text) ↦ .object [("class", .string k.cls),
          ("line", .nat k.line), ("start", .nat k.span.start), ("end", .nat k.span.stop),
          ("text", .string (String.ofList text))]))]) ∧
      (Json.parse out).toOption.bind read? = some (language, xs) := by
  obtain ⟨xs, hxs, rfl⟩ := ListingFormat.write_eq_ok.1 h
  obtain ⟨htokens, htexts⟩ := Document.withTexts_eq_ok_iff.1 hxs
  have hparse : Json.parse (format.print language xs) = .ok (value language xs) :=
    Json.parse_pretty (readsIndented_value language xs)
  refine ⟨xs, htokens, htexts, hparse, ?_⟩
  rw [hparse]
  exact read?_value language xs

/-- A label and a text with quotation marks, backslashes and a control character, a wide character
and an empty token are read back. -/
theorem awkward_tokens_read_back :
    ∃ out xs, format.write ⟨["\"\\\x01", "é\n"]⟩
        ⟨[⟨"a\"b", 0, ⟨0, 3⟩⟩, ⟨"\t", 1, ⟨0, 2⟩⟩, ⟨"", 1, ⟨3, 3⟩⟩], [0, 1], []⟩ "x\\y" = .ok out ∧
      xs.map (·.1) = [⟨"a\"b", 0, ⟨0, 3⟩⟩, ⟨"\t", 1, ⟨0, 2⟩⟩, ⟨"", 1, ⟨3, 3⟩⟩] ∧
      (Json.parse out).toOption.bind read? = some ("x\\y", xs) := by
  have htexts : Document.withTexts ⟨["\"\\\x01", "é\n"]⟩
      [⟨"a\"b", 0, ⟨0, 3⟩⟩, ⟨"\t", 1, ⟨0, 2⟩⟩, ⟨"", 1, ⟨3, 3⟩⟩] =
      .ok [(⟨"a\"b", 0, ⟨0, 3⟩⟩, ['"', '\\', '\x01']), (⟨"\t", 1, ⟨0, 2⟩⟩, ['é']),
        (⟨"", 1, ⟨3, 3⟩⟩, [])] := by decide +kernel
  have hwrite : ListingFormat.write format _ ⟨_, [0, 1], []⟩ "x\\y" = .ok _ :=
    ListingFormat.write_eq_ok.2 ⟨_, htexts, rfl⟩
  obtain ⟨xs, htokens, -, -, hread⟩ := listing_lossless hwrite
  exact ⟨_, xs, hwrite, htokens, hread⟩

/-- Without tokens there is an empty list of them. -/
example : format.write ⟨[]⟩ .empty "x" =
    .ok "\x7b\n  \"language\": \"x\",\n  \"tokens\": []\n\x7d" := by decide +kernel

end ModeLexer.JsonListing
