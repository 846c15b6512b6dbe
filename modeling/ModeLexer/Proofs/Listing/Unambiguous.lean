import ModeLexer.Proofs.Listing.Agreement
import ModeLexer.Proofs.Text.Quoted

/-!
# The tagged listing can be told apart

A line of the listing is read from both ends. The numbers come first, each of them ended by a
character that is no digit, and the text comes last, where its opening quotation mark can be found
from behind; what is left between them is the class. So a line determines its token and the text,
whatever spaces, quotation marks and backslashes there are in the class (`line_inj`).

If no class contains a line feed, no line does before its end, and the lines of a listing are as
many as its tokens and determine them (`listing_unambiguous`).
-/

namespace ModeLexer.TaggedListing

/-- Two texts with a separator that is in neither of their first parts have the same parts. -/
theorem append_separator_inj {c : Char} {xs ys rest rest' : List Char} (hxs : c ∉ xs)
    (hys : c ∉ ys) (h : xs ++ c :: rest = ys ++ c :: rest') : xs = ys ∧ rest = rest' := by
  induction xs generalizing ys with
  | nil =>
    cases ys with
    | nil => exact ⟨rfl, (List.cons.inj h).2⟩
    | cons y ys => exact absurd ((List.cons.inj h).1 ▸ List.mem_cons_self ..) hys
  | cons x xs ih =>
    cases ys with
    | nil => exact absurd ((List.cons.inj h).1 ▸ List.mem_cons_self ..) hxs
    | cons y ys =>
      obtain ⟨rfl, htail⟩ := List.cons.inj h
      obtain ⟨rfl, hrest⟩ :=
        ih (List.not_mem_of_not_mem_cons hxs) (List.not_mem_of_not_mem_cons hys) htail
      exact ⟨rfl, hrest⟩

/-! ### Lines -/

theorem notMem_digits {c : Char} (hc : ¬c.isDigit) (n : Nat) : c ∉ digits n := fun hmem ↦
  hc (Nat.isDigit_of_mem_toDigits (by decide) (by decide) hmem)

theorem digits_inj {m n : Nat} (h : digits m = digits n) : m = n :=
  calc
    m = Nat.ofDigitChars 10 (digits m) 0 := Nat.ofDigitChars_ten_toDigits.symm
    _ = Nat.ofDigitChars 10 (digits n) 0 := by rw [h]
    _ = n := Nat.ofDigitChars_ten_toDigits

/-- A number is told from what follows it by a character that is no digit. -/
theorem digits_append_inj {c : Char} (hc : ¬c.isDigit) {m n : Nat} {rest rest' : List Char}
    (h : digits m ++ c :: rest = digits n ++ c :: rest') : m = n ∧ rest = rest' := by
  obtain ⟨hdigits, hrest⟩ := append_separator_inj (notMem_digits hc m) (notMem_digits hc n) h
  exact ⟨digits_inj hdigits, hrest⟩

/-- The line for a token, without its line feed. -/
def line (k : Token) (text : List Char) : List Char :=
  digits k.line ++ ':' :: (digits k.span.start ++ '.' :: '.' :: (digits k.span.stop ++
    ' ' :: (k.cls.toList ++ ' ' :: Text.quoted text)))

theorem entry_eq (k : Token) (text : List Char) : entry k text = line k text ++ ['\n'] := by
  simp only [entry, line, List.append_assoc, List.cons_append]

theorem newline_notMem_line {k : Token} (hk : '\n' ∉ k.cls.toList) (text : List Char) :
    '\n' ∉ line k text := by
  have hdigits (n : Nat) : '\n' ∉ digits n := notMem_digits (by decide) n
  simp [line, hdigits, hk, Text.newline_notMem_quoted]

/-- A line determines its token and the text. -/
theorem line_inj {k k' : Token} {text text' : List Char} (h : line k text = line k' text') :
    k = k' ∧ text = text' := by
  obtain ⟨cls, number, start, stop⟩ := k
  obtain ⟨cls', number', start', stop'⟩ := k'
  obtain ⟨rfl, h⟩ := digits_append_inj (by decide) h
  obtain ⟨rfl, h⟩ := digits_append_inj (by decide) h
  obtain ⟨rfl, h⟩ := digits_append_inj (by decide) (List.cons.inj h).2
  obtain ⟨hcls, rfl⟩ := Text.append_quoted_inj h
  obtain rfl := String.toList_injective hcls
  exact ⟨rfl, rfl⟩

/-! ### Listings -/

/-- Whether no class of some tokens contains a line feed. -/
def ClassesOnOneLine (ks : List Token) : Prop := ∀ k ∈ ks, '\n' ∉ k.cls.toList

theorem toList_print_cons (x : Token × List Char) (xs : List (Token × List Char)) :
    (print (x :: xs)).toList = line x.1 x.2 ++ '\n' :: (print xs).toList := by
  obtain ⟨k, text⟩ := x
  rw [print, print, String.toList_ofList, String.toList_ofList, List.flatMap_cons]
  show entry k text ++ _ = _
  rw [entry_eq, List.append_assoc, List.singleton_append]

theorem count_newline_print {xs : List (Token × List Char)}
    (h : ClassesOnOneLine (xs.map (·.1))) : (print xs).toList.count '\n' = xs.length := by
  induction xs with
  | nil => rfl
  | cons x xs ih =>
    obtain ⟨hx, hxs⟩ := List.forall_mem_cons.1 h
    rw [toList_print_cons, List.count_append, List.count_cons_self, ih hxs,
      List.count_eq_zero.2 (newline_notMem_line hx x.2), Nat.zero_add, List.length_cons]

theorem print_inj {xs ys : List (Token × List Char)} (hxs : ClassesOnOneLine (xs.map (·.1)))
    (hys : ClassesOnOneLine (ys.map (·.1))) (h : print xs = print ys) : xs = ys := by
  induction xs generalizing ys with
  | nil =>
    have hcount := count_newline_print hys
    rw [← h] at hcount
    exact (List.length_eq_zero_iff.1 hcount.symm).symm
  | cons x xs ih =>
    cases ys with
    | nil =>
      have hcount := count_newline_print hxs
      rw [h] at hcount
      nomatch hcount
    | cons y ys =>
      obtain ⟨hx, hxs⟩ := List.forall_mem_cons.1 hxs
      obtain ⟨hy, hys⟩ := List.forall_mem_cons.1 hys
      have hlines := congrArg String.toList h
      rw [toList_print_cons, toList_print_cons] at hlines
      obtain ⟨hline, hrest⟩ := append_separator_inj (newline_notMem_line hx x.2)
        (newline_notMem_line hy y.2) hlines
      rw [ih hxs hys (String.toList_injective hrest), Prod.ext_iff.2 (line_inj hline)]

/-- **One line for each token, and no two listings alike.** Where no class contains a line feed, the
tagged listing has as many line feeds as there are tokens, and equal listings, be it of different
documents, are listings of the same tokens with the same texts. -/
theorem listing_unambiguous :
    (∀ (d : Document) (r : TokenizedDocument) (language out : String),
      ClassesOnOneLine r.tokens → format.write d r language = .ok out →
        out.toList.count '\n' = r.tokens.length) ∧
    ∀ (d d' : Document) (r r' : TokenizedDocument) (language language' out : String),
      ClassesOnOneLine r.tokens → ClassesOnOneLine r'.tokens →
        format.write d r language = .ok out → format.write d' r' language' = .ok out →
        ∃ xs, d.withTexts r.tokens = .ok xs ∧ d'.withTexts r'.tokens = .ok xs := by
  constructor
  · intro d r language out hclasses h
    obtain ⟨xs, hxs, rfl⟩ := ListingFormat.write_eq_ok.1 h
    obtain ⟨htokens, -⟩ := Document.withTexts_eq_ok_iff.1 hxs
    rw [← htokens] at hclasses ⊢
    rw [List.length_map]
    exact count_newline_print hclasses
  · intro d d' r r' language language' out hclasses hclasses' h h'
    obtain ⟨xs, hxs, rfl⟩ := ListingFormat.write_eq_ok.1 h
    obtain ⟨ys, hys, heq⟩ := ListingFormat.write_eq_ok.1 h'
    rw [← (Document.withTexts_eq_ok_iff.1 hxs).1] at hclasses
    rw [← (Document.withTexts_eq_ok_iff.1 hys).1] at hclasses'
    obtain rfl := print_inj hclasses' hclasses heq
    exact ⟨ys, hxs, hys⟩

/-- Two tokens, the first of a class with a space, a quotation mark and a backslash. -/
def awkwardTokens : List Token := [⟨"x \"a\\", 0, ⟨0, 3⟩⟩, ⟨"", 0, ⟨3, 5⟩⟩]

/-- Two documents with a line feed in a line and equal listings have the same tokens and texts. -/
theorem awkward_listings_agree :
    ClassesOnOneLine awkwardTokens ∧ ∃ out xs,
      format.write ⟨["a\n\" b"]⟩ ⟨awkwardTokens, [0], []⟩ "l" = .ok out ∧
      format.write ⟨["a\n\" b", ""]⟩ ⟨awkwardTokens, [0, 2], []⟩ "m" = .ok out ∧
      out.toList.count '\n' = 2 ∧
      Document.withTexts ⟨["a\n\" b"]⟩ awkwardTokens = .ok xs ∧
      Document.withTexts ⟨["a\n\" b", ""]⟩ awkwardTokens = .ok xs := by
  have htexts : Document.withTexts ⟨["a\n\" b"]⟩ awkwardTokens =
      .ok [(⟨"x \"a\\", 0, ⟨0, 3⟩⟩, ['a', '\n', '"']), (⟨"", 0, ⟨3, 5⟩⟩, [' ', 'b'])] := by
    decide +kernel
  have htexts' : Document.withTexts ⟨["a\n\" b", ""]⟩ awkwardTokens =
      .ok [(⟨"x \"a\\", 0, ⟨0, 3⟩⟩, ['a', '\n', '"']), (⟨"", 0, ⟨3, 5⟩⟩, [' ', 'b'])] := by
    decide +kernel
  have hclasses : ClassesOnOneLine awkwardTokens :=
    show ∀ k ∈ awkwardTokens, '\n' ∉ k.cls.toList by decide +kernel
  have hwrite : format.write _ ⟨_, [0], []⟩ "l" = .ok _ :=
    ListingFormat.write_eq_ok.2 ⟨_, htexts, rfl⟩
  have hwrite' : format.write _ ⟨_, [0, 2], []⟩ "m" = .ok _ :=
    ListingFormat.write_eq_ok.2 ⟨_, htexts', rfl⟩
  obtain ⟨xs, hxs, hxs'⟩ :=
    listing_unambiguous.2 _ _ _ _ _ _ _ hclasses hclasses hwrite hwrite'
  exact ⟨hclasses, _, xs, hwrite, hwrite', listing_unambiguous.1 _ _ _ _ hclasses hwrite, hxs, hxs'⟩

/-- The opening quotation mark of the text is the second one of this line. -/
example : print [(⟨"x \"a\\", 0, ⟨0, 3⟩⟩, ['a', '\n', '"'])] = "0:0..3 x \"a\\ \"a\\n\\\"\"\n" := by
  decide +kernel

end ModeLexer.TaggedListing
