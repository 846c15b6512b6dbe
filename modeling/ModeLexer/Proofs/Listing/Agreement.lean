import ModeLexer.Listing.Default
import ModeLexer.Proofs.Document.Grouping
import ModeLexer.Proofs.Scanner.Coverage
import ModeLexer.Proofs.Table.FirstMistake

/-!
# When a listing succeeds

A listing cuts the text of every token out of a document. Whether that goes well does not depend on
the format: it does if every token fits the document (`Token.FitsIn`), and otherwise the first token
that does not is what is reported (`Document.withTexts_eq_error_iff`).

The tokens of a scan always fit their line (`RuleTable.fits_of_mem_scanLine`). This asks nothing of
the table: also where a pattern matches behind the cursor, or its groups lie in disorder, every
token ends at boundaries of the line. So a document's own tokens fit it, and they still do after any
number of honest edits (`HonestTokenization.fitsIn`).
-/

namespace ModeLexer

open Text TokenizedDocument

/-- Whether a token fits a document: its line is there, and its span lies in the line and cuts no
character of it. -/
def Token.FitsIn (d : Document) (k : Token) : Prop :=
  ∃ line, d.line? k.line = some line ∧ k.span.Fits line.toList

/-! ### Texts of tokens -/

namespace Document

variable {d : Document} {k : Token} {ks : List Token}

theorem textOf_eq_ok {text : List Char} :
    d.textOf k = .ok text ↔
      ∃ line, d.line? k.line = some line ∧ k.text? line.toList = some text := by
  rw [textOf, ← Option.bind_eq_some_iff]
  split
  · next found hfound => rw [hfound, Except.ok.injEq, Option.some.injEq]
  · next hnone => simp [hnone]

theorem exists_textOf_iff : (∃ text, d.textOf k = .ok text) ↔ k.FitsIn d := by
  simp only [textOf_eq_ok, Token.FitsIn, fits_iff_slice?, Option.isSome_iff_exists, Token.text?]
  rw [exists_comm]
  simp only [exists_and_left]

theorem textOf_eq_error_iff {e : ListingError} :
    d.textOf k = .error e ↔ ¬k.FitsIn d ∧ e = .tokenOutOfRange k.line k.span := by
  rw [← exists_textOf_iff, textOf]
  split
  · next text _ => simp
  · next hnone => simp [eq_comm]

/-- Texts are found for all tokens, in their order, or for none. -/
theorem withTexts_eq_ok_iff {xs : List (Token × List Char)} :
    d.withTexts ks = .ok xs ↔ xs.map (·.1) = ks ∧ ∀ x ∈ xs, d.textOf x.1 = .ok x.2 := by
  induction ks generalizing xs with
  | nil =>
    rw [withTexts, Except.ok.injEq, List.map_eq_nil_iff]
    constructor
    · rintro rfl
      exact ⟨rfl, List.forall_mem_nil _⟩
    · exact fun h ↦ h.1.symm
  | cons k ks ih =>
    rw [withTexts, bind_eq_ok, List.map_eq_cons_iff]
    constructor
    · rintro ⟨text, htext, h⟩
      obtain ⟨rest, hrest, h⟩ := bind_eq_ok.1 h
      obtain rfl := pure_eq_ok.1 h
      obtain ⟨hks, htexts⟩ := ih.1 hrest
      exact ⟨⟨_, _, rfl, rfl, hks⟩, List.forall_mem_cons.2 ⟨htext, htexts⟩⟩
    · rintro ⟨⟨x, rest, rfl, rfl, hks⟩, htexts⟩
      obtain ⟨htext, htexts⟩ := List.forall_mem_cons.1 htexts
      exact ⟨x.2, htext, bind_eq_ok.2 ⟨rest, ih.2 ⟨hks, htexts⟩, rfl⟩⟩

/-- There are texts for all tokens if all of them fit. -/
theorem exists_withTexts_iff :
    (∃ xs, d.withTexts ks = .ok xs) ↔ ∀ k ∈ ks, k.FitsIn d := by
  induction ks with
  | nil => simp [withTexts]
  | cons k ks ih =>
    rw [List.forall_mem_cons, ← ih, ← exists_textOf_iff]
    simp only [withTexts, bind_eq_ok, pure_eq_ok]
    exact ⟨fun ⟨_, text, htext, rest, hrest, _⟩ ↦ ⟨⟨text, htext⟩, rest, hrest⟩,
      fun ⟨⟨text, htext⟩, rest, hrest⟩ ↦ ⟨_, text, htext, rest, hrest, rfl⟩⟩

/-- What is reported is the first token that does not fit. -/
theorem withTexts_eq_error_iff {e : ListingError} :
    d.withTexts ks = .error e ↔
      ∃ before k after, ks = before ++ k :: after ∧ (∀ j ∈ before, j.FitsIn d) ∧
        ¬k.FitsIn d ∧ e = .tokenOutOfRange k.line k.span := by
  induction ks with
  | nil => simp [withTexts]
  | cons k ks ih =>
    rw [withTexts, bind_eq_error]
    constructor
    · rintro (hk | ⟨text, htext, h⟩)
      · exact ⟨[], k, ks, rfl, List.forall_mem_nil _, textOf_eq_error_iff.1 hk⟩
      · have hrest : d.withTexts ks = .error e :=
          (bind_eq_error.1 h).resolve_right fun ⟨_, _, hpure⟩ ↦ nomatch hpure
        obtain ⟨before, j, after, rfl, hbefore, hj⟩ := ih.1 hrest
        exact ⟨k :: before, j, after, rfl,
          List.forall_mem_cons.2 ⟨exists_textOf_iff.1 ⟨text, htext⟩, hbefore⟩, hj⟩
    · rintro ⟨before, j, after, heq, hbefore, hj⟩
      cases before with
      | nil =>
        obtain ⟨rfl, rfl⟩ := List.cons.inj heq
        exact .inl (textOf_eq_error_iff.2 hj)
      | cons k' before =>
        obtain ⟨rfl, rfl⟩ := List.cons.inj heq
        obtain ⟨hk, hbefore⟩ := List.forall_mem_cons.1 hbefore
        obtain ⟨text, htext⟩ := exists_textOf_iff.2 hk
        exact .inr ⟨text, htext,
          bind_eq_error.2 (.inl (ih.2 ⟨before, j, after, rfl, hbefore, hj⟩))⟩

end Document

/-! ### Listings -/

namespace ListingFormat

variable {f : ListingFormat} {d : Document} {r : TokenizedDocument} {language : String}

theorem write_eq_ok {out : String} :
    f.write d r language = .ok out ↔
      ∃ xs, d.withTexts r.tokens = .ok xs ∧ f.print language xs = out := by
  simp only [write, bind_eq_ok, pure_eq_ok]

theorem write_eq_error {e : ListingError} :
    f.write d r language = .error e ↔ d.withTexts r.tokens = .error e := by
  rw [write, bind_eq_error, or_iff_left_iff_imp]
  rintro ⟨_, -, hpure⟩
  nomatch hpure

/-- A format prints tokens that all fit the document. -/
theorem exists_write_iff :
    (∃ out, f.write d r language = .ok out) ↔ ∀ k ∈ r.tokens, k.FitsIn d := by
  simp only [← Document.exists_withTexts_iff, write_eq_ok]
  exact ⟨fun ⟨_, xs, hxs, _⟩ ↦ ⟨xs, hxs⟩, fun ⟨xs, hxs⟩ ↦ ⟨_, xs, hxs, rfl⟩⟩

end ListingFormat

/-! ### Tokens of a scan -/

/-- The spans of a tiling fit the line that they tile. -/
theorem Text.Tiles.fits {line : List Char} {lo hi : Nat} {ss : List Span}
    (hlo : IsBoundary line lo) (h : Tiles line lo ss hi) : ∀ s ∈ ss, s.Fits line := by
  induction ss generalizing lo with
  | nil => exact List.forall_mem_nil _
  | cons s ss ih =>
    obtain ⟨rfl, hpos, hstop, hrest⟩ := h
    exact List.forall_mem_cons.2 ⟨⟨Nat.le_of_lt hpos, hlo, hstop⟩, ih hstop hrest⟩

/-- Every step keeps its place in the line and adds tokens that fit it. -/
theorem Progress.Step.fits {t : RuleTable} {number : Nat} {line : List Char} {p p' : Progress}
    (hp : p.InLine line ∧ ∀ k ∈ p.tokens, k.span.Fits line) (h : Step t number line p p') :
    p'.InLine line ∧ ∀ k ∈ p'.tokens, k.span.Fits line := by
  obtain ⟨hin, htokens⟩ := hp
  refine ⟨hin.step h, ?_⟩
  have hnext := hin.step h
  cases h with
  | @pass c rest hrest hnone =>
    exact List.forall_mem_cons.2 ⟨⟨Nat.le_add_right _ _, hin.isBoundary, hnext.isBoundary⟩, htokens⟩
  | restart => exact List.forall_mem_nil _
  | apply hrest hmatch hnot =>
    obtain ⟨hspan, hgroups⟩ := hin.fits hmatch
    refine List.forall_mem_append.2 ⟨fun k hk ↦ ?_, htokens⟩
    obtain ⟨x, hx, rfl⟩ := List.mem_map.1 (List.mem_reverse.1 hk)
    exact (Layout.ofMatch_tiles hspan hgroups).fits hspan.start x.2 (List.mem_map_of_mem hx)

/-- The tokens of a scan fit the line, whatever the table is. -/
theorem RuleTable.fits_of_mem_scanLine {t : RuleTable} {s : ScanState} {number : Nat}
    {line : String} : ∀ k ∈ (t.scanLine s number line).tokens, k.span.Fits line.toList := by
  obtain ⟨n, hn, -⟩ := t.exists_stage_rest_eq_nil number s.stack line.toList
  have hstage : ∀ k ∈ (t.stage number s.stack line.toList n).tokens, k.span.Fits line.toList :=
    (stage_invariant (P := fun p ↦ p.InLine line.toList ∧ ∀ k ∈ p.tokens, k.span.Fits line.toList)
      ⟨Progress.inLine_start s.stack _, List.forall_mem_nil _⟩ Progress.Step.fits n).2
  rw [scanLine_eq_result hn]
  exact fun k hk ↦ hstage k (List.mem_reverse.1 hk)

/-! ### Documents and their own tokens -/

/-- The tokens of a document that has been tokenized, or tokenized again after any number of edits,
each of which leaves the lines alone that it says it does. -/
inductive HonestTokenization : List String → TokenizedDocument → Prop
  | fresh (t : RuleTable) (lines : List String) : HonestTokenization lines (t.tokenizeLines lines)
  | again {old : List String} {r : TokenizedDocument} (h : HonestTokenization old r)
      (t : RuleTable) (e : Edit)
      (hkept : e.lines.take (e.keptLines old) = old.take (e.keptLines old)) :
      HonestTokenization e.lines (t.retokenize r e.lines e.firstChanged)

/-- Whether the tokens of a tokenized line fit the line. -/
def TokenizedLine.Fits (l : TokenizedLine) (line : String) : Prop :=
  ∀ k ∈ l.tokens, k.span.Fits line.toList

theorem Session.forall₂_scans (t : RuleTable) (s : Session) (lines : List String) :
    List.Forall₂ TokenizedLine.Fits (s.scans t lines) lines := by
  induction lines generalizing s with
  | nil => exact .nil
  | cons line lines ih => exact .cons RuleTable.fits_of_mem_scanLine (ih _)

/-- The tokens come from lines whose tokens have their numbers and fit. -/
theorem HonestTokenization.exists_ofLines {lines : List String} {r : TokenizedDocument}
    (h : HonestTokenization lines r) :
    ∃ ls, r = ofLines ls ∧ Numbered 0 ls ∧ List.Forall₂ TokenizedLine.Fits ls lines := by
  induction h with
  | fresh t lines =>
    exact ⟨_, t.tokenizeLines_eq lines, numbered_scans _ lines, Session.forall₂_scans t _ lines⟩
  | @again old r h t e hkept ih =>
    obtain ⟨ls, rfl, hnumbered, hfits⟩ := ih
    have hle : RuleTable.keptLines (ofLines ls) e.lines e.firstChanged = e.keptLines old := by
      rw [RuleTable.keptLines, lineCount_ofLines, hfits.length_eq, Edit.keptLines]
    refine ⟨_, RuleTable.retokenize_ofLines t ls e.lines e.firstChanged,
      RuleTable.numbered_retokenize t hnumbered e.lines e.firstChanged, ?_⟩
    rw [hle]
    have htake := List.forall₂_take (e.keptLines old) hfits
    rw [← hkept] at htake
    have hall := List.rel_append htake (Session.forall₂_scans t
      (t.resume (ofLines ls) (e.keptLines old)) (e.lines.drop (e.keptLines old)))
    simpa only [List.take_append_drop] using hall

theorem HonestTokenization.fitsIn {d : Document} {r : TokenizedDocument}
    (h : HonestTokenization d.lines r) : ∀ k ∈ r.tokens, k.FitsIn d := by
  obtain ⟨ls, rfl, hnumbered, hfits⟩ := h.exists_ofLines
  intro k hk
  rw [tokens_ofLines, List.mem_flatMap] at hk
  obtain ⟨l, hl, hk⟩ := hk
  obtain ⟨i, hi⟩ := List.mem_iff_getElem?.1 hl
  obtain ⟨line, hline, hfit⟩ := exists_getElem?_of_forall₂ hfits.flip hi
  have hnumber := hnumbered i l hi k hk
  rw [Nat.zero_add] at hnumber
  exact ⟨line, hnumber ▸ hline, hfit k hk⟩

/-! ### Agreement -/

/-- **Agreement.** The tagged and the JSON listing of any tokens against any document both come to a
text, which they do if all tokens fit the document, or both report the same token, the first one
that does not. A document's own tokens are listed by both. -/
theorem ListingFormat.listings_agree :
    (∀ (d : Document) (r : TokenizedDocument) (language : String),
      (∀ k ∈ r.tokens, k.FitsIn d) ∧
          (∃ out, TaggedListing.format.write d r language = .ok out) ∧
          (∃ out, JsonListing.format.write d r language = .ok out) ∨
        ∃ before k after, r.tokens = before ++ k :: after ∧ (∀ j ∈ before, j.FitsIn d) ∧
          ¬k.FitsIn d ∧
          TaggedListing.format.write d r language = .error (.tokenOutOfRange k.line k.span) ∧
          JsonListing.format.write d r language = .error (.tokenOutOfRange k.line k.span)) ∧
    ∀ (d : Document) (r : TokenizedDocument) (language : String),
      HonestTokenization d.lines r →
        (∃ out, TaggedListing.format.write d r language = .ok out) ∧
          ∃ out, JsonListing.format.write d r language = .ok out := by
  refine ⟨fun d r language ↦ ?_, fun d r language h ↦
    ⟨exists_write_iff.2 h.fitsIn, exists_write_iff.2 h.fitsIn⟩⟩
  cases htexts : d.withTexts r.tokens with
  | ok xs =>
    have hfits := Document.exists_withTexts_iff.1 ⟨xs, htexts⟩
    exact .inl ⟨hfits, exists_write_iff.2 hfits, exists_write_iff.2 hfits⟩
  | error e =>
    obtain ⟨before, k, after, heq, hbefore, hk, rfl⟩ := Document.withTexts_eq_error_iff.1 htexts
    exact .inr ⟨before, k, after, heq, hbefore, hk, write_eq_error.2 htexts,
      write_eq_error.2 htexts⟩

/-- The tokens of a document that has got a line with a wide character are listed with it. -/
theorem blocks_listed_after_edit :
    HonestTokenization ["(", "é)"]
        (RuleTable.blocks.retokenize (RuleTable.blocks.tokenizeLines ["(", "x"]) ["(", "é)"] 1) ∧
      (∃ out, TaggedListing.format.write ⟨["(", "é)"]⟩
        (RuleTable.blocks.retokenize (RuleTable.blocks.tokenizeLines ["(", "x"]) ["(", "é)"] 1)
        "blocks" = .ok out) ∧
      ∃ out, JsonListing.format.write ⟨["(", "é)"]⟩
        (RuleTable.blocks.retokenize (RuleTable.blocks.tokenizeLines ["(", "x"]) ["(", "é)"] 1)
        "blocks" = .ok out := by
  have h : HonestTokenization ["(", "é)"] (RuleTable.blocks.retokenize
      (RuleTable.blocks.tokenizeLines ["(", "x"]) ["(", "é)"] 1) :=
    .again (.fresh RuleTable.blocks ["(", "x"]) RuleTable.blocks ⟨["(", "é)"], 1⟩ rfl
  exact ⟨h, ListingFormat.listings_agree.2 ⟨["(", "é)"]⟩ _ "blocks" h⟩

/-- Against another document the first token that cuts a character is reported. -/
example : TaggedListing.format.write ⟨["é)"]⟩ (RuleTable.blocks.tokenizeLines ["()"]) "blocks" =
    .error (.tokenOutOfRange 0 ⟨0, 1⟩) := by cbv

end ModeLexer
