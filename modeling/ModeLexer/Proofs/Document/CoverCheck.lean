import Mathlib.Data.List.Chain
import ModeLexer.Expectation
import ModeLexer.Proofs.Document.Resumption
import ModeLexer.Proofs.Scanner.Run
import ModeLexer.Proofs.Table.FirstMistake

/-!
# What the check of covered lines decides

`Token.Fills` says of tokens that they fill a range of bytes without gaps, and the check of a line
accepts exactly the tokens that fill it (`CheckedLine.checkCover_eq_ok_iff`). The induction is on
the tokens, with the column that is reached as the start of the range.

The check of a document goes through the tokenized lines. A line of the document behind the last of
them has no tokens, so it is covered only if it is empty, but it is never looked at. So the check
decides whether all lines are covered as long as there are no such lines with something in them, and
accepts too much otherwise (`TokenizedDocument.coversEveryLine_iff`).
-/

namespace ModeLexer

/-! ### Filled lines -/

/-- Whether tokens fill the bytes from `lo` to `hi`: none of them is empty, the first begins at
`lo`, each of the others begins where the one before it ends, and the last ends at `hi`. Without
tokens there is nothing to fill. -/
structure Token.Fills (lo hi : Nat) (ks : List Token) : Prop where
  nonempty : ∀ k ∈ ks, k.span.start < k.span.stop
  start : ∀ k ∈ ks.head?, k.span.start = lo
  adjacent : ks.IsChain fun a b ↦ a.span.stop = b.span.start
  stop : (ks.getLast?.map (·.span.stop)).getD lo = hi

namespace Token

theorem fills_nil_iff {lo hi : Nat} : Fills lo hi [] ↔ lo = hi :=
  ⟨fun h ↦ h.stop, fun h ↦ ⟨List.forall_mem_nil _, by simp, .nil, h⟩⟩

/-- What is behind the first token is filled by the other ones. -/
theorem fills_cons_iff {lo hi : Nat} {k : Token} {ks : List Token} :
    Fills lo hi (k :: ks) ↔
      k.span.start < k.span.stop ∧ k.span.start = lo ∧ Fills k.span.stop hi ks := by
  have hstop : ((k :: ks).getLast?.map (·.span.stop)).getD lo =
      (ks.getLast?.map (·.span.stop)).getD k.span.stop := by
    rw [List.getLast?_cons]
    cases ks.getLast? <;> rfl
  constructor
  · intro h
    obtain ⟨hk, hks⟩ := List.forall_mem_cons.1 h.nonempty
    obtain ⟨hhead, hadjacent⟩ := List.isChain_cons.1 h.adjacent
    exact ⟨hk, h.start k rfl, hks, fun j hj ↦ (hhead j hj).symm, hadjacent, hstop ▸ h.stop⟩
  · rintro ⟨hk, hstart, h⟩
    refine ⟨List.forall_mem_cons.2 ⟨hk, h.nonempty⟩, ?_,
      List.isChain_cons.2 ⟨fun j hj ↦ (h.start j hj).symm, h.adjacent⟩, hstop.trans h.stop⟩
    rintro _ ⟨⟩
    exact hstart

end Token

namespace CheckedLine

/-- The check of a line accepts the tokens that fill what is left of it. -/
theorem checkCover_eq_ok_iff {l : CheckedLine} {index column : Nat} {ks : List Token} :
    l.checkCover index column ks = .ok () ↔ Token.Fills column l.text.utf8ByteSize ks := by
  induction ks generalizing index column with
  | nil =>
    rw [checkCover, Token.fills_nil_iff]
    split <;> simp [*]
  | cons k ks ih =>
    have hempty : k.isEmpty ↔ ¬k.span.start < k.span.stop := by
      rw [Token.isEmpty, Span.isEmpty, decide_eq_true_eq, Nat.not_lt]
    rw [checkCover, Token.fills_cons_iff, ← @ih (index + 1)]
    split
    · next h => simp [hempty.1 h]
    · next h =>
      have hpos : k.span.start < k.span.stop := Decidable.not_not.1 (mt hempty.2 h)
      split
      · next hstart => simp [hstart]
      · next hstart =>
        obtain rfl : k.span.start = column := Decidable.not_not.1 hstart
        simp [hpos]

end CheckedLine

/-! ### Checked documents -/

namespace TokenizedDocument

variable {r : TokenizedDocument} {d : Document}

/-- Lines are checked with success if each of them is. -/
theorem checkLines_eq_ok_iff {e : LineExpectation} {is : List Nat} :
    r.checkLines d e is = .ok () ↔ ∀ i ∈ is, (r.checkedLine d i).check e = .ok () := by
  induction is with
  | nil => simp [checkLines]
  | cons i is ih =>
    rw [checkLines, bind_eq_ok, List.forall_mem_cons, ← ih]
    exact ⟨fun ⟨_, hi, his⟩ ↦ ⟨hi, his⟩, fun ⟨hi, his⟩ ↦ ⟨(), hi, his⟩⟩

/-- Whether the tokens of a line fill it; a line that the document lacks is empty. -/
def CoversLine (r : TokenizedDocument) (d : Document) (i : Nat) : Prop :=
  Token.Fills 0 ((d.line? i).getD "").utf8ByteSize (r.line i)

/-- Where there are no tokens, only an empty line is covered. -/
theorem coversLine_iff_of_le {i : Nat} (h : r.lineCount ≤ i) :
    r.CoversLine d i ↔ (d.line? i).getD "" = "" := by
  have hline : r.line i = [] := by
    rw [line, List.getElem?_eq_none h]
  rw [CoversLine, hline, Token.fills_nil_iff, eq_comm, String.utf8ByteSize_eq_zero_iff]

/-- **The check of covered lines.** It succeeds if the tokens of every tokenized line fill the line
of the document. So the lines of both are covered if it succeeds and the lines of the document
behind the tokenized ones, which it does not look at, are empty. -/
theorem coversEveryLine_iff (r : TokenizedDocument) (d : Document) :
    (r.check d .coversEveryLine = .ok () ↔ ∀ i < r.lineCount, r.CoversLine d i) ∧
      ((r.check d .coversEveryLine = .ok () ∧
          ∀ i, r.lineCount ≤ i → i < d.size → d.line? i = some "") ↔
        ∀ i, i < r.lineCount ∨ i < d.size → r.CoversLine d i) := by
  have hcheck : r.check d .coversEveryLine = .ok () ↔ ∀ i < r.lineCount, r.CoversLine d i := by
    rw [check, checkLines_eq_ok_iff]
    simp only [List.mem_range, CheckedLine.check, CheckedLine.checkCover_eq_ok_iff]
    rfl
  have hbehind : ∀ i, r.lineCount ≤ i → i < d.size →
      (r.CoversLine d i ↔ d.line? i = some "") := by
    intro i hle hlt
    rw [coversLine_iff_of_le hle, Document.line?, List.getElem?_eq_getElem hlt]
    simp
  refine ⟨hcheck, ?_⟩
  rw [hcheck]
  refine ⟨fun ⟨hfront, hback⟩ i hi ↦ ?_, fun h ↦ ⟨fun i hi ↦ h i (.inl hi),
    fun i hle hlt ↦ (hbehind i hle hlt).1 (h i (.inr hlt))⟩⟩
  rcases Nat.lt_or_ge i r.lineCount with hlt | hle
  · exact hfront i hlt
  · have hsize : i < d.size := hi.resolve_left (Nat.not_lt.2 hle)
    exact (hbehind i hle hsize).2 (hback i hle hsize)

/-- The tokens of one line are said to cover a document of two. -/
theorem blocks_cover_missing_line :
    (RuleTable.blocks.tokenizeLines ["("]).check ⟨["(", "x"]⟩ .coversEveryLine = .ok () ∧
      ¬ (RuleTable.blocks.tokenizeLines ["("]).CoversLine ⟨["(", "x"]⟩ 1 := by
  have hcount : (RuleTable.blocks.tokenizeLines ["("]).lineCount = 1 := by simp
  have hrun : (RuleTable.blocks.stage 0 ⟨0, []⟩ ['('] 1).rest = [] := by decide +kernel
  constructor
  · rw [RuleTable.tokenizeLines_singleton, RuleTable.scanLine_eq_result hrun]
    decide +kernel
  · rw [coversLine_iff_of_le (Nat.le_of_eq hcount)]
    simp [Document.line?]

end TokenizedDocument

end ModeLexer
