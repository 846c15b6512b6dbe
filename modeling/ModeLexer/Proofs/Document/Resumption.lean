import ModeLexer.Proofs.Document.Lines
import ModeLexer.Proofs.Pattern.MatchSpan

/-!
# Tokenizing again after a change

A tokenized document remembers the state after each of its lines, so after a change the scan can go
on from the last line before it. `Edit` is a change, and a list of edits is `Edit.Honest` from some
lines on if each of them leaves the lines alone that it says it does, as far as there are such lines
before and after it.

Everything rests on one fact: the session that resumes after the kept lines *is* the session that
has scanned them (`resume_tokenizeLines`). So one edit gives the document of a full run
(`retokenize_tokenizeLines`), and since that document is again one of a full run, so does every edit
of a chain. Documents are compared as a whole: tokens with their line numbers, where lines begin,
and end states with their cursors.
-/

namespace ModeLexer

open TokenizedDocument

/-- A change of a document: its new lines, and from which line on they may differ from the old
ones. -/
structure Edit where
  lines : List String
  firstChanged : Nat
  deriving DecidableEq, Repr

namespace Edit

/-- How many lines an edit has to leave alone. -/
def keptLines (old : List String) (e : Edit) : Nat :=
  min (min e.firstChanged old.length) e.lines.length

/-- Whether each edit of a chain leaves the lines alone that it has to. -/
def Honest : List String → List Edit → Prop
  | _, [] => True
  | old, e :: es =>
    e.lines.take (e.keptLines old) = old.take (e.keptLines old) ∧ Honest e.lines es

end Edit

namespace Session

variable {t : RuleTable}

theorem scans_take (s : Session) (lines : List String) (n : Nat) :
    (s.scans t lines).take n = s.scans t (lines.take n) := by
  induction lines generalizing s n with
  | nil => simp [scans]
  | cons line lines ih =>
    cases n with
    | zero => rfl
    | succ n => simp [scans, ih]

end Session

namespace RuleTable

variable {t : RuleTable}

@[simp] theorem lineCount_tokenizeLines (t : RuleTable) (lines : List String) :
    (t.tokenizeLines lines).lineCount = lines.length := by
  rw [tokenizeLines_eq, lineCount_ofLines, Session.length_scans]

/-- The lines kept of a document are the document of the lines kept. -/
theorem keep_tokenizeLines (t : RuleTable) {lines : List String} {n : Nat}
    (h : n ≤ lines.length) :
    (t.tokenizeLines lines).keep n = ofLines ((Session.begin t).scans t (lines.take n)) := by
  rw [tokenizeLines_eq, keep_ofLines _ (by rwa [Session.length_scans]), Session.scans_take]

/-- A session that resumes after some lines is the one that has scanned them. -/
theorem resume_tokenizeLines (t : RuleTable) {lines : List String} {n : Nat}
    (h : n ≤ lines.length) :
    t.resume (t.tokenizeLines lines) n = (Session.begin t).after t (lines.take n) := by
  have hnumber : ((Session.begin t).after t (lines.take n)).nextLine = n := by
    rw [Session.nextLine_after, List.length_take, Nat.min_eq_left h]
    exact Nat.zero_add n
  have hstate : ((Session.begin t).after t (lines.take n)).state =
      (t.resume (t.tokenizeLines lines) n).state := by
    rw [Session.state_after, ← Session.scans_take]
    cases n with
    | zero => rfl
    | succ last =>
      have hlt : last < ((Session.begin t).scans t lines).length := by
        rwa [Session.length_scans]
      rw [List.take_succ_eq_append_getElem hlt, List.getLast?_concat, resume, tokenizeLines_eq,
        endState?_ofLines, List.getElem?_eq_getElem hlt]
      rfl
  cases hafter : (Session.begin t).after t (lines.take n) with
  | mk state nextLine =>
    rw [hafter] at hnumber hstate
    obtain rfl : nextLine = n := hnumber
    exact congrArg (Session.mk · nextLine) hstate.symm

/-- Tokenizing again after an honest edit gives what tokenizing from scratch gives. -/
theorem retokenize_tokenizeLines (t : RuleTable) {old : List String} {e : Edit}
    (h : e.lines.take (e.keptLines old) = old.take (e.keptLines old)) :
    t.retokenize (t.tokenizeLines old) e.lines e.firstChanged = t.tokenizeLines e.lines := by
  have hkept : keptLines (t.tokenizeLines old) e.lines e.firstChanged = e.keptLines old := by
    rw [keptLines, lineCount_tokenizeLines, Edit.keptLines]
  have hle : e.keptLines old ≤ old.length :=
    Nat.le_trans (Nat.min_le_left _ _) (Nat.min_le_right _ _)
  rw [retokenize, hkept]
  simp only [keep_tokenizeLines t hle, resume_tokenizeLines t hle, ← h]
  rw [Session.fst_feedAll, ← Session.scans_append, List.take_append_drop, tokenizeLines_eq]

/-- Tokenizes again after each edit of a chain, always from the result of the one before. -/
def retokenizeAll (t : RuleTable) : TokenizedDocument → List Edit → List TokenizedDocument
  | _, [] => []
  | d, e :: es =>
    t.retokenize d e.lines e.firstChanged ::
      retokenizeAll t (t.retokenize d e.lines e.firstChanged) es

/-- **Resumption.** Along a chain of honest edits every result is the document that tokenizing the
new lines from scratch gives. -/
theorem retokenizeAll_eq (t : RuleTable) (lines : List String) (edits : List Edit)
    (h : Edit.Honest lines edits) :
    t.retokenizeAll (t.tokenizeLines lines) edits = edits.map fun e ↦ t.tokenizeLines e.lines := by
  induction edits generalizing lines with
  | nil => rfl
  | cons e es ih =>
    obtain ⟨hkept, hes⟩ := h
    rw [retokenizeAll, retokenize_tokenizeLines t hkept, ih e.lines hes, List.map_cons]

/-- A table of nested blocks: `(` begins one and `)` ends it. -/
def blocks : RuleTable where
  language := "blocks"
  modes := [⟨"root", [⟨.ofChar '(', .whole "begin", .push 1⟩]⟩,
    ⟨"block", [⟨.ofChar '(', .whole "begin", .push 1⟩, ⟨.ofChar ')', .whole "end", .pop⟩]⟩]
  base := 0
  defaultToken := "other"

/-- A document that grows by a blank line inside of a block, shrinks to less than its changed part,
and grows again. -/
theorem blocks_retokenized :
    Edit.Honest ["(", "x"] [⟨["(", "", ")"], 1⟩, ⟨["("], 9⟩, ⟨["(", "y"], 4⟩] ∧
      blocks.retokenizeAll (blocks.tokenizeLines ["(", "x"])
          [⟨["(", "", ")"], 1⟩, ⟨["("], 9⟩, ⟨["(", "y"], 4⟩] =
        [blocks.tokenizeLines ["(", "", ")"], blocks.tokenizeLines ["("],
          blocks.tokenizeLines ["(", "y"]] := by
  have h : Edit.Honest ["(", "x"]
      [⟨["(", "", ")"], 1⟩, ⟨["("], 9⟩, ⟨["(", "y"], 4⟩] := ⟨rfl, rfl, rfl, trivial⟩
  exact ⟨h, retokenizeAll_eq blocks _ _ h⟩

/-- The first edit resumes inside of the block. -/
example : (blocks.retokenize (blocks.tokenizeLines ["(", "x"]) ["(", "", ")"] 1).endStates =
    [⟨⟨0, [1]⟩, 1⟩, ⟨⟨0, [1]⟩, 0⟩, ⟨⟨0, []⟩, 1⟩] := by cbv

end RuleTable

end ModeLexer
