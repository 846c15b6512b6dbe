import Mathlib.Data.List.Induction
import ModeLexer.Document.Tokenizer

/-!
# The lines of a tokenized document

A tokenized document keeps all tokens in one list and recovers a line from where it begins and where
the next one does. `TokenizedDocument.ofLines` is the document of a list of lines, and every
operation is read off that list: the look-ups (`line_ofLines`, `endState?_ofLines`), keeping the
first lines (`keep_ofLines`) and adding scanned ones (`fst_feedAll`). `Session.scans` are the lines
that a session scans; they depend on the lines before through the session alone (`scans_append`).
-/

namespace ModeLexer

namespace TokenizedDocument

/-! ### Documents as lists of lines -/

/-- The document of a list of lines. -/
def ofLines (ls : List TokenizedLine) : TokenizedDocument :=
  ls.foldl (fun d l ↦ d.pushLine l.tokens l.endState) empty

/-- A line is added to a document at its end. -/
theorem ofLines_concat (ls : List TokenizedLine) (l : TokenizedLine) :
    ofLines (ls ++ [l]) = (ofLines ls).pushLine l.tokens l.endState := by
  simp [ofLines]

/-- The tokens of a document are those of its lines, one line after the other. -/
theorem tokens_ofLines (ls : List TokenizedLine) :
    (ofLines ls).tokens = ls.flatMap (·.tokens) := by
  induction ls using List.reverseRecOn with
  | nil => rfl
  | append_singleton ls l ih => simp [ofLines_concat, pushLine, ih]

/-- The end states of a document are those of its lines. -/
theorem endStates_ofLines (ls : List TokenizedLine) :
    (ofLines ls).endStates = ls.map (·.endState) := by
  induction ls using List.reverseRecOn with
  | nil => rfl
  | append_singleton ls l ih => simp [ofLines_concat, pushLine, ih]

/-- The number of tokens before a line. -/
def startOf (ls : List TokenizedLine) (i : Nat) : Nat := ((ls.take i).flatMap (·.tokens)).length

/-- Before a line there are the tokens before the last line and those on it. -/
theorem startOf_succ {ls : List TokenizedLine} {i : Nat} (hi : i < ls.length) :
    startOf ls (i + 1) = startOf ls i + ls[i].tokens.length := by
  rw [startOf, List.take_succ_eq_append_getElem hi, List.flatMap_append, List.length_append,
    List.flatMap_singleton]
  rfl

/-- Before the end of the document there are all tokens. -/
theorem startOf_length (ls : List TokenizedLine) :
    startOf ls ls.length = (ofLines ls).tokens.length := by
  rw [startOf, List.take_length, tokens_ofLines]

/-- The start that is kept for a line is the number of tokens before it. -/
theorem lineStarts_ofLines (ls : List TokenizedLine) :
    (ofLines ls).lineStarts = (List.range ls.length).map (startOf ls) := by
  induction ls using List.reverseRecOn with
  | nil => rfl
  | append_singleton ls l ih =>
    have hlast : startOf (ls ++ [l]) ls.length = (ofLines ls).tokens.length := by
      rw [startOf, List.take_left, tokens_ofLines]
    rw [ofLines_concat, List.length_append, List.length_singleton, List.range_succ,
      List.map_append, List.map_singleton, hlast]
    simp only [pushLine, ih]
    congr 1
    refine List.map_congr_left fun i hi ↦ ?_
    rw [startOf, startOf, List.take_append_of_le_length (Nat.le_of_lt (List.mem_range.1 hi))]

@[simp] theorem lineCount_ofLines (ls : List TokenizedLine) :
    (ofLines ls).lineCount = ls.length := by
  simp [lineCount, lineStarts_ofLines]

/-- The end state at an index is that of the line there. -/
theorem endState?_ofLines (ls : List TokenizedLine) (i : Nat) :
    (ofLines ls).endState? i = ls[i]?.map (·.endState) := by
  simp [endState?, endStates_ofLines]

/-- A line ends where the next one begins, and the last line where the tokens end. -/
theorem stop_ofLines {ls : List TokenizedLine} {i : Nat} (hi : i < ls.length) :
    (ofLines ls).lineStarts[i + 1]?.getD (ofLines ls).tokens.length = startOf ls (i + 1) := by
  rw [lineStarts_ofLines, List.getElem?_map]
  rcases Nat.lt_or_eq_of_le hi with hlt | heq
  · rw [List.getElem?_range hlt]
    rfl
  · rw [List.getElem?_eq_none (by simp [← heq]), ← startOf_length, ← heq]
    rfl

/-- The tokens of a line are found between its beginning and its end. -/
theorem line_ofLines {ls : List TokenizedLine} {i : Nat} {l : TokenizedLine}
    (h : ls[i]? = some l) : (ofLines ls).line i = l.tokens := by
  obtain ⟨hi, rfl⟩ := List.getElem?_eq_some_iff.1 h
  have hstart : (ofLines ls).lineStarts[i]? = some (startOf ls i) := by
    rw [lineStarts_ofLines, List.getElem?_map, List.getElem?_range hi, Option.map_some]
  have hsplit : (ofLines ls).tokens = ((ls.take i).flatMap (·.tokens) ++ ls[i].tokens) ++
      (ls.drop (i + 1)).flatMap (·.tokens) := by
    rw [tokens_ofLines, ← List.flatMap_singleton (·.tokens) ls[i], ← List.flatMap_append,
      ← List.take_succ_eq_append_getElem hi, ← List.flatMap_append, List.take_append_drop]
  rw [line, hstart]
  simp only [stop_ofLines hi, startOf_succ hi]
  rw [hsplit, List.take_left' (by rw [List.length_append, startOf])]
  exact List.drop_left' rfl

/-- There are no tokens beyond the last line. -/
theorem line_ofLines_of_le {ls : List TokenizedLine} {i : Nat} (h : ls.length ≤ i) :
    (ofLines ls).line i = [] := by
  rw [line, lineStarts_ofLines, List.getElem?_eq_none (by simpa using h)]

/-- Keeping lines keeps them as they are. -/
theorem keep_ofLines (ls : List TokenizedLine) {n : Nat} (h : n ≤ ls.length) :
    (ofLines ls).keep n = ofLines (ls.take n) := by
  induction n with
  | zero => rfl
  | succ n ih =>
    have hn : ls[n]? = some ls[n] := List.getElem?_eq_getElem h
    rw [keep, endState?_ofLines, hn, List.take_succ_eq_append_getElem h, ofLines_concat,
      ← ih (Nat.le_of_lt h), ← line_ofLines hn]
    rfl

end TokenizedDocument

namespace Session

open TokenizedDocument

/-! ### What a session scans -/

/-- The lines that a session scans. -/
def scans (t : RuleTable) : Session → List String → List TokenizedLine
  | _, [] => []
  | s, line :: lines =>
    ⟨(s.feed t line).1.tokens, (s.feed t line).1.state⟩ :: scans t (s.feed t line).2 lines

/-- The session after it has scanned some lines. -/
def after (t : RuleTable) : Session → List String → Session
  | s, [] => s
  | s, line :: lines => after t (s.feed t line).2 lines

variable {t : RuleTable}

/-- A session scans every line that it is given. -/
theorem length_scans (s : Session) (lines : List String) :
    (s.scans t lines).length = lines.length := by
  induction lines generalizing s with
  | nil => rfl
  | cons line lines ih => simp [scans, ih]

/-- Lines are scanned in two parts, the second one by the session that has scanned the first. -/
theorem scans_append (s : Session) (as bs : List String) :
    s.scans t (as ++ bs) = s.scans t as ++ (s.after t as).scans t bs := by
  induction as generalizing s with
  | nil => rfl
  | cons line as ih => simp [scans, after, ih]

/-- A session counts the lines that it has scanned. -/
theorem nextLine_after (s : Session) (lines : List String) :
    (s.after t lines).nextLine = s.nextLine + lines.length := by
  induction lines generalizing s with
  | nil => rfl
  | cons line lines ih =>
    rw [after, ih, List.length_cons]
    show s.nextLine + 1 + lines.length = _
    omega

/-- The last line is scanned last. -/
theorem after_concat (s : Session) (lines : List String) (line : String) :
    s.after t (lines ++ [line]) = ((s.after t lines).feed t line).2 := by
  induction lines generalizing s with
  | nil => rfl
  | cons l lines ih => exact ih (s.feed t l).2

/-- A line is scanned by the session that has scanned the lines before it. -/
theorem getElem?_scans (s : Session) {lines : List String} {i : Nat} {line : String}
    (h : lines[i]? = some line) :
    (s.scans t lines)[i]? = some ⟨((s.after t (lines.take i)).feed t line).1.tokens,
      ((s.after t (lines.take i)).feed t line).1.state⟩ := by
  induction lines generalizing s i with
  | nil => simp at h
  | cons l lines ih =>
    cases i with
    | zero =>
      obtain rfl := Option.some.inj h
      rfl
    | succ i => exact ih (s.feed t l).2 h

/-- A session goes on from the state after the last line that it scanned. -/
theorem state_after (s : Session) (lines : List String) :
    (s.after t lines).state = ((s.scans t lines).getLast?.map (·.endState)).getD s.state := by
  induction lines generalizing s with
  | nil => rfl
  | cons line lines ih =>
    rw [after, ih, scans]
    cases h : (s.feed t line).2.scans t lines with
    | nil => rfl
    | cons l ls => simp [List.getLast?_cons]

/-- A session adds the lines that it scans. -/
theorem fst_feedAll (s : Session) (ls : List TokenizedLine) (lines : List String) :
    (s.feedAll t (ofLines ls) lines).1 = ofLines (ls ++ s.scans t lines) := by
  induction lines generalizing s ls with
  | nil => simp [feedAll, scans]
  | cons line lines ih =>
    have h := ih (s.feed t line).2 (ls ++ [⟨(s.feed t line).1.tokens, (s.feed t line).1.state⟩])
    rw [ofLines_concat] at h
    simp [feedAll, scans, h]

end Session

namespace RuleTable

open TokenizedDocument

/-- A tokenized document consists of the lines that a session scans. -/
theorem tokenizeLines_eq (t : RuleTable) (lines : List String) :
    t.tokenizeLines lines = ofLines ((Session.begin t).scans t lines) :=
  Session.fst_feedAll (Session.begin t) [] lines

/-- A document of one line is scanned from the initial state. -/
theorem tokenizeLines_singleton (t : RuleTable) (line : String) :
    t.tokenizeLines [line] =
      ofLines [⟨(t.scanLine t.initialState 0 line).tokens,
        (t.scanLine t.initialState 0 line).state⟩] := rfl

/-- A line of a document is scanned in the state of a session that has scanned the lines before. -/
theorem line_tokenizeLines (t : RuleTable) {lines : List String} {i : Nat} {line : String}
    (h : lines[i]? = some line) :
    (t.tokenizeLines lines).line i =
        (t.scanLine ((Session.begin t).after t (lines.take i)).state i line).tokens ∧
      (t.tokenizeLines lines).endState? i =
        some (t.scanLine ((Session.begin t).after t (lines.take i)).state i line).state := by
  have hnumber : ((Session.begin t).after t (lines.take i)).nextLine = i := by
    have hi := (List.getElem?_eq_some_iff.1 h).1
    rw [Session.nextLine_after, List.length_take]
    show 0 + min i lines.length = i
    omega
  have hget := Session.getElem?_scans (t := t) (Session.begin t) h
  rw [tokenizeLines_eq, line_ofLines hget, endState?_ofLines, hget]
  simp only [Session.feed, hnumber, Option.map_some, and_self]

/-- The state after a line is the one of a session that has scanned it. -/
theorem endState?_tokenizeLines (t : RuleTable) {lines : List String} {i : Nat} {s : ScanState}
    (h : (t.tokenizeLines lines).endState? i = some s) :
    ((Session.begin t).after t (lines.take (i + 1))).state = s := by
  have hi : i < lines.length := by
    rw [tokenizeLines_eq, endState?_ofLines] at h
    obtain ⟨l, hl, -⟩ := Option.map_eq_some_iff.1 h
    simpa [Session.length_scans] using (List.getElem?_eq_some_iff.1 hl).1
  have hline : lines[i]? = some lines[i] := List.getElem?_eq_getElem hi
  rw [tokenizeLines_eq, endState?_ofLines, Session.getElem?_scans _ hline, Option.map_some] at h
  rw [List.take_succ_eq_append_getElem hi, Session.after_concat]
  exact Option.some.inj h

/-- The tokens of a line are those of scanning it in some state. -/
theorem exists_line_tokenizeLines (t : RuleTable) {lines : List String} {i : Nat} {line : String}
    (h : lines[i]? = some line) :
    ∃ s, (t.tokenizeLines lines).line i = (t.scanLine s i line).tokens :=
  ⟨_, (t.line_tokenizeLines h).1⟩

end RuleTable

end ModeLexer
