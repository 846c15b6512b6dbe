import ModeLexer.Proofs.Document.Resumption
import ModeLexer.Proofs.Scanner.Run

/-!
# No token is lost between lines

A tokenized document recovers its lines from where they begin. Blank lines begin where the line
after them does, and the last line has nothing after it. `TokenizedDocument.GroupsLines` says that
nothing goes wrong with that: the lines put together are all the tokens, each in the line whose
number it has. Any document of a list of lines is like that, as soon as the tokens of each line have
its number (`groupsLines_ofLines`), and a scan gives its tokens the number that it is given.

`Tokenization` are the documents that can come about, by tokenizing and by tokenizing again any
number of times. It does not matter where an edit says that the lines have changed: if that is wrong
the tokens kept may not fit the new lines, but they are kept under the numbers that they had
(`Tokenization.groupsLines`).
-/

namespace ModeLexer

open TokenizedDocument

/-! ### The numbers of tokens -/

/-- Every step gives the tokens that it adds the number of the line. -/
theorem Progress.Step.line_eq {t : RuleTable} {number : Nat} {line : List Char} {p p' : Progress}
    (h : Step t number line p p') (hp : ∀ k ∈ p.tokens, k.line = number) :
    ∀ k ∈ p'.tokens, k.line = number := by
  cases h with
  | pass => exact List.forall_mem_cons.2 ⟨rfl, hp⟩
  | restart => exact List.forall_mem_nil _
  | apply =>
    refine List.forall_mem_append.2 ⟨fun k hk ↦ ?_, hp⟩
    obtain ⟨x, -, rfl⟩ := List.mem_map.1 (List.mem_reverse.1 hk)
    rfl

theorem RuleTable.line_eq_of_mem_scanLine {t : RuleTable} {s : ScanState} {number : Nat}
    {line : String} : ∀ k ∈ (t.scanLine s number line).tokens, k.line = number := by
  obtain ⟨n, hn, -⟩ := t.exists_stage_rest_eq_nil number s.stack line.toList
  have hstage : ∀ k ∈ (t.stage number s.stack line.toList n).tokens, k.line = number :=
    stage_invariant (P := fun p ↦ ∀ k ∈ p.tokens, k.line = number) (by simp [Progress.start])
      (fun hp hstep ↦ hstep.line_eq hp) n
  rw [scanLine_eq_result hn]
  exact fun k hk ↦ hstage k (List.mem_reverse.1 hk)

namespace TokenizedDocument

/-- Whether the tokens of lines have the numbers of their lines, the first one having number
`first`. -/
def Numbered (first : Nat) (ls : List TokenizedLine) : Prop :=
  ∀ i l, ls[i]? = some l → ∀ k ∈ l.tokens, k.line = first + i

theorem Numbered.take {first : Nat} {ls : List TokenizedLine} (h : Numbered first ls) (n : Nat) :
    Numbered first (ls.take n) := by
  intro i l hl
  rw [List.getElem?_take] at hl
  split at hl
  · exact h i l hl
  · simp at hl

theorem Numbered.append {first : Nat} {as bs : List TokenizedLine} (ha : Numbered first as)
    (hb : Numbered (first + as.length) bs) : Numbered first (as ++ bs) := by
  intro i l hl
  rcases Nat.lt_or_ge i as.length with hlt | hge
  · rw [List.getElem?_append_left hlt] at hl
    exact ha i l hl
  · rw [List.getElem?_append_right hge] at hl
    intro k hk
    have hline := hb _ l hl k hk
    omega

/-- A session numbers the lines that it scans. -/
theorem numbered_scans {t : RuleTable} (s : Session) (lines : List String) :
    Numbered s.nextLine (s.scans t lines) := by
  intro i l hl
  obtain ⟨hi, -⟩ := List.getElem?_eq_some_iff.1 hl
  rw [Session.length_scans] at hi
  rw [Session.getElem?_scans s (List.getElem?_eq_getElem hi)] at hl
  obtain rfl := Option.some.inj hl
  have hnumber : (s.after t (lines.take i)).nextLine = s.nextLine + i := by
    rw [Session.nextLine_after, List.length_take, Nat.min_eq_left (Nat.le_of_lt hi)]
  rw [← hnumber]
  exact RuleTable.line_eq_of_mem_scanLine

/-! ### Lines put together -/

/-- Whether a document of `count` lines gives all its tokens back line by line, and nothing
beyond. -/
structure GroupsLines (d : TokenizedDocument) (count : Nat) : Prop where
  lineCount_eq : d.lineCount = count
  /-- The lines put together are the tokens of the document. -/
  flatMap_line : (List.range d.lineCount).flatMap d.line = d.tokens
  line_eq : ∀ i, ∀ k ∈ d.line i, k.line = i
  endState? : ∀ i, (d.endState? i).isSome ↔ i < count
  line_eq_nil : ∀ i, count ≤ i → d.line i = []

theorem flatMap_line_ofLines (ls : List TokenizedLine) :
    (List.range ls.length).flatMap (ofLines ls).line = (ofLines ls).tokens := by
  have hlines : (List.range ls.length).map (ofLines ls).line = ls.map (·.tokens) := by
    refine List.ext_getElem (by simp) fun i hi _ ↦ ?_
    rw [List.getElem_map, List.getElem_map, List.getElem_range]
    exact line_ofLines (List.getElem?_eq_getElem (by simpa using hi))
  rw [tokens_ofLines, List.flatMap_def, hlines, ← List.flatMap_def]

/-- The document of lines whose tokens have their numbers gives the lines back. -/
theorem groupsLines_ofLines {ls : List TokenizedLine} (h : Numbered 0 ls) :
    (ofLines ls).GroupsLines ls.length where
  lineCount_eq := lineCount_ofLines ls
  flatMap_line := by rw [lineCount_ofLines, flatMap_line_ofLines]
  line_eq i k hk := by
    cases hl : ls[i]? with
    | none =>
      rw [line_ofLines_of_le (List.getElem?_eq_none_iff.1 hl)] at hk
      simp at hk
    | some l =>
      rw [line_ofLines hl] at hk
      rw [h i l hl k hk, Nat.zero_add]
  endState? i := by simp [endState?_ofLines]
  line_eq_nil i hi := line_ofLines_of_le hi

end TokenizedDocument

/-! ### Documents that come about -/

/-- The documents that tokenizing lines comes to, and tokenizing other lines again after any of
them, with any table and whatever lines are said to have changed. -/
inductive Tokenization : List String → TokenizedDocument → Prop
  | fresh (t : RuleTable) (lines : List String) : Tokenization lines (t.tokenizeLines lines)
  | again {old : List String} {d : TokenizedDocument} (h : Tokenization old d) (t : RuleTable)
      (lines : List String) (firstChanged : Nat) :
      Tokenization lines (t.retokenize d lines firstChanged)

theorem RuleTable.keptLines_ofLines_le (ls : List TokenizedLine) (lines : List String)
    (firstChanged : Nat) : keptLines (ofLines ls) lines firstChanged ≤ ls.length := by
  rw [keptLines, lineCount_ofLines]
  omega

/-- Tokenizing again keeps lines and adds those that are scanned. -/
theorem RuleTable.retokenize_ofLines (t : RuleTable) (ls : List TokenizedLine)
    (lines : List String) (firstChanged : Nat) :
    t.retokenize (ofLines ls) lines firstChanged =
      ofLines (ls.take (keptLines (ofLines ls) lines firstChanged) ++
        (t.resume (ofLines ls) (keptLines (ofLines ls) lines firstChanged)).scans t
          (lines.drop (keptLines (ofLines ls) lines firstChanged))) := by
  rw [retokenize]
  simp only [keep_ofLines ls (keptLines_ofLines_le ls lines firstChanged), Session.fst_feedAll]

/-- The lines that are scanned are numbered on from those that are kept. -/
theorem RuleTable.numbered_retokenize (t : RuleTable) {ls : List TokenizedLine}
    (h : Numbered 0 ls) (lines : List String) (firstChanged : Nat) :
    Numbered 0 (ls.take (keptLines (ofLines ls) lines firstChanged) ++
      (t.resume (ofLines ls) (keptLines (ofLines ls) lines firstChanged)).scans t
        (lines.drop (keptLines (ofLines ls) lines firstChanged))) := by
  refine (h.take _).append ?_
  rw [List.length_take_of_le (keptLines_ofLines_le ls lines firstChanged), Nat.zero_add]
  exact numbered_scans (t.resume (ofLines ls) _) _

/-- Such a document is the document of a list of numbered lines. -/
theorem Tokenization.exists_ofLines {lines : List String} {d : TokenizedDocument}
    (h : Tokenization lines d) :
    ∃ ls, d = ofLines ls ∧ ls.length = lines.length ∧ Numbered 0 ls := by
  induction h with
  | fresh t lines =>
    exact ⟨_, t.tokenizeLines_eq lines, Session.length_scans _ lines, numbered_scans _ lines⟩
  | @again old d h t lines firstChanged ih =>
    obtain ⟨ls, rfl, -, hls⟩ := ih
    refine ⟨_, t.retokenize_ofLines ls lines firstChanged, ?_,
      t.numbered_retokenize hls lines firstChanged⟩
    rw [List.length_append, Session.length_scans, List.length_take, List.length_drop,
      RuleTable.keptLines, lineCount_ofLines]
    omega

/-- **Grouping.** However a document has come about, it has as many lines as it has been given, each
with an end state; its lines put together are its tokens; a line holds tokens of its own number
only; and beyond the last line there are none. -/
theorem Tokenization.groupsLines {lines : List String} {d : TokenizedDocument}
    (h : Tokenization lines d) : d.GroupsLines lines.length := by
  obtain ⟨ls, rfl, hlength, hls⟩ := h.exists_ofLines
  rw [← hlength]
  exact groupsLines_ofLines hls

/-- An edit that says that no line has changed, though all of them have. -/
theorem blocks_grouped_after_edits :
    Tokenization ["a", "", "", "x"]
        (RuleTable.blocks.retokenize (RuleTable.blocks.tokenizeLines ["", "()", ""])
          ["a", "", "", "x"] 9) ∧
      (RuleTable.blocks.retokenize (RuleTable.blocks.tokenizeLines ["", "()", ""])
        ["a", "", "", "x"] 9).GroupsLines 4 := by
  have h : Tokenization ["a", "", "", "x"]
      (RuleTable.blocks.retokenize (RuleTable.blocks.tokenizeLines ["", "()", ""])
        ["a", "", "", "x"] 9) := .again (.fresh _ _) _ _ _
  exact ⟨h, h.groupsLines⟩

/-- The tokens of the old lines are kept, blank lines included, and a line is added behind them. -/
example : (RuleTable.blocks.retokenize (RuleTable.blocks.tokenizeLines ["", "()", ""])
    ["a", "", "", "x"] 9).lineStarts = [0, 0, 2, 2] := by cbv

end ModeLexer
