import ModeLexer.Document.Tokenizer
import ModeLexer.Proofs.Scanner.Reentry
import ModeLexer.Proofs.Scanner.Run
import ModeLexer.Table.Build

/-!
# How long a scan stands still

A step *idles* if it leaves the cursor where it is without starting the line again. Such a step has
applied a rule that matched the empty text (`Progress.exists_applyRule_of_idles`), so it is counted,
and when the count is full a rule that matches the empty text is usable only if it rematches
(`Progress.demotes_of_idles`). The count thus bounds the pushes, pops and exchanges in a row. It
does not bound the rematches that are taken for pops: these go on for as long as there are modes to
pop (`RuleTable.idle_steps_bounded`), and the table `pile` has as many of them as it has pushed.
-/

namespace ModeLexer

open Text

namespace Progress

variable {t : RuleTable} {number : Nat} {line : List Char} {p : Progress}

/-- Whether a step leaves the cursor where it is without starting the line again. -/
def idles (t : RuleTable) (number : Nat) (line : List Char) (p : Progress) : Bool :=
  !p.rest.isEmpty && !p.restarts t && (p.next t number line).cursor = p.cursor

theorem idles_iff : p.idles t number line ↔
    p.rest ≠ [] ∧ p.restarts t = false ∧ (p.next t number line).cursor = p.cursor := by
  simp [idles, and_assoc]

/-- A step that idles applies a rule that matches the empty text. -/
theorem exists_applyRule_of_idles (h : p.idles t number line) :
    ∃ r m, p.firstMatch? t = some (r, m) ∧ m.span.isEmpty ∧
      p.next t number line = p.applyRule t number r m := by
  obtain ⟨hrest, hre, hcursor⟩ := idles_iff.1 h
  obtain ⟨c, rest, hcons⟩ := List.exists_cons_of_ne_nil hrest
  have hnext : p.next t number line = _ := next_of_not_restarts hre hcons
  cases hmatch : p.firstMatch? t with
  | none =>
    -- a character has been passed
    rw [hmatch] at hnext
    rw [hnext] at hcursor
    have hpos := c.utf8Size_pos
    have hpass : p.cursor + c.utf8Size = p.cursor := hcursor
    omega
  | some found =>
    obtain ⟨r, m⟩ := found
    rw [hmatch] at hnext
    rw [hnext] at hcursor
    have hstop : m.span.stop = p.cursor := hcursor
    have hstart := (usable_of_firstMatch? hmatch).2
    exact ⟨r, m, rfl, by simpa [Span.isEmpty, hstop] using hstart, hnext⟩

theorem zeroWidthSteps_next_of_idles (h : p.idles t number line) :
    (p.next t number line).zeroWidthSteps = p.zeroWidthSteps + 1 := by
  obtain ⟨r, m, -, hempty, hnext⟩ := exists_applyRule_of_idles h
  rw [hnext]
  exact if_pos hempty

/-- When no more rules may match the empty text, only a rematch that is taken for a pop idles. -/
theorem demotes_of_idles (h : p.idles t number line)
    (hfull : maxZeroWidthSteps ≤ p.zeroWidthSteps) : p.demotes t := by
  obtain ⟨r, m, hmatch, hempty, -⟩ := exists_applyRule_of_idles h
  obtain ⟨hrest, hre, -⟩ := idles_iff.1 h
  have hallows : p.allowsZeroWidth = false := by simpa [allowsZeroWidth] using hfull
  have husable := (usable_of_firstMatch? hmatch).1
  simp only [isUsable, hempty, hallows, Bool.not_true, Bool.false_or, Bool.false_and,
    Bool.or_false, Bool.and_eq_true, decide_eq_true_eq] at husable
  have htried : p.rematches t := rematches_iff.2 ⟨hrest, husable.2, r, m, hmatch, husable.1⟩
  rw [restarts, htried, Bool.true_and] at hre
  rw [demotes, htried, hre]
  rfl

/-- A rematch that is taken for a pop takes a mode off the stack. -/
theorem depth_next_of_demotes (h : p.demotes t) :
    (p.next t number line).stack.depth + 1 = p.stack.depth := by
  rw [demotes, Bool.and_eq_true] at h
  obtain ⟨htried, hnot⟩ := h
  obtain ⟨hrest, hpop, r, m, hmatch, hre⟩ := rematches_iff.1 htried
  obtain ⟨c, rest, hcons⟩ := List.exists_cons_of_ne_nil hrest
  have hrestarts : p.restarts t = false := by
    rw [restarts, htried, Bool.true_and]
    simpa using hnot
  rw [next_of_not_restarts hrestarts hcons, hmatch]
  show (p.stack.apply r.action).depth + 1 = p.stack.depth
  rw [hre]
  exact ModeStack.depth_pop hpop

/-- A step that neither idles nor starts the line again brings the cursor further. -/
theorem InLine.cursor_lt_next (h : p.InLine line) (hrest : p.rest ≠ [])
    (hre : p.restarts t = false) (hidle : p.idles t number line = false) :
    p.cursor < (p.next t number line).cursor := by
  have hne : (p.next t number line).cursor ≠ p.cursor := fun heq ↦ by
    rw [idles_iff.2 ⟨hrest, hre, heq⟩] at hidle
    simp at hidle
  obtain ⟨c, rest, hcons⟩ := List.exists_cons_of_ne_nil hrest
  have hnext : p.next t number line = _ := next_of_not_restarts hre hcons
  refine Nat.lt_of_le_of_ne ?_ hne.symm
  rw [hnext]
  cases hmatch : p.firstMatch? t with
  | none => exact Nat.le_add_right p.cursor c.utf8Size
  | some found =>
    have hfits := (h.fits hmatch).1
    exact Nat.le_trans (usable_of_firstMatch? hmatch).2 hfits.start_le_stop

end Progress

namespace RuleTable

variable {t : RuleTable} {number : Nat} {stack : ModeStack} {line : List Char}

/-- Whether the step after `n` steps idles. -/
def idlesAt (t : RuleTable) (number : Nat) (stack : ModeStack) (line : List Char)
    (n : Nat) : Bool :=
  (t.stage number stack line n).idles t number line

/-- Every step that idles is counted. -/
theorem zeroWidthSteps_stage_of_idlesAt {n k : Nat}
    (h : ∀ i < k, t.idlesAt number stack line (n + i)) :
    (t.stage number stack line (n + k)).zeroWidthSteps =
      (t.stage number stack line n).zeroWidthSteps + k := by
  induction k with
  | zero => rfl
  | succ k ih =>
    have hcount := ih fun i hi ↦ h i (by omega)
    rw [← Nat.add_assoc, stage_succ, Progress.zeroWidthSteps_next_of_idles (h k (by omega)), hcount]
    omega

/-- After as many steps that idle as may match the empty text, further ones are rematches that are
taken for pops. -/
theorem demotesAt_of_idlesAt {n k : Nat} (h : ∀ i ≤ k, t.idlesAt number stack line (n + i))
    (hk : maxZeroWidthSteps ≤ k) : t.demotesAt number stack line (n + k) := by
  refine Progress.demotes_of_idles (h k (Nat.le_refl k)) ?_
  rw [zeroWidthSteps_stage_of_idlesAt fun i hi ↦ h i (by omega)]
  omega

/-- Rematches in a row that are taken for pops are fewer than the modes on the stack. -/
theorem depth_stage_of_demotesAt {n k : Nat}
    (h : ∀ i < k, t.demotesAt number stack line (n + i)) :
    (t.stage number stack line (n + k)).stack.depth + k =
      (t.stage number stack line n).stack.depth := by
  induction k with
  | zero => rfl
  | succ k ih =>
    have hbefore := ih fun i hi ↦ h i (by omega)
    have hpop : (Progress.next t number line _).stack.depth + 1 = _ :=
      Progress.depth_next_of_demotes (h k (by omega))
    rw [← stage_succ] at hpop
    rw [← Nat.add_assoc n k 1]
    omega

/-- **Standing still.** Of the steps in a row that idle, those after the first `maxZeroWidthSteps`
are rematches that are taken for pops, and fewer than there are modes on the stack by then; any
other step after so many starts the line again or brings the cursor further. -/
theorem idle_steps_bounded (t : RuleTable) (s : ScanState) (number : Nat) (line : String)
    (n k : Nat) (h : ∀ i < k, t.idlesAt number s.stack line.toList (n + i)) :
    (∀ i < k, maxZeroWidthSteps ≤ i → t.demotesAt number s.stack line.toList (n + i)) ∧
      k < maxZeroWidthSteps +
        (t.stage number s.stack line.toList (n + maxZeroWidthSteps)).stack.depth ∧
      (maxZeroWidthSteps ≤ k → (t.stage number s.stack line.toList (n + k)).rest ≠ [] →
        t.demotesAt number s.stack line.toList (n + k) ∨
          t.restartsAt number s.stack line.toList (n + k) ∨
          (t.stage number s.stack line.toList (n + k)).cursor <
            (t.stage number s.stack line.toList (n + k + 1)).cursor) := by
  have hdemotes : ∀ i < k, maxZeroWidthSteps ≤ i →
      t.demotesAt number s.stack line.toList (n + i) := fun i hi hmax ↦
    demotesAt_of_idlesAt (fun j hj ↦ h j (by omega)) hmax
  refine ⟨hdemotes, ?_, fun hmax hrest ↦ ?_⟩
  · have hpos : 0 < (t.stage number s.stack line.toList (n + k)).stack.depth := Nat.succ_pos _
    rcases Nat.lt_or_ge k maxZeroWidthSteps with hlt | hge
    · omega
    · obtain ⟨more, rfl⟩ := Nat.exists_eq_add_of_le hge
      have hmore : (t.stage number s.stack line.toList (n + maxZeroWidthSteps + more)).stack.depth +
          more = _ := depth_stage_of_demotesAt fun i hi ↦ by
        rw [Nat.add_assoc]
        exact hdemotes (maxZeroWidthSteps + i) (by omega) (by omega)
      rw [Nat.add_assoc] at hmore
      omega
  · cases hidle : t.idlesAt number s.stack line.toList (n + k) with
    | true =>
      refine .inl (demotesAt_of_idlesAt (fun i hi ↦ ?_) hmax)
      rcases Nat.lt_or_eq_of_le hi with hlt | rfl
      · exact h i hlt
      · exact hidle
    | false =>
      cases hre : t.restartsAt number s.stack line.toList (n + k) with
      | true => exact .inr (.inl rfl)
      | false =>
        refine .inr (.inr ?_)
        rw [stage_succ]
        exact (inLine_stage (n + k)).cursor_lt_next hrest hre hidle

/-- A language whose third mode piles itself up for as long as rules may match the empty text, and
then rematches. -/
def pile : Definition :=
  Definition.new "pile" "root"
    |>.addMode "root" [(Entry.token "x" "x").push "entry", (Entry.token "" "").push "pile"]
    |>.addMode "entry" [(Entry.token "^" "").rematch]
    |>.addMode "pile" [(Entry.token "" "").pushSelf, (Entry.token "" "").rematch]

/-- The pattern that matches the empty text anywhere. -/
def emptyPattern : Pattern where
  source := ""
  regex := ⟨.seq (.look .textStart) .empty, 0⟩
  lineStartOnly := false
  hasLookahead := false

/-- What is built from it. -/
def pileTable : RuleTable where
  language := "pile"
  modes := [⟨"entry", [⟨caret, .whole unclassified, .rematch⟩]⟩,
    ⟨"pile", [⟨emptyPattern, .whole unclassified, .push 1⟩,
      ⟨emptyPattern, .whole unclassified, .rematch⟩]⟩,
    ⟨"root", [⟨.ofChar 'x', .whole "x", .push 0⟩,
      ⟨emptyPattern, .whole unclassified, .push 1⟩]⟩]
  base := 2
  defaultToken := unclassified

/-- After `x`, a line is given to the base mode at once. Sixteen modes are then piled up, and all of
them are taken off again by rematches. -/
theorem pile_idlesAt : ∀ i < 32, pileTable.idlesAt 1 ⟨2, [0]⟩ ['a'] (1 + i) := by
  decide +kernel

/-- The bound is attained. -/
theorem pile_idles_bounded :
    (∀ i < 32, pileTable.idlesAt 1 ⟨2, [0]⟩ ['a'] (1 + i)) ∧
      (pileTable.stage 1 ⟨2, [0]⟩ ['a'] (1 + maxZeroWidthSteps)).stack.depth = 17 ∧
      32 < maxZeroWidthSteps + 17 := by
  have hdepth : (pileTable.stage 1 ⟨2, [0]⟩ ['a'] (1 + maxZeroWidthSteps)).stack.depth = 17 := by
    decide +kernel
  have hbound := (idle_steps_bounded pileTable ⟨⟨2, [0]⟩, 1⟩ 1 "a" 1 32 pile_idlesAt).2.1
  rw [show ("a" : String).toList = ['a'] from rfl, hdepth] at hbound
  exact ⟨pile_idlesAt, hdepth, hbound⟩

/-- In a document of the language the cursor stays where it is for twice as many steps as may match
the empty text, and the character there is passed in the base mode. -/
theorem pile_stands_still :
    RuleTable.build pile = .ok pileTable ∧
      (pileTable.tokenizeLines ["x"]).finalState? = some ⟨⟨2, [0]⟩, 1⟩ ∧
      maxZeroWidthSteps < 32 ∧
      (∀ i < 32, pileTable.idlesAt 1 ⟨2, [0]⟩ ['a'] (1 + i)) ∧
      (pileTable.scanLine ⟨⟨2, [0]⟩, 1⟩ 1 "a").outcome =
        ([⟨unclassified, 1, ⟨0, 1⟩⟩], ⟨⟨2, []⟩, 1⟩) := by
  have hrun : (pileTable.stage 1 ⟨2, [0]⟩ ['a'] 34).rest = [] := by decide +kernel
  have hx : (pileTable.stage 0 ⟨2, []⟩ ['x'] 1).rest = [] := by decide +kernel
  have hstate : (pileTable.tokenizeLines ["x"]).finalState? = some ⟨⟨2, [0]⟩, 1⟩ := by
    rw [tokenizeLines_singleton, scanLine_eq_result hx]
    decide +kernel
  refine ⟨by decide +kernel, hstate, by decide, pile_idlesAt, ?_⟩
  show (pileTable.scanChars 1 ⟨2, [0]⟩ ['a']).outcome = _
  rw [scanChars_eq_result hrun]
  decide +kernel

end RuleTable

end ModeLexer
