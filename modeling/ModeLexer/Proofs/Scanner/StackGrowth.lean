import ModeLexer.Proofs.Scanner.Run

/-!
# How high a line can build the stack

A step puts at most one mode on the stack. A step that passes something is paid for by a byte of the
line, and of the steps that pass nothing only the first `maxZeroWidthSteps` in a row can push; so
between two restarts the stack grows by no more than `maxZeroWidthSteps + 1` modes for each byte
passed, those steps counted that have been taken at the cursor.

A restart goes back to the start of the line, and what was pushed before it stays. But it brings the
stack below where every earlier restart has brought it, so it is only the first one that can leave
the stack higher than the line found it. `Progress.GrowsFrom` is this as an invariant: the height
that the line has been started from last is within the growth of one pass, and the height now within
the growth of another one (`RuleTable.depth_scanLine_le`).
-/

namespace ModeLexer

open Text

theorem ModeStack.depth_apply_le (s : ModeStack) (a : Action) :
    (s.apply a).depth ≤ s.depth + 1 := by
  cases a with
  | push m => exact Nat.le_refl _
  | stay => exact Nat.le_succ _
  | switchTo m =>
    rw [apply, depth_switchTo]
    exact Nat.le_succ _
  | pop | rematch =>
    have htail : s.above.tail.length ≤ s.above.length := by
      rw [List.length_tail]
      exact Nat.sub_le ..
    show s.above.tail.length + 1 ≤ s.above.length + 1 + 1
    omega

namespace Progress

variable {t : RuleTable} {number height : Nat} {line : List Char} {p p' : Progress}

/-- The height of the stack from which the line has been started last. -/
def base (height : Nat) (p : Progress) : Nat := p.floor.getD height

/-- How many modes one pass over a number of bytes can add. -/
def passGrowth (bytes : Nat) : Nat := (maxZeroWidthSteps + 1) * bytes

theorem passGrowth_mono {m n : Nat} (h : m ≤ n) : passGrowth m ≤ passGrowth n :=
  Nat.mul_le_mul_left _ h

/-- Each byte pays for the steps that pass nothing and for the one that passes it. -/
theorem passGrowth_of_lt {m n : Nat} (h : m < n) :
    passGrowth m + maxZeroWidthSteps + 1 ≤ passGrowth n := by
  refine Nat.le_trans (Nat.le_of_eq ?_) (passGrowth_mono h)
  rw [passGrowth, passGrowth, Nat.mul_succ, Nat.add_assoc]

/-- Whether the stack is no higher than two passes can make it of the height at which the line was
begun: one up to the last restart, and one since. -/
structure GrowsFrom (height : Nat) (line : List Char) (p : Progress) : Prop where
  inLine : p.InLine line
  base_le : p.base height ≤ height + passGrowth (byteLength line)
  depth_le : p.stack.depth ≤ p.base height + passGrowth (byteLength line)
  /-- At the cursor only the steps that have passed nothing there are to be paid for yet. -/
  depth_le_cursor : p.stack.depth ≤
    p.base height + passGrowth p.cursor + min p.zeroWidthSteps maxZeroWidthSteps

theorem growsFrom_start (stack : ModeStack) (line : List Char) :
    (start stack line).GrowsFrom stack.depth line where
  inLine := inLine_start stack line
  base_le := Nat.le_add_right _ _
  depth_le := Nat.le_add_right _ _
  depth_le_cursor := Nat.le_add_right _ _

/-- Before the end of the line there is a byte left to pay for a step more. -/
theorem GrowsFrom.depth_lt (h : p.GrowsFrom height line) (hrest : p.rest ≠ []) :
    p.stack.depth + 1 ≤ p.base height + passGrowth (byteLength line) := by
  have hlt : p.cursor < byteLength line :=
    Nat.lt_of_le_of_ne h.inLine.cursor_le fun heq ↦ hrest (h.inLine.rest_eq_nil_iff.2 heq)
  have hpaid := passGrowth_of_lt hlt
  have hdepth := h.depth_le_cursor
  have hsteps := Nat.min_le_right p.zeroWidthSteps maxZeroWidthSteps
  omega

/-- A step that uses up the last empty match is one of those that are counted. -/
theorem depth_apply_le_of_isEmpty {r : Rule} {m : PatternMatch}
    (hmatch : p.firstMatch? t = some (r, m)) (hempty : m.span.isEmpty) :
    (p.stack.apply r.action).depth + min p.zeroWidthSteps maxZeroWidthSteps ≤
      p.stack.depth + min (p.zeroWidthSteps + 1) maxZeroWidthSteps := by
  by_cases hallows : p.zeroWidthSteps < maxZeroWidthSteps
  · have := p.stack.depth_apply_le r.action
    omega
  · -- what can be used when no empty match is left is a rematch, and it pops
    have husable := (usable_of_firstMatch? hmatch).1
    have hre : r.action = .rematch ∧ p.stack.canPop := by
      simpa [isUsable, hempty, allowsZeroWidth, hallows] using husable
    have hpop : (p.stack.apply .rematch).depth + 1 = p.stack.depth := ModeStack.depth_pop hre.2
    rw [hre.1]
    omega

/-- The first restart comes out of one pass, and a later one gets below the one before it. -/
theorem GrowsFrom.depth_pop_le (h : p.GrowsFrom height line) (hhonoured : p.honoursRematch) :
    p.stack.pop.depth ≤ height + passGrowth (byteLength line) := by
  have hpop := ModeStack.depth_pop (canPop_of_honoursRematch hhonoured)
  have hdepth := h.depth_le
  have hbase := h.base_le
  cases hfloor : p.floor with
  | none =>
    have hheight : p.base height = height := by rw [base, hfloor, Option.getD_none]
    omega
  | some f =>
    have hf : p.base height = f := by rw [base, hfloor, Option.getD_some]
    rw [honoursRematch, hfloor, Bool.and_eq_true] at hhonoured
    have hlt : p.stack.depth - 1 < f := by simpa using hhonoured.2
    omega

/-- What a rule does to the stack is paid for by what it takes, or it is one of the empty matches
that are counted. -/
theorem GrowsFrom.depth_apply_le_cursor (h : p.GrowsFrom height line) {r : Rule} {m : PatternMatch}
    (hmatch : p.firstMatch? t = some (r, m)) :
    (p.stack.apply r.action).depth ≤ p.base height + passGrowth m.span.stop +
      min (if m.span.isEmpty then p.zeroWidthSteps + 1 else 0) maxZeroWidthSteps := by
  have hmore := p.stack.depth_apply_le r.action
  have hcursor := h.depth_le_cursor
  have hsteps := Nat.min_le_right p.zeroWidthSteps maxZeroWidthSteps
  have hstart := (usable_of_firstMatch? hmatch).2
  have hfits := (h.inLine.fits hmatch).1.start_le_stop
  by_cases hempty : m.span.isEmpty
  · have hcounted := depth_apply_le_of_isEmpty hmatch hempty
    have hmono := passGrowth_mono (Nat.le_trans hstart hfits)
    rw [if_pos hempty]
    omega
  · have hpassed : p.cursor < m.span.stop := by
      simp only [Span.isEmpty, decide_eq_true_eq, Nat.not_le] at hempty
      omega
    have hpaid := passGrowth_of_lt hpassed
    rw [if_neg hempty]
    omega

/-- Every step keeps the stack within two passes. -/
theorem GrowsFrom.step (h : p.GrowsFrom height line) (hstep : Step t number line p p') :
    p'.GrowsFrom height line := by
  have hin := h.inLine.step hstep
  cases hstep with
  | @pass c rest hrest hnone =>
    have hcursor := h.depth_le_cursor
    have hsteps := Nat.min_le_right p.zeroWidthSteps maxZeroWidthSteps
    have hpaid := passGrowth_of_lt (Nat.lt_add_of_pos_right (n := p.cursor) c.utf8Size_pos)
    refine ⟨hin, h.base_le, h.depth_le, ?_⟩
    show p.stack.depth ≤ p.base height + passGrowth (p.cursor + c.utf8Size) + min 0 _
    omega
  | @restart r m hrest hmatch hrematch hhonoured =>
    have hbase : (p.restart t number line).base height = p.stack.pop.depth := by
      have hpop := ModeStack.depth_pop (canPop_of_honoursRematch hhonoured)
      show p.stack.depth - 1 = _
      omega
    refine ⟨hin, ?_, ?_, ?_⟩ <;> rw [hbase]
    · exact h.depth_pop_le hhonoured
    · exact Nat.le_add_right _ _
    · rw [Nat.add_assoc]
      exact Nat.le_add_right _ _
  | @apply r m hrest hmatch hnot =>
    have hmore := p.stack.depth_apply_le r.action
    exact ⟨hin, h.base_le, Nat.le_trans hmore (h.depth_lt hrest), h.depth_apply_le_cursor hmatch⟩

end Progress

namespace RuleTable

theorem growsFrom_stage (t : RuleTable) (number : Nat) (stack : ModeStack) (line : List Char)
    (n : Nat) : (t.stage number stack line n).GrowsFrom stack.depth line :=
  stage_invariant (Progress.growsFrom_start stack line) Progress.GrowsFrom.step n

/-- **Linear growth.** At every stage of a line and at its end, the stack is higher than at the
start of the line by at most `2 * (maxZeroWidthSteps + 1)` modes for each byte of the line. -/
theorem depth_scanLine_le (t : RuleTable) (s : ScanState) (number : Nat) (line : String) :
    (∀ n, (t.stage number s.stack line.toList n).stack.depth ≤
      s.stack.depth + 2 * (maxZeroWidthSteps + 1) * byteLength line.toList) ∧
    (t.scanLine s number line).state.stack.depth ≤
      s.stack.depth + 2 * (maxZeroWidthSteps + 1) * byteLength line.toList := by
  have hstage : ∀ n, (t.stage number s.stack line.toList n).stack.depth ≤
      s.stack.depth + 2 * (maxZeroWidthSteps + 1) * byteLength line.toList := by
    intro n
    have h := t.growsFrom_stage number s.stack line.toList n
    calc (t.stage number s.stack line.toList n).stack.depth
        ≤ (t.stage number s.stack line.toList n).base s.stack.depth +
            Progress.passGrowth (byteLength line.toList) := h.depth_le
      _ ≤ s.stack.depth + Progress.passGrowth (byteLength line.toList) +
            Progress.passGrowth (byteLength line.toList) := Nat.add_le_add_right h.base_le _
      _ = s.stack.depth + 2 * (maxZeroWidthSteps + 1) * byteLength line.toList := by
          rw [Progress.passGrowth, Nat.add_assoc, ← Nat.two_mul, Nat.mul_assoc]
  obtain ⟨n, hn, -⟩ := t.exists_stage_rest_eq_nil number s.stack line.toList
  refine ⟨hstage, ?_⟩
  rw [scanLine_eq_result hn]
  exact hstage n

/-- A table whose only mode pushes itself wherever it is, and at `x` too. -/
def heaping : RuleTable where
  language := "heaping"
  modes := [⟨"heap", [{
    pattern := {
      source := "", regex := ⟨.seq (.look .textStart) .empty, 0⟩, lineStartOnly := false
      hasLookahead := false }
    emission := .whole "", action := .push 0 }, ⟨.ofChar 'x', .whole "x", .push 0⟩]⟩]
  base := 0
  defaultToken := "other"

/-- One pass adds as many modes for a byte as are counted for it. -/
example : (heaping.stage 0 ⟨0, []⟩ ['x'] 17).rest = [] ∧
    (heaping.stage 0 ⟨0, []⟩ ['x'] 17).stack.depth = 1 + Progress.passGrowth 1 := by cbv

end RuleTable

end ModeLexer
