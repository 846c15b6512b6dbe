import Mathlib.Data.Nat.Count
import ModeLexer.Proofs.Scanner.Run

/-!
# Scans end, and how often they restart

The loop of a scan runs while the cursor is before the end of the line. That it stops, for any table
and any stack, rests on the measure of `Progress.step_lt`: a restart lowers the height that later
ones have to get below, any other step that passes no character uses up an empty match or, when none
is left, a mode of the stack.

How often a line is restarted rests on the height alone. From the first restart on, the restarts so
far and the height that the next one has to get below add up to no more than the height of the stack
at the first one (`restartCount_add_floor_le`), and that height never gets down to the bottom. What
is pushed in between does not matter.
-/

namespace ModeLexer.RuleTable

open Text

variable {t : RuleTable} {number : Nat} {stack : ModeStack} {line : List Char}

/-- How many of the first `n` steps honour a rematch. -/
def restartCount (t : RuleTable) (number : Nat) (stack : ModeStack) (line : List Char)
    (n : Nat) : Nat :=
  Nat.count (fun i ↦ t.restartsAt number stack line i) n

theorem restartCount_succ (n : Nat) : t.restartCount number stack line (n + 1) =
    t.restartCount number stack line n + if t.restartsAt number stack line n then 1 else 0 :=
  Nat.count_succ _ n

/-- Before the first restart there is none to count. -/
theorem restartCount_eq_zero {n : Nat}
    (h : ∀ i < n, t.restartsAt number stack line i = false) :
    t.restartCount number stack line n = 0 :=
  Nat.count_iff_forall_not.2 fun i hi ↦ by simp [h i hi]

/-- A restart leaves a mode above the bottom to get below, and takes the height below every earlier
one. -/
theorem floor_stage_of_restartsAt {n : Nat} (h : t.restartsAt number stack line n) :
    ∃ f, (t.stage number stack line (n + 1)).floor = some f ∧ 1 ≤ f ∧
      f + 1 = (t.stage number stack line n).stack.depth ∧
      ∀ f', (t.stage number stack line n).floor = some f' → f < f' := by
  obtain ⟨-, r, m, -, -, hhon⟩ := Progress.restarts_iff.1 h
  have hpop := ModeStack.depth_pop (Progress.canPop_of_honoursRematch hhon)
  refine ⟨(t.stage number stack line n).stack.pop.depth, ?_, Nat.le_add_left _ _, hpop,
    fun f' hf' ↦ ?_⟩
  · rw [stage_succ, Progress.floor_next_of_restarts h]
  · rw [Progress.honoursRematch, hf', Bool.and_eq_true] at hhon
    have hlt : (t.stage number stack line n).stack.depth - 1 < f' := by simpa using hhon.2
    omega

/-- From the first restart on, the restarts so far and the height to get below add up to no more
than the height at the first one. -/
theorem restartCount_add_floor_le {first : Nat} (hfirst : t.restartsAt number stack line first)
    (hbefore : ∀ i < first, t.restartsAt number stack line i = false) {n : Nat} (hn : first < n) :
    ∃ f, (t.stage number stack line n).floor = some f ∧ 1 ≤ f ∧
      t.restartCount number stack line n + f ≤ (t.stage number stack line first).stack.depth := by
  induction n, hn using Nat.le_induction with
  | base =>
    obtain ⟨f, hfloor, hpos, hdepth, -⟩ := floor_stage_of_restartsAt hfirst
    refine ⟨f, hfloor, hpos, ?_⟩
    rw [restartCount_succ, restartCount_eq_zero hbefore, if_pos hfirst]
    omega
  | succ n _ ih =>
    -- a restart adds one to the count and takes one or more off the height
    obtain ⟨f, hfloor, hpos, hle⟩ := ih
    by_cases hre : t.restartsAt number stack line n
    · obtain ⟨f', hfloor', hpos', -, hlt⟩ := floor_stage_of_restartsAt hre
      have := hlt f hfloor
      refine ⟨f', hfloor', hpos', ?_⟩
      rw [restartCount_succ, if_pos hre]
      omega
    · refine ⟨f, ?_, hpos, ?_⟩
      · rw [stage_succ, Progress.floor_next_of_not_restarts (by simpa [restartsAt] using hre),
          hfloor]
      · rwa [restartCount_succ, if_neg hre]

/-- The restarts of a line are fewer than the modes on the stack at the first of them. -/
theorem restartCount_le {first : Nat} (hfirst : t.restartsAt number stack line first)
    (hbefore : ∀ i < first, t.restartsAt number stack line i = false) (n : Nat) :
    t.restartCount number stack line n ≤ (t.stage number stack line first).stack.depth - 1 := by
  rcases Nat.lt_or_ge first n with hlt | hge
  · obtain ⟨f, -, hpos, hle⟩ := restartCount_add_floor_le hfirst hbefore hlt
    omega
  · rw [restartCount_eq_zero fun i hi ↦ hbefore i (by omega)]
    exact Nat.zero_le _

/-- **Termination.** The loop of a scan stops, with the cursor at the end of the line; and if it
restarts the line at all, it does so fewer times than there are modes on the stack when it first
does. -/
theorem scan_terminates (t : RuleTable) (s : ScanState) (number : Nat) (line : String) :
    ∃ n, (∀ i < n, (t.stage number s.stack line.toList i).cursor < byteLength line.toList) ∧
      (t.stage number s.stack line.toList n).cursor = byteLength line.toList ∧
      t.scanLine s number line = (t.stage number s.stack line.toList n).result ∧
      ∀ first, t.restartsAt number s.stack line.toList first →
        (∀ i < first, t.restartsAt number s.stack line.toList i = false) →
        t.restartCount number s.stack line.toList n ≤
          (t.stage number s.stack line.toList first).stack.depth - 1 := by
  obtain ⟨n, hn, hbefore⟩ := t.exists_stage_rest_eq_nil number s.stack line.toList
  refine ⟨n, fun i hi ↦ ?_, ?_, scanChars_eq_result hn, fun first hfirst hnot ↦ ?_⟩
  · have hline : (t.stage number s.stack line.toList i).InLine line.toList := inLine_stage i
    have hne : (t.stage number s.stack line.toList i).cursor ≠ byteLength line.toList :=
      fun heq ↦ hbefore i hi (hline.rest_eq_nil_iff.2 heq)
    exact Nat.lt_of_le_of_ne hline.cursor_le hne
  · exact (inLine_stage n).rest_eq_nil_iff.1 hn
  · exact restartCount_le hfirst hnot n

/-- A table whose second mode rematches wherever it is. -/
def leaving : RuleTable where
  language := "leaving"
  modes := [⟨"root", []⟩, ⟨"leave", [{
    pattern := {
      source := "", regex := ⟨.seq (.look .textStart) .empty, 0⟩, lineStartOnly := false
      hasLookahead := false }
    emission := .whole "", action := .rematch }]⟩]
  base := 0
  defaultToken := "other"

/-- The bound is attained. -/
example : leaving.restartCount 0 ⟨0, [1, 1]⟩ ['x'] 3 = 2 := by cbv

end ModeLexer.RuleTable
