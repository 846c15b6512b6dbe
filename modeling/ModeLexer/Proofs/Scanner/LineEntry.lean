import ModeLexer.Proofs.Scanner.Choice
import ModeLexer.Proofs.Scanner.Reentry
import ModeLexer.Proofs.Scanner.StackRun

/-!
# Lines that are entered in the base mode

A language can be written so that operands have a mode of their own which does not outlive its
line: the next line begins with a rematch into the base mode. If rematches are only tried at the
start of a line, and the base mode takes a character whenever it pushes (`RuleTable.EntersAtBase`),
a line that is scanned with the base mode tries no rematch at all (`EntersAtBase.rematches_stage`).
So the bound that the rematch at its start leaves behind is of no account, and the line is scanned
as if the operand mode had not been there (`EntersAtBase.outcome_scanChars`). Neither does the
number of a line matter, apart from the number in its tokens (`places_scanChars`).
-/

namespace ModeLexer

/-- A token without the number of its line. -/
def Token.place (k : Token) : String × Span := (k.cls, k.span)

namespace Progress

variable {t : RuleTable} {number number' : Nat} {line : List Char} {p q : Progress}

/-! ### The number of a line -/

/-- Whether two scans are the same, the number of the line and what is reported apart. -/
structure Alike (p q : Progress) : Prop where
  stack : p.stack = q.stack
  cursor : p.cursor = q.cursor
  rest : p.rest = q.rest
  floor : p.floor = q.floor
  zeroWidthSteps : p.zeroWidthSteps = q.zeroWidthSteps
  places : p.tokens.map Token.place = q.tokens.map Token.place

theorem Alike.eq_with (h : p.Alike q) :
    { p with tokens := q.tokens, notices := q.notices } = q := by
  obtain ⟨hstack, hcursor, hrest, hfloor, hsteps, -⟩ := h
  rw [hstack, hcursor, hrest, hfloor, hsteps]

theorem Alike.firstMatch?_eq (h : p.Alike q) : p.firstMatch? t = q.firstMatch? t := by
  rw [← h.eq_with]
  rfl

theorem Alike.restarts_eq (h : p.Alike q) : p.restarts t = q.restarts t := by
  rw [restarts, restarts, rematches, rematches, honoursRematch, honoursRematch, h.rest, h.stack,
    h.floor, h.firstMatch?_eq]

theorem Alike.next (h : p.Alike q) : (p.next t number line).Alike (q.next t number' line) := by
  cases hq : q.restarts t with
  | true =>
    rw [next_of_restarts (h.restarts_eq.trans hq), next_of_restarts hq]
    exact ⟨congrArg ModeStack.pop h.stack, rfl, rfl, by rw [restart, restart, h.stack], rfl, rfl⟩
  | false =>
    cases hrest : q.rest with
    | nil =>
      rw [next_of_rest_eq_nil (h.rest.trans hrest), next_of_rest_eq_nil hrest]
      exact h
    | cons c rest =>
      rw [next_of_not_restarts (h.restarts_eq.trans hq) (h.rest.trans hrest),
        next_of_not_restarts hq hrest, h.firstMatch?_eq]
      have hplaces := h.places
      rw [← h.eq_with]
      cases firstMatch? t _ with
      | none => exact ⟨rfl, rfl, rfl, rfl, rfl, by simp [passCharacter, hplaces, Token.place]⟩
      | some found =>
        refine ⟨rfl, rfl, rfl, rfl, rfl, ?_⟩
        simp [applyRule, hplaces, Token.place, Function.comp_def]

theorem Alike.iterate (h : p.Alike q) (n : Nat) :
    ((Progress.next t number line)^[n] p).Alike ((Progress.next t number' line)^[n] q) := by
  induction n with
  | zero => exact h
  | succ n ih =>
    rw [Function.iterate_succ_apply', Function.iterate_succ_apply']
    exact ih.next

theorem Agree.symm (h : p.Agree q) : q.Agree p :=
  ⟨h.stack.symm, h.cursor.symm, h.rest.symm, h.zeroWidthSteps.symm, h.tokens.symm⟩

end Progress

namespace RuleTable

variable {t : RuleTable} {number : Nat} {stack : ModeStack} {line : List Char}

/-- The number of a line matters for nothing but the number in its tokens. -/
theorem places_scanChars (t : RuleTable) (number number' : Nat) (stack : ModeStack)
    (line : List Char) :
    (t.scanChars number stack line).tokens.map Token.place =
        (t.scanChars number' stack line).tokens.map Token.place ∧
      (t.scanChars number stack line).state = (t.scanChars number' stack line).state := by
  obtain ⟨n, hn, -⟩ := t.exists_stage_rest_eq_nil number stack line
  have halike : (t.stage number stack line n).Alike (t.stage number' stack line n) :=
    Progress.Alike.iterate ⟨rfl, rfl, rfl, rfl, rfl, rfl⟩ n
  rw [scanChars_eq_result hn, scanChars_eq_result (halike.rest.symm.trans hn)]
  refine ⟨?_, ?_⟩
  · simp [Progress.result, halike.places]
  · simp only [Progress.result, halike.stack, halike.cursor]

/-! ### Rematches at the start of a line -/

/-- Whether rematches are tried at the start of a line only, and the base mode takes a character
whenever it pushes. -/
structure EntersAtBase (t : RuleTable) : Prop where
  lineStartOnly : ∀ id, ∀ r ∈ t.rulesOf id, r.action = .rematch → r.pattern.lineStartOnly
  consumes : ∀ r ∈ t.rulesOf t.base, ∀ m, r.action = .push m →
    r.pattern.isAnchored ∧ r.pattern.regex.program.consumes

/-- With nothing on the base mode, what can be used takes something. -/
theorem EntersAtBase.isEmpty_eq_false (ht : t.EntersAtBase) {p : Progress} {r : Rule}
    {m : PatternMatch} (hmatch : p.firstMatch? t = some (r, m)) (hbottom : p.stack.bottom = t.base)
    (habove : p.stack.above = []) : m.span.isEmpty = false := by
  obtain ⟨hmem, hrest, husable⟩ := Progress.matchRest_of_firstMatch? hmatch
  have hpop : p.stack.canPop = false := by simp [ModeStack.canPop, habove]
  rw [ModeStack.active, habove, List.headD_nil, hbottom] at hmem
  cases haction : r.action with
  | push target =>
    obtain ⟨hanchored, hconsumes⟩ := ht.consumes r hmem target haction
    exact Pattern.isEmpty_span_eq_false hanchored hconsumes hrest
  | stay | pop | rematch | switchTo =>
    simpa [Progress.isUsable, ModeStack.changedBy, haction, hpop] using husable

/-- A step that leaves the cursor at the start of the line leaves nothing on the base mode. -/
theorem EntersAtBase.above_of_step (ht : t.EntersAtBase) {p p' : Progress} (hline : p.InLine line)
    (hbottom : p.stack.bottom = t.base) (habove : p.cursor = 0 → p.stack.above = [])
    (hstep : Progress.Step t number line p p') (hcursor : p'.cursor = 0) : p'.stack.above = [] := by
  cases hstep with
  | @pass c rest hrest hnone =>
    have hpos := c.utf8Size_pos
    have hsum : p.cursor + c.utf8Size = 0 := hcursor
    omega
  | restart hrest hmatch hrematch hhonoured =>
    -- the rematch is at the start of the line, where it has nothing to leave
    obtain ⟨hmem, hmatched, -⟩ := Progress.matchRest_of_firstMatch? hmatch
    have hstart := Pattern.eq_zero_of_matchRest (ht.lineStartOnly _ _ hmem hrematch) hmatched
    have hpop := Progress.canPop_of_honoursRematch hhonoured
    simp [ModeStack.canPop, habove hstart] at hpop
  | @apply r m hrest hmatch hnot =>
    have hle := (Progress.usable_of_firstMatch? hmatch).2
    have hfits := (hline.fits hmatch).1.start_le_stop
    have hstop : m.span.stop = 0 := hcursor
    have hempty := ht.isEmpty_eq_false hmatch hbottom (habove (by omega))
    simp [Span.isEmpty, hstop] at hempty

/-- At the start of a line that begins with the base mode alone, nothing is on it. -/
theorem EntersAtBase.above_stage (ht : t.EntersAtBase) (n : Nat)
    (hcursor : (t.stage number ⟨t.base, []⟩ line n).cursor = 0) :
    (t.stage number ⟨t.base, []⟩ line n).stack.above = [] := by
  induction n with
  | zero => rfl
  | succ n ih =>
    rw [stage_succ] at hcursor ⊢
    by_cases hrest : (t.stage number ⟨t.base, []⟩ line n).rest = []
    · rw [Progress.next_of_rest_eq_nil hrest] at hcursor ⊢
      exact ih hcursor
    · exact ht.above_of_step (inLine_stage n) ((t.keeps_bottom t.base).stage rfl n) ih
        (Progress.step_next hrest) hcursor

/-- A line that begins with the base mode alone tries no rematch. -/
theorem EntersAtBase.rematches_stage (ht : t.EntersAtBase) (n : Nat) :
    (t.stage number ⟨t.base, []⟩ line n).rematches t = false := by
  by_contra hre
  obtain ⟨-, hpop, r, m, hmatch, hrematch⟩ :=
    Progress.rematches_iff.1 (eq_true_of_ne_false hre)
  obtain ⟨hmem, hmatched, -⟩ := Progress.matchRest_of_firstMatch? hmatch
  have hstart := Pattern.eq_zero_of_matchRest (ht.lineStartOnly _ _ hmem hrematch) hmatched
  simp [ModeStack.canPop, ht.above_stage n hstart] at hpop

/-- A line that begins with a rematch into the base mode comes to what it comes to with the base
mode in the first place. -/
theorem EntersAtBase.outcome_scanChars (ht : t.EntersAtBase) (hpop : stack.pop = ⟨t.base, []⟩)
    (h : t.restartsAt number stack line 0) :
    (t.scanChars number stack line).outcome =
      (t.scanChars number ⟨t.base, []⟩ line).outcome := by
  have hagree : (t.stage number stack line 1).Agree (.start ⟨t.base, []⟩ line) := by
    rw [stage_succ, ← hpop]
    exact Progress.agree_start_of_restarts h
  rw [scanChars, ← Progress.run_iterate 1]
  refine Progress.outcome_run_eq fun n ↦ Progress.Agree.symm ?_
  exact (hagree.symm.iterate_of_not_rematches fun k _ ↦ ht.rematches_stage k).1

end RuleTable

end ModeLexer
