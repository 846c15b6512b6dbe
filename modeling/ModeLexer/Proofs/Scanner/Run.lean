import Mathlib.Logic.Function.Iterate
import ModeLexer.Proofs.Pattern.MatchSpan
import ModeLexer.Scanner.Line

/-!
# The run of a scan

`Progress.run` is taken apart here once, for all that is said about scans elsewhere.

* `Progress.Step` is what a single step can do, guards included: a character is passed, the line is
  started again, or a rule is applied. What a scan preserves is shown by cases on it.
* `Progress.next` is the step as a total function, which rests at the end of the line, and
  `RuleTable.stage` is the scan after a number of steps. Every scan comes to the end of its line
  (`exists_stage_rest_eq_nil`), and any stage at which it has is its result
  (`scanChars_eq_result`).
* `Progress.InLine` is the invariant that what is left of the line is what stands behind the cursor.
  It needs nothing of the table.
* `restarts` and `demotes` tell at which stages a rematch is honoured, and at which it counts as a
  pop.
-/

namespace ModeLexer

open Text

namespace Progress

/-! ### Steps -/

/-- What one step of a scan can do. -/
inductive Step (t : RuleTable) (number : Nat) (line : List Char) : Progress → Progress → Prop
  | pass {p : Progress} {c : Char} {rest : List Char} (hrest : p.rest = c :: rest)
      (hnone : p.firstMatch? t = none) : Step t number line p (p.passCharacter t number c rest)
  | restart {p : Progress} {r : Rule} {m : PatternMatch} (hrest : p.rest ≠ [])
      (hmatch : p.firstMatch? t = some (r, m)) (hrematch : r.action = .rematch)
      (hhonoured : p.honoursRematch) : Step t number line p (p.restart t number line)
  | apply {p : Progress} {r : Rule} {m : PatternMatch} (hrest : p.rest ≠ [])
      (hmatch : p.firstMatch? t = some (r, m))
      (hnot : ¬(r.action = .rematch ∧ p.honoursRematch)) :
      Step t number line p (p.applyRule t number r m)

/-- The scan one step later; at the end of the line it stays as it is. -/
def next (t : RuleTable) (number : Nat) (line : List Char) (p : Progress) : Progress :=
  match p.rest with
  | [] => p
  | c :: rest => p.step t number line c rest

variable {t : RuleTable} {number : Nat} {line : List Char} {p : Progress}

/-- At the end of the line a scan rests. -/
theorem next_of_rest_eq_nil (h : p.rest = []) : p.next t number line = p := by
  unfold next
  rw [h]

/-- Before the end of the line the total step is one of the steps that there are. -/
theorem step_next (h : p.rest ≠ []) : Step t number line p (p.next t number line) := by
  unfold next
  split
  · next hnil => exact absurd hnil h
  · next c rest hrest =>
    unfold step
    split
    · next hnone => exact .pass hrest hnone
    · next r m hmatch =>
      split
      · next hre => exact .restart h hmatch hre.1 hre.2
      · next hnot => exact .apply h hmatch hnot

/-! ### The run as an iteration -/

/-- At the end of the line there is nothing to run. -/
theorem run_of_rest_eq_nil (h : p.rest = []) : p.run t number line = p := by
  rw [run.eq_def]
  split
  · rfl
  · next hcons => simp [h] at hcons

/-- Before the end of the line a run takes one step and goes on. -/
theorem run_of_rest_eq_cons {c : Char} {rest : List Char} (h : p.rest = c :: rest) :
    p.run t number line = (p.step t number line c rest).run t number line := by
  rw [run.eq_def t number line p]
  split
  · next hnil => simp [h] at hnil
  · next hcons =>
    obtain ⟨rfl, rfl⟩ := List.cons.inj (h.symm.trans hcons)
    rfl

/-- A run is not changed by taking its first step beforehand. -/
theorem run_next : (p.next t number line).run t number line = p.run t number line := by
  cases h : p.rest with
  | nil => rw [next_of_rest_eq_nil h]
  | cons c rest => rw [run_of_rest_eq_cons h, next, h]

/-- A run is not changed by taking some of its steps beforehand. -/
theorem run_iterate (n : Nat) :
    ((next t number line)^[n] p).run t number line = p.run t number line := by
  induction n with
  | zero => rfl
  | succ n ih => rw [Function.iterate_succ_apply', run_next, ih]

/-- A run is the iteration up to any point at which nothing is left of the line. -/
theorem run_eq_iterate {n : Nat} (h : ((next t number line)^[n] p).rest = []) :
    p.run t number line = (next t number line)^[n] p := by
  rw [← run_iterate n, run_of_rest_eq_nil h]

/-- A scan comes to the end of its line, and it does so at a first stage. -/
theorem exists_iterate_rest_eq_nil (t : RuleTable) (number : Nat) (line : List Char)
    (p : Progress) :
    ∃ n, ((next t number line)^[n] p).rest = [] ∧
      ∀ i < n, ((next t number line)^[i] p).rest ≠ [] := by
  -- every step brings the measure down, so the induction is that of the run itself
  induction p using run.induct t number line with
  | case1 p hrest => exact ⟨0, hrest, by simp⟩
  | case2 p c rest hrest ih =>
    have hnext : p.next t number line = p.step t number line c rest := by
      simp only [next, hrest]
    obtain ⟨n, hn, hbefore⟩ := ih
    rw [← hnext] at hn hbefore
    refine ⟨n + 1, by rwa [Function.iterate_succ_apply], fun i hi ↦ ?_⟩
    cases i with
    | zero => simp [hrest]
    | succ i =>
      rw [Function.iterate_succ_apply]
      exact hbefore i (by omega)

/-! ### Where a rule matches -/

/-- A match that is found comes from a rule of the active mode and can be used. -/
theorem matchRest_of_firstMatch? {r : Rule} {m : PatternMatch}
    (h : p.firstMatch? t = some (r, m)) :
    r ∈ t.rulesOf p.stack.active ∧ r.pattern.matchRest p.cursor p.rest = some m ∧
      p.isUsable r.action m := by
  obtain ⟨r', hmem, h⟩ := List.exists_of_findSome?_eq_some h
  split at h
  · next m' hmatch =>
    split at h
    · next husable =>
      simp only [Option.some.injEq, Prod.mk.injEq] at h
      obtain ⟨rfl, rfl⟩ := h
      exact ⟨hmem, hmatch, husable⟩
    · simp at h
  · simp at h

/-- The action of the rule that is chosen is one of the active mode. -/
theorem action_mem_of_firstMatch? {r : Rule} {m : PatternMatch}
    (h : p.firstMatch? t = some (r, m)) : r.action ∈ t.actionsOf p.stack.active :=
  List.mem_map_of_mem (matchRest_of_firstMatch? h).1

/-- Whether what is left of a line is what stands behind the cursor. -/
def InLine (line : List Char) (p : Progress) : Prop :=
  ∃ before, before ++ p.rest = line ∧ byteLength before = p.cursor

/-- Before the first character all of the line is left. -/
theorem inLine_start (stack : ModeStack) (line : List Char) : (start stack line).InLine line :=
  ⟨[], rfl, rfl⟩

/-- The cursor is at a boundary of the line. -/
theorem InLine.isBoundary (h : p.InLine line) : IsBoundary line p.cursor := by
  obtain ⟨before, happ, hlen⟩ := h
  exact ⟨before, p.rest, happ, hlen⟩

/-- The cursor is never behind the end of the line. -/
theorem InLine.cursor_le (h : p.InLine line) : p.cursor ≤ byteLength line := h.isBoundary.le

/-- Nothing is left exactly at the end of the line. -/
theorem InLine.rest_eq_nil_iff (h : p.InLine line) :
    p.rest = [] ↔ p.cursor = byteLength line := by
  obtain ⟨before, happ, hlen⟩ := h
  rw [← happ, byteLength_append, hlen, ← byteLength_eq_zero_iff]
  omega

/-- What is left behind a later boundary of the line. -/
theorem InLine.restAt (h : p.InLine line) {offset : Nat} (hb : IsBoundary line offset)
    (hle : p.cursor ≤ offset) :
    ∃ before, before ++ p.restAt offset = line ∧ byteLength before = offset := by
  obtain ⟨before, happ, hlen⟩ := h
  obtain ⟨before', rest', happ', hlen'⟩ := hb
  obtain ⟨mid, rfl, hrest⟩ := exists_middle (happ.trans happ'.symm) (by omega)
  have hsub : offset - p.cursor = byteLength mid := by
    rw [byteLength_append] at hlen'
    omega
  have hat : p.restAt offset = rest' := by
    rw [Progress.restAt, hsub, hrest, splitAt?_byteLength]
  exact ⟨before ++ mid, by rw [hat, happ'], hlen'⟩

/-- A match that is found fits the line, and so do its groups. -/
theorem InLine.fits (h : p.InLine line) {r : Rule} {m : PatternMatch}
    (hmatch : p.firstMatch? t = some (r, m)) :
    m.span.Fits line ∧ ∀ g, some g ∈ m.groups → g.Fits line := by
  obtain ⟨before, rfl, hlen⟩ := h
  obtain ⟨-, hrest, -⟩ := matchRest_of_firstMatch? hmatch
  rw [← hlen] at hrest
  exact Pattern.fits_of_matchRest hrest

/-- Every step keeps the cursor in its place. -/
theorem InLine.step {p' : Progress} (h : p.InLine line) (hstep : Step t number line p p') :
    p'.InLine line := by
  cases hstep with
  | @pass c rest hrest hnone =>
    rw [InLine, hrest] at h
    exact exists_before_next h
  | restart => exact ⟨[], rfl, rfl⟩
  | apply hrest hmatch hnot =>
    have hfits := (h.fits hmatch).1
    have hle := (usable_of_firstMatch? hmatch).2
    exact h.restAt hfits.stop (Nat.le_trans hle hfits.start_le_stop)

/-! ### Rematches -/

/-- Whether a rematch is tried at the cursor while a mode is beneath. -/
def rematches (t : RuleTable) (p : Progress) : Bool :=
  !p.rest.isEmpty && p.stack.canPop && (p.firstMatch? t).any fun (r, _) ↦ r.action = .rematch

/-- Whether a rematch starts the line again. -/
def restarts (t : RuleTable) (p : Progress) : Bool := p.rematches t && p.honoursRematch

/-- Whether a rematch counts as a pop. -/
def demotes (t : RuleTable) (p : Progress) : Bool := p.rematches t && !p.honoursRematch

/-- A rematch is tried where the first rule that matches is one and a mode is beneath. -/
theorem rematches_iff :
    p.rematches t ↔ p.rest ≠ [] ∧ p.stack.canPop ∧
      ∃ r m, p.firstMatch? t = some (r, m) ∧ r.action = .rematch := by
  unfold rematches
  cases p.firstMatch? t with
  | none => simp
  | some found =>
    obtain ⟨r, m⟩ := found
    simp [and_assoc]

/-- A rematch is honoured only over a mode. -/
theorem canPop_of_honoursRematch (h : p.honoursRematch) : p.stack.canPop := by
  rw [honoursRematch, Bool.and_eq_true] at h
  exact h.1

/-- The line is started again by the first rule that matches, if it is a rematch that is
honoured. -/
theorem restarts_iff :
    p.restarts t ↔ p.rest ≠ [] ∧
      ∃ r m, p.firstMatch? t = some (r, m) ∧ r.action = .rematch ∧ p.honoursRematch := by
  unfold restarts
  rw [Bool.and_eq_true, rematches_iff]
  constructor
  · rintro ⟨⟨hrest, -, r, m, hmatch, hre⟩, hhon⟩
    exact ⟨hrest, r, m, hmatch, hre, hhon⟩
  · rintro ⟨hrest, r, m, hmatch, hre, hhon⟩
    exact ⟨⟨hrest, canPop_of_honoursRematch hhon, r, m, hmatch, hre⟩, hhon⟩

/-- Only a rematch starts the line again. -/
theorem not_restarts_of_not_rematches (h : p.rematches t = false) : p.restarts t = false := by
  rw [restarts, h, Bool.false_and]

/-- A rematch that is honoured starts the line again. -/
theorem next_of_restarts (h : p.restarts t) :
    p.next t number line = p.restart t number line := by
  obtain ⟨hrest, r, m, hmatch, hre, hhon⟩ := restarts_iff.1 h
  unfold next
  split
  · next hnil => exact absurd hnil hrest
  · simp [step, hmatch, hre, hhon]

/-- Later rematches have to get below the stack that an honoured one leaves. -/
theorem floor_next_of_restarts (h : p.restarts t) :
    (p.next t number line).floor = some p.stack.pop.depth := by
  obtain ⟨-, -, -, -, -, hhon⟩ := restarts_iff.1 h
  have hdepth := ModeStack.depth_pop (canPop_of_honoursRematch hhon)
  rw [next_of_restarts h, ← Nat.add_one_sub_one p.stack.pop.depth, hdepth]
  rfl

/-- A step that does not start the line again passes a character or applies a rule. -/
theorem next_of_not_restarts (h : p.restarts t = false) {c : Char} {rest : List Char}
    (hrest : p.rest = c :: rest) :
    p.next t number line =
      match p.firstMatch? t with
      | none => p.passCharacter t number c rest
      | some (r, m) => p.applyRule t number r m := by
  have hstep : p.next t number line = p.step t number line c rest := by
    rw [next, hrest]
  rw [hstep, step]
  cases hmatch : p.firstMatch? t with
  | none => rfl
  | some found =>
    refine if_neg fun hre ↦ ?_
    have hrestarts : p.restarts t := restarts_iff.2 ⟨by simp [hrest], _, _, hmatch, hre⟩
    simp [h] at hrestarts

/-- A rule that is no rematch is applied. -/
theorem next_of_firstMatch? {r : Rule} {m : PatternMatch} (hrest : p.rest ≠ [])
    (hmatch : p.firstMatch? t = some (r, m)) (hne : r.action ≠ .rematch) :
    p.next t number line = p.applyRule t number r m := by
  obtain ⟨c, rest, hcons⟩ := List.exists_cons_of_ne_nil hrest
  simp only [next, hcons, step, hmatch, hne, false_and, if_false]

/-- Nothing but an honoured rematch moves the height that later ones have to get below. -/
theorem floor_next_of_not_restarts (h : p.restarts t = false) :
    (p.next t number line).floor = p.floor := by
  cases hrest : p.rest with
  | nil => rw [next_of_rest_eq_nil hrest]
  | cons c rest =>
    rw [next_of_not_restarts h hrest]
    split <;> rfl

end Progress

namespace RuleTable

/-- The scan of line `number` after `n` steps. -/
def stage (t : RuleTable) (number : Nat) (stack : ModeStack) (line : List Char) (n : Nat) :
    Progress :=
  (Progress.next t number line)^[n] (.start stack line)

/-- Whether the step after `n` steps honours a rematch. -/
def restartsAt (t : RuleTable) (number : Nat) (stack : ModeStack) (line : List Char)
    (n : Nat) : Bool :=
  (t.stage number stack line n).restarts t

/-- Whether the step after `n` steps takes a rematch for a pop. -/
def demotesAt (t : RuleTable) (number : Nat) (stack : ModeStack) (line : List Char)
    (n : Nat) : Bool :=
  (t.stage number stack line n).demotes t

variable {t : RuleTable} {number : Nat} {stack : ModeStack} {line : List Char}

@[simp] theorem stage_zero : t.stage number stack line 0 = .start stack line := rfl

theorem stage_succ (n : Nat) :
    t.stage number stack line (n + 1) =
      (t.stage number stack line n).next t number line :=
  Function.iterate_succ_apply' _ _ _

/-- From a stage on the scan is that of the stage. -/
theorem stage_add (m n : Nat) :
    t.stage number stack line (m + n) =
      (Progress.next t number line)^[n] (t.stage number stack line m) := by
  rw [stage, Nat.add_comm, Function.iterate_add_apply]
  rfl

/-- What the start of a line has and every step keeps, every stage has. -/
theorem stage_invariant {P : Progress → Prop} (hstart : P (.start stack line))
    (hstep : ∀ {p p' : Progress}, P p → Progress.Step t number line p p' → P p') (n : Nat) :
    P (t.stage number stack line n) := by
  induction n with
  | zero => exact hstart
  | succ n ih =>
    rw [stage_succ]
    by_cases hrest : (t.stage number stack line n).rest = []
    · rwa [Progress.next_of_rest_eq_nil hrest]
    · exact hstep ih (Progress.step_next hrest)

/-- At every stage what is left of the line is what stands behind the cursor. -/
theorem inLine_stage (n : Nat) : (t.stage number stack line n).InLine line :=
  stage_invariant (Progress.inLine_start stack line) Progress.InLine.step n

/-- Every scan comes to the end of its line. -/
theorem exists_stage_rest_eq_nil (t : RuleTable) (number : Nat) (stack : ModeStack)
    (line : List Char) :
    ∃ n, (t.stage number stack line n).rest = [] ∧
      ∀ i < n, (t.stage number stack line i).rest ≠ [] :=
  Progress.exists_iterate_rest_eq_nil t number line _

/-- Where nothing is left of the line, a scan rests. -/
theorem stage_eq_of_le {m n : Nat} (h : (t.stage number stack line m).rest = []) (hmn : m ≤ n) :
    t.stage number stack line n = t.stage number stack line m := by
  obtain ⟨k, rfl⟩ := Nat.exists_eq_add_of_le hmn
  rw [stage_add]
  exact Function.iterate_fixed (Progress.next_of_rest_eq_nil h) k

/-- A stage at which nothing is left of the line is the result of the scan. -/
theorem scanChars_eq_result {n : Nat} (h : (t.stage number stack line n).rest = []) :
    t.scanChars number stack line = (t.stage number stack line n).result := by
  rw [scanChars, Progress.run_eq_iterate h]
  rfl

/-- A stage at which nothing is left is the result of the scan of a line. -/
theorem scanLine_eq_result {s : ScanState} {line : String} {n : Nat}
    (h : (t.stage number s.stack line.toList n).rest = []) :
    t.scanLine s number line = (t.stage number s.stack line.toList n).result :=
  scanChars_eq_result h

end RuleTable

end ModeLexer
