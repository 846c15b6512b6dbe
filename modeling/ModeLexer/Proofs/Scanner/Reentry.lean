import Mathlib.Data.Nat.Find
import ModeLexer.Document.Tokenizer
import ModeLexer.Proofs.Document.Lines
import ModeLexer.Proofs.Scanner.Run
import ModeLexer.Table.Build

/-!
# Lines that are entered again

A rematch gives the line to the mode beneath, and one may ask for the same tokens as if that mode
had been given the line in the first place. The two scans stand at the same place (`Progress.Agree`)
and differ in one thing: after a rematch, later ones are honoured only below the height to which it
has brought the stack. So the line is scanned as by `rescan`, which has that bound from the start
(`outcome_scanChars_of_restartsAt`).

Whether it is scanned as directly is decided where a rematch is first taken for a pop. If that never
happens after the last rematch that is honoured, it is (`IsLastRestart.outcome_scanChars`). If it
does, the direct scan starts the line again there, with another bound
(`IsLastRestart.outcome_scanChars_of_isFirstDemotion`); the two come to the same if the stack
beneath is the same, and need not do so if it is not, as the table `ladder` shows.
-/

namespace ModeLexer

/-- What a scan comes to, apart from what it reports. -/
def LineScan.outcome (r : LineScan) : List Token × ScanState := (r.tokens, r.state)

namespace Progress

variable {t : RuleTable} {number : Nat} {line : List Char} {p q : Progress}

/-! ### Scans at the same place -/

/-- Whether two scans stand at the same place with the same tokens. What they have reported and how
low their rematches have to get may differ. -/
structure Agree (p q : Progress) : Prop where
  stack : p.stack = q.stack
  cursor : p.cursor = q.cursor
  rest : p.rest = q.rest
  zeroWidthSteps : p.zeroWidthSteps = q.zeroWidthSteps
  tokens : p.tokens = q.tokens

theorem Agree.trans {r : Progress} (hpq : p.Agree q) (hqr : q.Agree r) : p.Agree r :=
  ⟨hpq.stack.trans hqr.stack, hpq.cursor.trans hqr.cursor, hpq.rest.trans hqr.rest,
    hpq.zeroWidthSteps.trans hqr.zeroWidthSteps, hpq.tokens.trans hqr.tokens⟩

theorem Agree.eq_with (h : p.Agree q) : { p with floor := q.floor, notices := q.notices } = q := by
  obtain ⟨hstack, hcursor, hrest, hsteps, htokens⟩ := h
  rw [hstack, hcursor, hrest, hsteps, htokens]

/-- Which rule matches depends on the place alone. -/
theorem Agree.firstMatch?_eq (h : p.Agree q) : p.firstMatch? t = q.firstMatch? t := by
  rw [← h.eq_with]
  rfl

theorem Agree.rematches_eq (h : p.Agree q) : p.rematches t = q.rematches t := by
  rw [rematches, rematches, h.rest, h.stack, h.firstMatch?_eq]

theorem Agree.restarts_eq (h : p.Agree q) (hfloor : p.floor = q.floor) :
    p.restarts t = q.restarts t := by
  rw [restarts, restarts, h.rematches_eq, honoursRematch, honoursRematch, h.stack, hfloor]

theorem Agree.outcome_eq (h : p.Agree q) : p.result.outcome = q.result.outcome := by
  rw [← h.eq_with]
  rfl

/-- Scans at the same place stay so unless only one of them starts the line again. -/
theorem Agree.next (h : p.Agree q) (hrestarts : p.restarts t = q.restarts t) :
    (p.next t number line).Agree (q.next t number line) := by
  cases hq : q.restarts t with
  | true =>
    rw [next_of_restarts (hrestarts.trans hq), next_of_restarts hq]
    exact ⟨congrArg ModeStack.pop h.stack, rfl, rfl, rfl, rfl⟩
  | false =>
    cases hrest : q.rest with
    | nil =>
      rw [next_of_rest_eq_nil (h.rest.trans hrest), next_of_rest_eq_nil hrest]
      exact h
    | cons c rest =>
      rw [next_of_not_restarts (hrestarts.trans hq) (h.rest.trans hrest),
        next_of_not_restarts hq hrest, h.firstMatch?_eq, ← h.eq_with]
      cases firstMatch? t _ <;> exact ⟨rfl, rfl, rfl, rfl, rfl⟩

/-- Scans at the same place that have the same height to get below start the line again together,
and so have the same height to get below afterwards. -/
theorem Agree.floor_next_eq (h : p.Agree q) (hfloor : p.floor = q.floor) :
    (p.next t number line).floor = (q.next t number line).floor := by
  have hrestarts : p.restarts t = q.restarts t := h.restarts_eq hfloor
  cases hq : q.restarts t with
  | true =>
    rw [next_of_restarts (hrestarts.trans hq), next_of_restarts hq, restart, restart, h.stack]
  | false =>
    rw [floor_next_of_not_restarts (hrestarts.trans hq), floor_next_of_not_restarts hq, hfloor]

theorem Agree.iterate_of_floor_eq (h : p.Agree q) (hfloor : p.floor = q.floor) (n : Nat) :
    ((Progress.next t number line)^[n] p).Agree ((Progress.next t number line)^[n] q) ∧
      ((Progress.next t number line)^[n] p).floor =
        ((Progress.next t number line)^[n] q).floor := by
  induction n with
  | zero => exact ⟨h, hfloor⟩
  | succ n ih =>
    obtain ⟨hagree, hfloor⟩ := ih
    rw [Function.iterate_succ_apply', Function.iterate_succ_apply']
    exact ⟨hagree.next (hagree.restarts_eq hfloor), hagree.floor_next_eq hfloor⟩

/-- As long as one of two scans at the same place tries no rematch, they stay at the same place,
whatever they have to get below. -/
theorem Agree.iterate_of_not_rematches (h : p.Agree q) {n : Nat}
    (hnot : ∀ k < n, ((Progress.next t number line)^[k] p).rematches t = false) :
    ((Progress.next t number line)^[n] p).Agree ((Progress.next t number line)^[n] q) ∧
      ((Progress.next t number line)^[n] q).floor = q.floor := by
  induction n with
  | zero => exact ⟨h, rfl⟩
  | succ n ih =>
    obtain ⟨hagree, hfloor⟩ := ih fun k hk ↦ hnot k (by omega)
    have hp := hnot n (by omega)
    have hq := hagree.rematches_eq.symm.trans hp
    have hrestarts := not_restarts_of_not_rematches hq
    rw [Function.iterate_succ_apply', Function.iterate_succ_apply']
    exact ⟨hagree.next ((not_restarts_of_not_rematches hp).trans hrestarts.symm),
      (floor_next_of_not_restarts hrestarts).trans hfloor⟩

/-- Scans that stay at the same place come to the same. -/
theorem outcome_run_eq (h : ∀ n,
    ((Progress.next t number line)^[n] p).Agree ((Progress.next t number line)^[n] q)) :
    (p.run t number line).result.outcome = (q.run t number line).result.outcome := by
  obtain ⟨n, hn, -⟩ := exists_iterate_rest_eq_nil t number line p
  rw [run_eq_iterate hn, run_eq_iterate ((h n).rest.symm.trans hn)]
  exact (h n).outcome_eq

/-! ### Starting a line again -/

/-- The start of a line with a stack that its rematches have to get below. -/
def startAgain (stack : ModeStack) (line : List Char) : Progress :=
  { start stack line with floor := some stack.depth }

/-- A rematch that is honoured starts the line with the stack that it leaves. -/
theorem agree_start_of_restarts (h : p.restarts t) :
    (p.next t number line).Agree (start p.stack.pop line) := by
  rw [next_of_restarts h]
  exact ⟨rfl, rfl, rfl, rfl, rfl⟩

/-- Where nothing is to be got below, any rematch is honoured. -/
theorem restarts_of_rematches (h : p.rematches t) (hfloor : p.floor = none) : p.restarts t := by
  obtain ⟨-, hpop, -⟩ := rematches_iff.1 h
  rw [restarts, h, honoursRematch, hpop, hfloor]
  rfl

theorem outcome_run_of_restarts (h : p.restarts t) :
    (p.run t number line).result.outcome =
      ((startAgain p.stack.pop line).run t number line).result.outcome := by
  have hagree : (p.next t number line).Agree (startAgain p.stack.pop line) :=
    (agree_start_of_restarts h).trans ⟨rfl, rfl, rfl, rfl, rfl⟩
  rw [← run_next]
  exact outcome_run_eq fun n ↦ (hagree.iterate_of_floor_eq (floor_next_of_restarts h) n).1

/-- Where nothing is to be got below, a scan starts the line again at the first rematch of any scan
at the same place. -/
theorem Agree.outcome_run_of_first_rematch (h : p.Agree q) (hfloor : q.floor = none) {n : Nat}
    (hn : ((Progress.next t number line)^[n] p).rematches t)
    (hnot : ∀ k < n, ((Progress.next t number line)^[k] p).rematches t = false) {stack : ModeStack}
    (hstack : ((Progress.next t number line)^[n] p).stack.pop = stack) :
    (q.run t number line).result.outcome =
      ((startAgain stack line).run t number line).result.outcome := by
  obtain ⟨hagree, hnone⟩ := h.iterate_of_not_rematches hnot
  have hq : ((Progress.next t number line)^[n] q).restarts t :=
    restarts_of_rematches (hagree.rematches_eq.symm.trans hn) (hnone.trans hfloor)
  rw [← run_iterate n, outcome_run_of_restarts hq, ← hagree.stack, hstack]

end Progress

namespace RuleTable

variable {t : RuleTable} {number : Nat} {stack : ModeStack} {line : List Char}

/-! ### The last rematch of a line -/

/-- Scans the characters of a line as after a rematch that has left `stack`. -/
def rescan (t : RuleTable) (number : Nat) (stack : ModeStack) (line : List Char) : LineScan :=
  ((Progress.startAgain stack line).run t number line).result

/-- Whether a stage is the last one at which a rematch is honoured. -/
def IsLastRestart (t : RuleTable) (number : Nat) (stack : ModeStack) (line : List Char)
    (i : Nat) : Prop :=
  t.restartsAt number stack line i ∧ ∀ j, i < j → t.restartsAt number stack line j = false

/-- Whether a stage is the first one after another at which a rematch is taken for a pop. -/
def IsFirstDemotion (t : RuleTable) (number : Nat) (stack : ModeStack) (line : List Char)
    (i k : Nat) : Prop :=
  i < k ∧ t.demotesAt number stack line k ∧
    ∀ j, i < j → j < k → t.demotesAt number stack line j = false

theorem IsLastRestart.unique {i j : Nat} (hi : t.IsLastRestart number stack line i)
    (hj : t.IsLastRestart number stack line j) : i = j := by
  rcases Nat.lt_trichotomy i j with hlt | heq | hgt
  · exact absurd hj.1 (by simp [hi.2 j hlt])
  · exact heq
  · exact absurd hi.1 (by simp [hj.2 i hgt])

/-- At the end of the line no rematch is tried. -/
theorem rematches_stage_of_le {m n : Nat} (h : (t.stage number stack line m).rest = [])
    (hmn : m ≤ n) : (t.stage number stack line n).rematches t = false := by
  rw [stage_eq_of_le h hmn, Progress.rematches, h]
  rfl

theorem restartsAt_of_le {m n : Nat} (h : (t.stage number stack line m).rest = [])
    (hmn : m ≤ n) : t.restartsAt number stack line n = false :=
  Progress.not_restarts_of_not_rematches (rematches_stage_of_le h hmn)

theorem IsFirstDemotion.lt {i k n : Nat} (hk : t.IsFirstDemotion number stack line i k)
    (h : (t.stage number stack line n).rest = []) : k < n := by
  by_contra hge
  have hdemotes := hk.2.1
  rw [demotesAt, Progress.demotes, rematches_stage_of_le h (by omega)] at hdemotes
  simp at hdemotes

/-- Only what comes before the end of the line can be a later restart. -/
theorem isLastRestart_of_rest_eq_nil {i n : Nat} (hi : t.restartsAt number stack line i)
    (h : (t.stage number stack line n).rest = [])
    (hbetween : ∀ j, i < j → j < n → t.restartsAt number stack line j = false) :
    t.IsLastRestart number stack line i := by
  refine ⟨hi, fun j hij ↦ ?_⟩
  rcases Nat.lt_or_ge j n with hlt | hge
  · exact hbetween j hij hlt
  · exact restartsAt_of_le h hge

/-- A line on which a rematch is honoured has a last one. -/
theorem exists_isLastRestart {i : Nat} (h : t.restartsAt number stack line i) :
    ∃ j, t.IsLastRestart number stack line j := by
  obtain ⟨n, hn, -⟩ := t.exists_stage_rest_eq_nil number stack line
  have hi : i ≤ n := by
    by_contra hlt
    exact absurd h (by simp [restartsAt_of_le hn (Nat.le_of_not_le hlt)])
  refine ⟨Nat.findGreatest (fun j ↦ t.restartsAt number stack line j) n,
    isLastRestart_of_rest_eq_nil
      (Nat.findGreatest_spec (P := fun j ↦ t.restartsAt number stack line j) hi h) hn
      fun j hj hlt ↦ ?_⟩
  exact Bool.eq_false_iff.2 (Nat.findGreatest_is_greatest hj (Nat.le_of_lt hlt))

/-- After the last restart a rematch that is tried is taken for a pop. -/
theorem IsLastRestart.rematches_eq {i : Nat} (h : t.IsLastRestart number stack line i) {j : Nat}
    (hj : i < j) :
    (t.stage number stack line j).rematches t = t.demotesAt number stack line j := by
  have hnot := h.2 j hj
  rw [restartsAt, Progress.restarts] at hnot
  rw [demotesAt, Progress.demotes]
  cases hre : (t.stage number stack line j).rematches t with
  | false => rfl
  | true =>
    rw [hre, Bool.true_and] at hnot
    rw [hnot]
    rfl

/-! ### What the line comes to -/

theorem stack_stage_succ {i : Nat} (h : t.restartsAt number stack line i) :
    (t.stage number stack line (i + 1)).stack = (t.stage number stack line i).stack.pop := by
  rw [stage_succ]
  exact (Progress.agree_start_of_restarts h).stack

/-- From a rematch on, a line is scanned with the stack that it leaves as the bound of later
ones. -/
theorem outcome_scanChars_of_restartsAt {i : Nat} (h : t.restartsAt number stack line i) :
    (t.scanChars number stack line).outcome =
      (t.rescan number (t.stage number stack line (i + 1)).stack line).outcome := by
  rw [scanChars, ← Progress.run_iterate i, stack_stage_succ h]
  exact Progress.outcome_run_of_restarts h

theorem IsLastRestart.agree_start {i : Nat} (h : t.IsLastRestart number stack line i) :
    (t.stage number stack line (i + 1)).Agree
      (.start (t.stage number stack line (i + 1)).stack line) := by
  rw [stack_stage_succ h.1, stage_succ]
  exact Progress.agree_start_of_restarts h.1

/-- If no rematch is taken for a pop after the last one that is honoured, the bound is of no
account. -/
theorem IsLastRestart.outcome_scanChars {i : Nat} (h : t.IsLastRestart number stack line i)
    (hnot : ∀ k, i < k → t.demotesAt number stack line k = false) :
    (t.scanChars number stack line).outcome =
      (t.scanChars number (t.stage number stack line (i + 1)).stack line).outcome := by
  have hnone : ∀ n, ((Progress.next t number line)^[n]
      (t.stage number stack line (i + 1))).rematches t = false := fun n ↦ by
    rw [← stage_add, h.rematches_eq (by omega)]
    exact hnot (i + 1 + n) (by omega)
  rw [scanChars, ← Progress.run_iterate (i + 1)]
  exact Progress.outcome_run_eq fun n ↦
    (h.agree_start.iterate_of_not_rematches fun k _ ↦ hnone k).1

/-- Otherwise the direct scan starts the line again at the first of them, and the stack that it then
has is the bound from there on. -/
theorem IsLastRestart.outcome_scanChars_of_isFirstDemotion {i k : Nat}
    (h : t.IsLastRestart number stack line i) (hk : t.IsFirstDemotion number stack line i k) :
    (t.scanChars number (t.stage number stack line (i + 1)).stack line).outcome =
      (t.rescan number (t.stage number stack line k).stack.pop line).outcome := by
  obtain ⟨hik, hdemotes, hbefore⟩ := hk
  obtain ⟨n, rfl⟩ := Nat.exists_eq_add_of_le hik
  refine h.agree_start.outcome_run_of_first_rematch rfl (n := n) ?_ (fun m hm ↦ ?_) ?_
  · rw [← stage_add, h.rematches_eq (by omega), hdemotes]
  · rw [← stage_add, h.rematches_eq (by omega)]
    exact hbefore (i + 1 + m) (by omega) (by omega)
  · rw [← stage_add]

/-- If there is a rematch that is taken for a pop, there is a first one. -/
theorem exists_isFirstDemotion {i k : Nat} (hik : i < k)
    (hk : t.demotesAt number stack line k) :
    ∃ k, t.IsFirstDemotion number stack line i k := by
  have hex : ∃ k, i < k ∧ t.demotesAt number stack line k := ⟨k, hik, hk⟩
  obtain ⟨hlt, hdemotes⟩ := Nat.find_spec hex
  exact ⟨Nat.find hex, hlt, hdemotes, fun j hij hj ↦
    Bool.eq_false_iff.2 fun hdem ↦ Nat.find_min hex hj ⟨hij, hdem⟩⟩

/-- **Re-entry.** A line on which a rematch is honoured comes to the tokens and the state of
scanning it with the stack that the last one leaves, where rematches have to get below this stack.
It comes to those of scanning it directly with that stack unless a later rematch is taken for a pop,
the first of them with another stack beneath; the direct scan then has that one as its bound. -/
theorem rematch_reentry (t : RuleTable) (s : ScanState) (number : Nat) (line : String)
    (h : ∃ j, t.restartsAt number s.stack line.toList j) :
    ∃ i under, t.IsLastRestart number s.stack line.toList i ∧
      (t.stage number s.stack line.toList (i + 1)).stack = under ∧
      (t.scanLine s number line).outcome =
        (t.rescan number under line.toList).outcome ∧
      ((∀ k, t.IsFirstDemotion number s.stack line.toList i k →
          (t.stage number s.stack line.toList k).stack.pop = under) →
        (t.scanLine s number line).outcome = (t.scanLine ⟨under, 0⟩ number line).outcome) ∧
      ∀ k, t.IsFirstDemotion number s.stack line.toList i k →
        (t.scanLine ⟨under, 0⟩ number line).outcome =
          (t.rescan number (t.stage number s.stack line.toList k).stack.pop
            line.toList).outcome := by
  obtain ⟨j, hj⟩ := h
  obtain ⟨i, hlast⟩ := exists_isLastRestart hj
  have hbelow := outcome_scanChars_of_restartsAt hlast.1
  refine ⟨i, _, hlast, rfl, hbelow, fun hfirst ↦ ?_, fun k hk ↦
    hlast.outcome_scanChars_of_isFirstDemotion hk⟩
  by_cases hex : ∃ k, t.IsFirstDemotion number s.stack line.toList i k
  · obtain ⟨k, hk⟩ := hex
    have hdirect := hlast.outcome_scanChars_of_isFirstDemotion hk
    rw [hfirst k hk] at hdirect
    exact hbelow.trans hdirect.symm
  · exact hlast.outcome_scanChars fun k hik ↦
      Bool.eq_false_iff.2 fun hk ↦ hex (exists_isFirstDemotion hik hk)

/-- The caret alone, which matches the empty text at the start of a line. -/
def caret : Pattern where
  source := "^"
  regex := ⟨.seq (.look .textStart) .empty, 0⟩
  lineStartOnly := true
  hasLookahead := false

/-- A table whose second mode gives a line back at its start and at `;`. -/
def givingBack : RuleTable where
  language := "giving-back"
  modes := [⟨"root", [⟨.ofChar 'a', .whole "a", .push 1⟩]⟩,
    ⟨"rest", [⟨caret, .whole "", .rematch⟩, ⟨.ofChar ';', .whole "end", .rematch⟩]⟩]
  base := 0
  defaultToken := "other"

/-- The second rematch of the line is taken for a pop, but stands on what the first one has left. -/
theorem givingBack_reentered :
    givingBack.IsLastRestart 1 ⟨0, [1]⟩ ['a', ';'] 0 ∧
      (givingBack.scanLine ⟨⟨0, [1]⟩, 1⟩ 1 "a;").outcome =
        (givingBack.scanLine ⟨⟨0, []⟩, 0⟩ 1 "a;").outcome := by
  have hend : (givingBack.stage 1 ⟨0, [1]⟩ ['a', ';'] 3).rest = [] := by decide +kernel
  have hlast : givingBack.IsLastRestart 1 ⟨0, [1]⟩ ['a', ';'] 0 := by
    refine isLastRestart_of_rest_eq_nil (by decide +kernel) hend fun j hpos hlt ↦ ?_
    obtain rfl | rfl : j = 1 ∨ j = 2 := by omega
    · decide +kernel
    · decide +kernel
  have hfirst : ∀ k, givingBack.IsFirstDemotion 1 ⟨0, [1]⟩ ['a', ';'] 0 k → k = 2 := fun k hk ↦ by
    have hnot : givingBack.demotesAt 1 ⟨0, [1]⟩ ['a', ';'] 1 = false := by decide +kernel
    have hne : k ≠ 1 := fun heq ↦ absurd hk.2.1 (by simp [heq, hnot])
    have hpos := hk.1
    have hlt := hk.lt hend
    omega
  obtain ⟨i, under, hi, hunder, -, hdirect, -⟩ :=
    rematch_reentry givingBack ⟨⟨0, [1]⟩, 1⟩ 1 "a;" ⟨0, hlast.1⟩
  obtain rfl : i = 0 := hi.unique hlast
  obtain rfl : under = ⟨0, []⟩ := hunder.symm.trans (by decide +kernel)
  refine ⟨hlast, hdirect fun k hk ↦ ?_⟩
  rw [hfirst k hk]
  decide +kernel

/-- A language that gives the line after an `x` back at once, and whose modes above each other are
left by a rematch only. -/
def ladder : Definition :=
  Definition.new "ladder" "root"
    |>.addMode "root" [(Entry.token "x" "x").push "entry", (Entry.token "a" "a").push "lower"]
    |>.addMode "entry" [(Entry.token "^" "").rematch]
    |>.addMode "lower" [(Entry.token "b" "b").push "upper"]
    |>.addMode "upper" [(Entry.token ";" "").rematch]

/-- What is built from it. -/
def ladderTable : RuleTable where
  language := "ladder"
  modes := [⟨"entry", [⟨caret, .whole unclassified, .rematch⟩]⟩,
    ⟨"lower", [⟨.ofChar 'b', .whole "b", .push 3⟩]⟩,
    ⟨"root", [⟨.ofChar 'x', .whole "x", .push 0⟩, ⟨.ofChar 'a', .whole "a", .push 1⟩]⟩,
    ⟨"upper", [⟨.ofChar ';', .whole unclassified, .rematch⟩]⟩]
  base := 2
  defaultToken := unclassified

/-- After `x`, the line `ab;` is given to the base mode by its only honoured rematch. The rematch at
`;` would leave a mode more on the stack, so it is taken for a pop; a direct scan with the base mode
honours it and starts the line again. -/
theorem ladder_not_reentered :
    RuleTable.build ladder = .ok ladderTable ∧
      (ladderTable.tokenizeLines ["x"]).finalState? = some ⟨⟨2, [0]⟩, 1⟩ ∧
      ladderTable.IsLastRestart 1 ⟨2, [0]⟩ ['a', 'b', ';'] 0 ∧
      (ladderTable.stage 1 ⟨2, [0]⟩ ['a', 'b', ';'] 1).stack = ⟨2, []⟩ ∧
      (ladderTable.scanLine ⟨⟨2, [0]⟩, 1⟩ 1 "ab;").tokens =
        [⟨"a", 1, ⟨0, 1⟩⟩, ⟨"b", 1, ⟨1, 2⟩⟩, ⟨unclassified, 1, ⟨2, 3⟩⟩] ∧
      (ladderTable.scanLine ⟨⟨2, []⟩, 0⟩ 1 "ab;").tokens =
        [⟨unclassified, 1, ⟨0, 1⟩⟩, ⟨"b", 1, ⟨1, 2⟩⟩, ⟨unclassified, 1, ⟨2, 3⟩⟩] ∧
      (ladderTable.scanLine ⟨⟨2, [0]⟩, 1⟩ 1 "ab;").tokens ≠
        (ladderTable.scanLine ⟨⟨2, []⟩, 0⟩ 1 "ab;").tokens := by
  have hend : (ladderTable.stage 1 ⟨2, [0]⟩ ['a', 'b', ';'] 4).rest = [] := by decide +kernel
  have hlast : ladderTable.IsLastRestart 1 ⟨2, [0]⟩ ['a', 'b', ';'] 0 := by
    refine isLastRestart_of_rest_eq_nil (by decide +kernel) hend fun j hpos hlt ↦ ?_
    obtain rfl | rfl | rfl : j = 1 ∨ j = 2 ∨ j = 3 := by omega
    · decide +kernel
    · decide +kernel
    · decide +kernel
  have hx : (ladderTable.stage 0 ⟨2, []⟩ ['x'] 1).rest = [] := by decide +kernel
  have hdone : (ladderTable.stage 1 ⟨2, []⟩ ['a', 'b', ';'] 6).rest = [] := by decide +kernel
  have hstate : (ladderTable.tokenizeLines ["x"]).finalState? = some ⟨⟨2, [0]⟩, 1⟩ := by
    rw [tokenizeLines_singleton, scanLine_eq_result hx]
    decide +kernel
  have hscan : (ladderTable.scanLine ⟨⟨2, [0]⟩, 1⟩ 1 "ab;").tokens =
      [⟨"a", 1, ⟨0, 1⟩⟩, ⟨"b", 1, ⟨1, 2⟩⟩, ⟨unclassified, 1, ⟨2, 3⟩⟩] := by
    show (ladderTable.scanChars 1 ⟨2, [0]⟩ ['a', 'b', ';']).tokens = _
    rw [scanChars_eq_result hend]
    decide +kernel
  have hdirect : (ladderTable.scanLine ⟨⟨2, []⟩, 0⟩ 1 "ab;").tokens =
      [⟨unclassified, 1, ⟨0, 1⟩⟩, ⟨"b", 1, ⟨1, 2⟩⟩, ⟨unclassified, 1, ⟨2, 3⟩⟩] := by
    show (ladderTable.scanChars 1 ⟨2, []⟩ ['a', 'b', ';']).tokens = _
    rw [scanChars_eq_result hdone]
    decide +kernel
  refine ⟨by decide +kernel, hstate, hlast, by decide +kernel, hscan, hdirect, ?_⟩
  rw [hscan, hdirect]
  decide

end RuleTable

end ModeLexer
