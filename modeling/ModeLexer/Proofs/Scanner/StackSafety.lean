import Mathlib.Data.List.Chain
import ModeLexer.Proofs.Scanner.StackRun
import ModeLexer.Proofs.Table.Under

/-!
# What is on the stack

A stack has a bottom by its type. Three things more are known of it along every run.

* It holds modes of the table only, if it did at the start and the rules name no others
  (`keeps_within`).
* The bottom is never exchanged (`keeps_bottom`). In a document it is the base mode, which has no
  rule that pops, switches or rematches; so no such rule is ever found where there is no mode above
  the bottom to act on, and nothing of the kind is reported.
* In a table that is built, what is directly under a mode is one of the modes that were computed
  for it (`keeps_onUnderModes`). So a rematch never gives the line to a mode that rematches first.
-/

namespace ModeLexer

namespace ModeStack

variable {s : ModeStack} {a : Action}

/-- Whether a stack holds modes of a table only. -/
def Within (t : RuleTable) (s : ModeStack) : Prop := ∀ m ∈ s.toList, m < t.modes.length

/-- Without a mode above the bottom the bottom is active. -/
theorem active_eq_bottom (h : s.canPop = false) : s.active = s.bottom := by
  obtain ⟨b, _ | ⟨m, ms⟩⟩ := s
  · rfl
  · simp [canPop] at h

theorem mem_toList {m : ModeId} : m ∈ s.toList ↔ m = s.bottom ∨ m ∈ s.above := by
  rw [toList, List.mem_cons, List.mem_reverse]

/-- The modes after an action were there before, or the action names them. -/
theorem mem_toList_apply {m : ModeId} (h : m ∈ (s.apply a).toList) :
    m ∈ s.toList ∨ a = .push m ∨ a = .switchTo m := by
  obtain ⟨b, ms⟩ := s
  rw [mem_toList] at h ⊢
  cases a with
  | stay => exact .inl h
  | push target =>
    rcases h with hbottom | habove
    · exact .inl (.inl hbottom)
    · rcases List.mem_cons.1 habove with rfl | habove
      · exact .inr (.inl rfl)
      · exact .inl (.inr habove)
  | pop | rematch =>
    cases ms with
    | nil => exact .inl h
    | cons top ms => exact .inl (h.imp_right (List.mem_cons_of_mem top))
  | switchTo target =>
    cases ms with
    | nil => exact .inl h
    | cons top ms =>
      rcases h with hbottom | habove
      · exact .inl (.inl hbottom)
      · rcases List.mem_cons.1 habove with rfl | habove
        · exact .inr (.inr rfl)
        · exact .inl (.inr (List.mem_cons_of_mem top habove))

/-- Whether every mode above the bottom is on one of the modes that are computed for it. -/
def OnUnderModes (t : RuleTable) (s : ModeStack) : Prop :=
  s.toList.IsChain fun under mode ↦ under ∈ t.underModes mode

/-- The same from the top on. -/
theorem onUnderModes_iff {t : RuleTable} :
    s.OnUnderModes t ↔
      (s.above ++ [s.bottom]).IsChain fun mode under ↦ under ∈ t.underModes mode := by
  have hrev : s.toList = (s.above ++ [s.bottom]).reverse := by simp [toList]
  rw [OnUnderModes, hrev, List.isChain_reverse]

/-- The mode that a pop makes active is one that is computed for the mode on top. -/
theorem OnUnderModes.active_pop {t : RuleTable} (h : s.OnUnderModes t) (hpop : s.canPop) :
    s.pop.active ∈ t.underModes s.active := by
  obtain ⟨b, _ | ⟨top, ms⟩⟩ := s
  · simp [canPop] at hpop
  · have hchain := onUnderModes_iff.1 h
    cases ms with
    | nil => exact (List.isChain_cons_cons.1 hchain).1
    | cons m ms => exact (List.isChain_cons_cons.1 hchain).1

end ModeStack

/-- Whether a notice says that there was no mode above the bottom to act on. -/
def Notice.isRefusal : Notice → Bool
  | popIgnored _ | switchIgnored _ => true
  | _ => false

namespace Progress

/-- Whether the next rule to be applied acts on the mode above the bottom while there is none. -/
def Refuses (t : RuleTable) (p : Progress) : Prop :=
  p.rest ≠ [] ∧ p.stack.canPop = false ∧ ∃ r m, p.firstMatch? t = some (r, m) ∧
    r.action ≠ .stay ∧ ∀ target, r.action ≠ .push target

/-- A rule that finds a mode to act on, or needs none, is not reported as refused. -/
theorem not_isRefusal_actionNotices {t : RuleTable} {number : Nat} {s : ModeStack} {a : Action}
    (h : s.canPop = false → a = .stay ∨ ∃ m, a = .push m) :
    ∀ n ∈ actionNotices t number s a, n.isRefusal = false := by
  cases hpop : s.canPop with
  | false => rcases h hpop with rfl | ⟨m, rfl⟩ <;> simp [actionNotices, Notice.isRefusal]
  | true => cases a <;> simp [actionNotices, hpop, Notice.isRefusal]

/-- A step that refuses nothing reports no refusal. -/
theorem Step.not_isRefusal {t : RuleTable} {number : Nat} {line : List Char} {p p' : Progress}
    (h : Step t number line p p') (hp : ¬p.Refuses t)
    (hnotices : ∀ n ∈ p.notices, n.isRefusal = false) : ∀ n ∈ p'.notices, n.isRefusal = false := by
  cases h with
  | pass hrest hnone =>
    simp only [passCharacter, List.forall_mem_append]
    refine ⟨?_, hnotices⟩
    split <;> simp [Notice.isRefusal]
  | restart => exact List.forall_mem_cons.2 ⟨rfl, hnotices⟩
  | @apply r m hrest hmatch hnot =>
    have haction : p.stack.canPop = false → r.action = .stay ∨ ∃ m, r.action = .push m := by
      intro hpop
      by_contra! hne
      exact hp ⟨hrest, hpop, r, m, hmatch, hne⟩
    simp only [applyRule, List.forall_mem_append]
    refine ⟨⟨not_isRefusal_actionNotices haction, ?_⟩, hnotices⟩
    split <;> simp [Notice.isRefusal]

end Progress

namespace RuleTable

variable {d : Definition} {library : PatternLibrary} {t : RuleTable}

/-! ### Modes of the table -/

theorem keeps_within (ht : t.TargetsDefined) : t.Keeps (·.Within t) := by
  intro s hs a ha m hm
  rcases ModeStack.mem_toList_apply hm with hmem | rfl | rfl
  · exact hs m hmem
  · exact ht _ m (.inl ha)
  · exact ht _ m (.inr ha)

/-! ### Nothing is refused -/

section

variable [Regex.SizeLimit]

/-- With the base mode at the bottom nothing is refused. -/
theorem BuiltFrom.not_refuses (h : BuiltFrom d library t) {p : Progress}
    (hp : p.stack.bottom = t.base) : ¬p.Refuses t := by
  rintro ⟨-, hpop, r, m, hmatch, hstay, hpush⟩
  have hmem := Progress.action_mem_of_firstMatch? hmatch
  rw [ModeStack.active_eq_bottom hpop, hp] at hmem
  rcases h.stays_of_base _ hmem with hact | ⟨target, hact⟩
  · exact hstay hact
  · exact hpush target hact

/-- A line that begins with the base mode at the bottom of the stack has no refusal to report. -/
theorem BuiltFrom.not_isRefusal_scanLine (h : BuiltFrom d library t) {s : ScanState}
    (hs : s.stack.bottom = t.base) (number : Nat) (line : String) :
    ∀ n ∈ (t.scanLine s number line).notices, n.isRefusal = false := by
  obtain ⟨k, hk, -⟩ := t.exists_stage_rest_eq_nil number s.stack line.toList
  have hbottom : ∀ i, (t.stage number s.stack line.toList i).stack.bottom = t.base :=
    (t.keeps_bottom t.base).stage hs
  have hnotices : ∀ i, ∀ n ∈ (t.stage number s.stack line.toList i).notices,
      n.isRefusal = false := by
    intro i
    induction i with
    | zero => simp [Progress.start]
    | succ i ih =>
      rw [stage_succ]
      by_cases hrest : (t.stage number s.stack line.toList i).rest = []
      · rwa [Progress.next_of_rest_eq_nil hrest]
      · exact (Progress.step_next hrest).not_isRefusal (h.not_refuses (hbottom i)) ih
  rw [scanLine_eq_result hk]
  exact fun n hn ↦ hnotices k n (List.mem_reverse.1 hn)

theorem BuiltFrom.not_isRefusal_feedAll (h : BuiltFrom d library t) {s : Session}
    (hs : s.state.stack.bottom = t.base) (doc : TokenizedDocument) (lines : List String) :
    ∀ n ∈ (s.feedAll t doc lines).2, n.isRefusal = false := by
  induction lines generalizing s doc with
  | nil => simp [Session.feedAll]
  | cons line lines ih =>
    simp only [Session.feedAll, List.forall_mem_append]
    exact ⟨h.not_isRefusal_scanLine hs s.nextLine line,
      ih ((t.keeps_bottom t.base).scanLine hs s.nextLine line) _⟩

/-- **Stack safety.** Whatever lines are scanned, from whatever stack of modes of the table: the
stack is not empty, holds modes of the table and has the mode at its bottom that it began with. In a
table that is built rules name modes of the table only; a document keeps its base mode at the
bottom, and at no stage of any line is there a pop, a switch or a rematch without a mode above the
bottom, nor is one reported. -/
theorem stack_safe (t : RuleTable) :
    (t.TargetsDefined → ∀ s : Session, s.state.stack.Within t → ∀ lines,
      (s.after t lines).state.stack.toList ≠ [] ∧ (s.after t lines).state.stack.Within t ∧
        (s.after t lines).state.stack.toList.head? = s.state.stack.toList.head?) ∧
    ∀ d, build d = .ok t →
      t.TargetsDefined ∧ t.initialState.stack.Within t ∧ t.nameOf t.base = d.baseMode ∧
      ∀ lines,
        ((Session.begin t).after t lines).state.stack.toList.head? = some t.base ∧
        (∀ line n, ¬(t.stage ((Session.begin t).after t lines).nextLine
          ((Session.begin t).after t lines).state.stack line n).Refuses t) ∧
        ∀ n ∈ t.tokenizeNotices lines, n.isRefusal = false := by
  refine ⟨fun ht s hs lines ↦ ⟨List.cons_ne_nil _ _, (keeps_within ht).after hs lines, ?_⟩,
    fun d hd ↦ ?_⟩
  · exact congrArg some ((t.keeps_bottom s.state.stack.bottom).after rfl lines)
  · obtain ⟨library, h⟩ := build_eq_ok.1 hd
    refine ⟨h.targetsDefined, ?_, h.nameOf_eq h.getElem?_base, fun lines ↦ ?_⟩
    · intro m hm
      obtain rfl : m = t.base := by simpa [initialState, ScanState.new, ModeStack.toList] using hm
      exact h.base_lt
    · have hbottom := t.bottom_after_begin lines
      refine ⟨congrArg some hbottom, fun line n ↦ ?_, ?_⟩
      · exact h.not_refuses ((t.keeps_bottom t.base).stage hbottom n)
      · simp only [tokenizeNotices, List.forall_mem_append, List.forall_mem_singleton]
        exact ⟨h.not_isRefusal_feedAll rfl .empty lines, rfl⟩

end

/-- A language whose base mode opens a clause, which is closed or, after its head, left by giving
the line back. -/
def clauses : Definition :=
  Definition.new "clauses" "root"
    |>.addMode "root" [(Entry.token "a" "a").push "head"]
    |>.addMode "head" [(Entry.token "b" "b").switchTo "tail", (Entry.token "c" "c").pop]
    |>.addMode "tail" [(Entry.token ";" "").rematch]

/-- What is built from it. -/
def clausesTable : RuleTable where
  language := "clauses"
  modes := [⟨"head", [⟨.ofChar 'b', .whole "b", .switchTo 2⟩, ⟨.ofChar 'c', .whole "c", .pop⟩]⟩,
    ⟨"root", [⟨.ofChar 'a', .whole "a", .push 0⟩]⟩,
    ⟨"tail", [⟨.ofChar ';', .whole unclassified, .rematch⟩]⟩]
  base := 1
  defaultToken := unclassified

/-- From a stack that stands on no base mode, and over a document. -/
theorem clauses_stack_safe :
    build clauses = .ok clausesTable ∧
      ModeStack.Within clausesTable ⟨2, [1, 0]⟩ ∧
      (Session.after clausesTable ⟨⟨⟨2, [1, 0]⟩, 0⟩, 7⟩ ["c;", "abc"]).state.stack.Within
        clausesTable ∧
      ∀ n ∈ clausesTable.tokenizeNotices ["ab", "c;", "c"], n.isRefusal = false := by
  have hbuild : build clauses = .ok clausesTable := by rfl
  have hwithin : ModeStack.Within clausesTable ⟨2, [1, 0]⟩ := by
    unfold ModeStack.Within
    decide
  obtain ⟨htargets, -, -, hdoc⟩ := (stack_safe clausesTable).2 clauses hbuild
  exact ⟨hbuild, hwithin, ((stack_safe clausesTable).1 htargets _ hwithin _).2.1,
    (hdoc ["ab", "c;", "c"]).2.2⟩

/-! ### Under each mode one that is computed for it -/

theorem keeps_onUnderModes (ht : t.TargetsDefined) : t.Keeps (·.OnUnderModes t) := by
  rintro ⟨b, ms⟩ hs a ha
  rw [ModeStack.onUnderModes_iff] at hs ⊢
  cases a with
  | stay => exact hs
  | push m =>
    -- the pushed mode sits on the mode that pushes it
    have hsits : t.SitsOn (ModeStack.active ⟨b, ms⟩) m := .push ha
    rw [← mem_underModes_iff ht] at hsits
    cases ms with
    | nil => exact List.isChain_cons_cons.2 ⟨hsits, hs⟩
    | cons top ms => exact List.isChain_cons_cons.2 ⟨hsits, hs⟩
  | pop | rematch =>
    cases ms with
    | nil => exact hs
    | cons top ms => exact hs.tail
  | switchTo m =>
    cases ms with
    | nil => exact hs
    | cons top ms =>
      -- the target sits on whatever the mode that switches has sat on
      rw [List.cons_append, List.isChain_cons] at hs
      refine List.isChain_cons.2 ⟨fun under hunder ↦ ?_, hs.2⟩
      have hsits := (mem_underModes_iff ht).1 (hs.1 under hunder)
      exact (mem_underModes_iff ht).2 (hsits.switch ha)

section

variable [Regex.SizeLimit]

/-- A rematch that is honoured on such a stack gives the line to a mode that does not rematch
first. -/
theorem BuiltFrom.startsWithRematch_of_restarts (h : BuiltFrom d library t) {p : Progress}
    (hp : p.stack.OnUnderModes t) (hre : p.restarts t) :
    t.startsWithRematch p.stack.pop.active = false := by
  obtain ⟨-, r, m, hmatch, hact, hhon⟩ := Progress.restarts_iff.1 hre
  have hmem : .rematch ∈ t.actionsOf p.stack.active :=
    hact ▸ Progress.action_mem_of_firstMatch? hmatch
  exact rematchChain?_eq_none.1 (check_eq_ok.1 h.check_eq).2 _ (lt_of_mem_actionsOf hmem) hmem _
    (hp.active_pop (Progress.canPop_of_honoursRematch hhon))

/-- **Soundness of the under-mode analysis.** Wherever a document that is scanned with a built table
stands, at any stage of any line, each mode above the bottom is on one of the modes that were
computed for it; and where a rematch is honoured, the mode that gets the line does not begin with a
rematch. -/
theorem underModes_sound (d : Definition) (t : RuleTable) (hd : build d = .ok t)
    (lines : List String) :
    ((Session.begin t).after t lines).state.stack.OnUnderModes t ∧
      ∀ (line : String) (n : Nat), let s := (Session.begin t).after t lines
        (t.stage s.nextLine s.state.stack line.toList n).stack.OnUnderModes t ∧
          (t.restartsAt s.nextLine s.state.stack line.toList n →
            t.startsWithRematch
              (t.stage s.nextLine s.state.stack line.toList (n + 1)).stack.active = false) := by
  obtain ⟨library, h⟩ := build_eq_ok.1 hd
  have hkeeps := keeps_onUnderModes h.targetsDefined
  have hafter := hkeeps.after (s := Session.begin t) (List.isChain_singleton _) lines
  refine ⟨hafter, fun line n ↦ ?_⟩
  have hstage : (t.stage ((Session.begin t).after t lines).nextLine
      ((Session.begin t).after t lines).state.stack line.toList n).stack.OnUnderModes t :=
    hkeeps.stage hafter n
  refine ⟨hstage, fun hre ↦ ?_⟩
  rw [stage_succ, Progress.next_of_restarts hre]
  exact h.startsWithRematch_of_restarts hstage hre

end

/-- After `ab` the tail is on the base mode, which only the head has been pushed on. At `;` it gives
the line back. -/
theorem clauses_underModes_sound :
    build clauses = .ok clausesTable ∧
      ((Session.begin clausesTable).after clausesTable ["ab"]).state.stack = ⟨1, [2]⟩ ∧
      ModeStack.OnUnderModes clausesTable ⟨1, [2]⟩ ∧
      clausesTable.restartsAt 1 ⟨1, [2]⟩ [';'] 0 ∧
      clausesTable.startsWithRematch (clausesTable.stage 1 ⟨1, [2]⟩ [';'] 1).stack.active =
        false := by
  have hbuild : build clauses = .ok clausesTable := by rfl
  have hsession : (Session.begin clausesTable).after clausesTable ["ab"] =
      ⟨⟨⟨1, [2]⟩, 2⟩, 1⟩ := by
    have hrest : (clausesTable.stage 0 ⟨1, []⟩ ['a', 'b'] 2).rest = [] := by rfl
    show Session.mk (clausesTable.scanChars 0 ⟨1, []⟩ ['a', 'b']).state 1 = _
    rw [scanChars_eq_result hrest]
    rfl
  have hre : clausesTable.restartsAt 1 ⟨1, [2]⟩ [';'] 0 := by rfl
  have hsound := underModes_sound clauses clausesTable hbuild ["ab"]
  rw [hsession] at hsound
  exact ⟨hbuild, by rw [hsession], hsound.1, hre, (hsound.2 ";" 0).2 hre⟩

end RuleTable

end ModeLexer
