import ModeLexer.Proofs.Document.Lines
import ModeLexer.Proofs.Scanner.Run

/-!
# The stack along a run

All that a step does to the stack is to leave it alone or to apply an action of the active mode: a
rematch that starts the line again pops like one that does not. So what is said about stacks has to
be checked for the actions of a table alone. `RuleTable.Keeps` says that a property of stacks
survives them; it then holds at every stage of a line and after every line of a session.
-/

namespace ModeLexer

/-- Every step leaves the stack alone or applies an action of the active mode. -/
theorem Progress.Step.stack_eq_or {t : RuleTable} {number : Nat} {line : List Char}
    {p p' : Progress} (h : Step t number line p p') :
    p'.stack = p.stack ∨ ∃ a ∈ t.actionsOf p.stack.active, p'.stack = p.stack.apply a := by
  cases h with
  | pass => exact .inl rfl
  | restart _ hmatch hrematch =>
    exact .inr ⟨.rematch, hrematch ▸ action_mem_of_firstMatch? hmatch, rfl⟩
  | apply _ hmatch => exact .inr ⟨_, action_mem_of_firstMatch? hmatch, rfl⟩

namespace RuleTable

/-- Whether a property of stacks survives every action that the active mode can take. -/
def Keeps (t : RuleTable) (P : ModeStack → Prop) : Prop :=
  ∀ s, P s → ∀ a ∈ t.actionsOf s.active, P (s.apply a)

variable {t : RuleTable} {P : ModeStack → Prop}

/-- What is kept holds at every stage of a line. -/
theorem Keeps.stage (h : t.Keeps P) {number : Nat} {stack : ModeStack} {line : List Char}
    (hs : P stack) (n : Nat) : P (t.stage number stack line n).stack := by
  refine stage_invariant (P := fun p ↦ P p.stack) hs (fun {p p'} hp hstep ↦ ?_) n
  rcases hstep.stack_eq_or with heq | ⟨a, ha, heq⟩
  · rwa [heq]
  · rw [heq]
    exact h p.stack hp a ha

theorem Keeps.scanLine (h : t.Keeps P) {s : ScanState} (hs : P s.stack) (number : Nat)
    (line : String) : P (t.scanLine s number line).state.stack := by
  obtain ⟨n, hn, -⟩ := t.exists_stage_rest_eq_nil number s.stack line.toList
  rw [scanLine_eq_result hn]
  exact h.stage hs n

/-- What is kept holds after every line of a session. -/
theorem Keeps.after (h : t.Keeps P) {s : Session} (hs : P s.state.stack) (lines : List String) :
    P (s.after t lines).state.stack := by
  induction lines generalizing s with
  | nil => exact hs
  | cons line lines ih => exact ih (h.scanLine hs s.nextLine line)

/-- No action takes the bottom of the stack away. -/
theorem keeps_bottom (t : RuleTable) (mode : ModeId) : t.Keeps (·.bottom = mode) := by
  intro s hs a _
  rw [ModeStack.bottom_apply, hs]

/-- A session that begins a document has the base mode at the bottom of its stack. -/
theorem bottom_after_begin (t : RuleTable) (lines : List String) :
    ((Session.begin t).after t lines).state.stack.bottom = t.base :=
  (t.keeps_bottom t.base).after (s := Session.begin t) rfl lines

end RuleTable

end ModeLexer
