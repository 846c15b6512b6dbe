import ModeLexer.Table.Basic

/-!
# The stack of modes

A stack is never empty: it has a bottom, which no operation removes or replaces, and the modes above
it. The mode on top is the active one.
-/

namespace ModeLexer

/-- A stack of modes. -/
structure ModeStack where
  bottom : ModeId
  /-- The modes above the bottom, the top one first. -/
  above : List ModeId := []
  deriving DecidableEq, Repr, Inhabited

namespace ModeStack

/-- The mode on top. -/
def active (s : ModeStack) : ModeId := s.above.headD s.bottom

/-- The number of modes on the stack. -/
def depth (s : ModeStack) : Nat := s.above.length + 1

/-- The modes from the bottom to the top. -/
def toList (s : ModeStack) : List ModeId := s.bottom :: s.above.reverse

/-- Whether there is a mode above the bottom. -/
def canPop (s : ModeStack) : Bool := !s.above.isEmpty

/-- Puts a mode on top. -/
def push (s : ModeStack) (m : ModeId) : ModeStack := { s with above := m :: s.above }

/-- Takes the top mode off, unless it is the bottom. -/
def pop (s : ModeStack) : ModeStack := { s with above := s.above.tail }

/-- Replaces the top mode, unless it is the bottom. -/
def switchTo (s : ModeStack) (m : ModeId) : ModeStack :=
  match s.above with
  | [] => s
  | _ :: ms => { s with above := m :: ms }

/-- The stack after an action. A rematch pops. -/
def apply (s : ModeStack) : Action → ModeStack
  | .stay => s
  | .push m => s.push m
  | .pop | .rematch => s.pop
  | .switchTo m => s.switchTo m

/-- Whether an action changes the stack. -/
def changedBy (s : ModeStack) : Action → Bool
  | .stay => false
  | .push _ => true
  | .pop | .rematch => s.canPop
  | .switchTo m => s.canPop && s.active ≠ m

/-! ### What the operations do -/

/-- No action changes the bottom of a stack. -/
@[simp] theorem bottom_apply (s : ModeStack) (a : Action) : (s.apply a).bottom = s.bottom := by
  cases a <;> simp only [apply, push, pop, switchTo]
  split <;> rfl

/-- A pop takes one mode off, if it is not refused. -/
theorem depth_pop {s : ModeStack} (h : s.canPop) : (s.pop).depth + 1 = s.depth := by
  obtain ⟨b, _ | ⟨a, as⟩⟩ := s
  · simp [canPop] at h
  · rfl

/-- An exchange leaves the depth of a stack. -/
@[simp] theorem depth_switchTo (s : ModeStack) (m : ModeId) : (s.switchTo m).depth = s.depth := by
  obtain ⟨b, _ | ⟨a, as⟩⟩ := s <;> rfl

end ModeStack

end ModeLexer
