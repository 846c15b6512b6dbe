import ModeLexer.Proofs.Regex.Language

/-!
# All that a program can come to

The matcher looks for the first success and forgets about the rest. `Program.outcomes` is the list
of all states at which a program can end, in the order of preference; it is made without
continuations, and a run with a continuation is the first outcome with which the continuation
succeeds (`Program.run_eq_findSome?`). So what a part of a program can match may be spoken of apart
from what comes behind it.
-/

namespace ModeLexer.Regex

namespace Program

variable {α : Type}

/-- The states at which a loop can be left, in the order in which they are tried; `n` bounds the
number of rounds. -/
def loopOutcomes (guard : Option Nat) (greedy : Bool) (body : MatchState → List MatchState) :
    Nat → MatchState → List MatchState
  | 0, _ => []
  | n + 1, s =>
    match s.pass guard with
    | none => []
    | some s =>
      let again := (body s).flatMap (loopOutcomes guard greedy body n)
      if greedy then again ++ [s] else s :: again

/-- The states at which a match of a program can end, in the order in which they are tried. -/
def outcomes : Program → MatchState → List MatchState
  | empty, s => [s]
  | set a, s =>
    match s.rest with
    | [] => []
    | c :: cs => if a.contains c then [s.advance c cs] else []
  | look l, s => if l.holds s.before s.rest.head? then [s] else []
  | capture i p, s => (p.outcomes s).map (·.record i s.offset)
  | seq p q, s => (p.outcomes s).flatMap q.outcomes
  | choice guard p q, s =>
    match s.pass guard with
    | none => []
    | some s => p.outcomes s ++ q.outcomes s
  | star guard greedy p, s => loopOutcomes guard greedy p.outcomes (s.rest.length + 1) s
  | plus guard greedy p, s =>
    (p.outcomes s).flatMap (loopOutcomes guard greedy p.outcomes (s.rest.length + 1))

theorem findSome?_flatMap {β γ : Type} (f : β → List γ) (k : γ → Option α) (xs : List β) :
    (xs.flatMap f).findSome? k = xs.findSome? fun x ↦ (f x).findSome? k := by
  induction xs with
  | nil => rfl
  | cons x xs ih =>
    rw [List.flatMap_cons, List.findSome?_append, ih, List.findSome?_cons]
    cases (f x).findSome? k <;> rfl

theorem loop_eq_findSome? {guard : Option Nat} {greedy : Bool}
    {body : Continuation α → Continuation α} {results : MatchState → List MatchState}
    (hbody : ∀ k s, body k s = (results s).findSome? k) (k : Continuation α) (n : Nat)
    (s : MatchState) :
    loop guard greedy body k n s = (loopOutcomes guard greedy results n s).findSome? k := by
  induction n generalizing s with
  | zero => rfl
  | succ n ih =>
    have hagain : ∀ s, body (loop guard greedy body k n) s =
        ((results s).flatMap (loopOutcomes guard greedy results n)).findSome? k := fun s ↦ by
      rw [hbody, findSome?_flatMap]
      exact congrArg (List.findSome? · (results s)) (funext ih)
    rw [loop, loopOutcomes]
    cases s.pass guard with
    | none => rfl
    | some s =>
      simp only [hagain]
      cases greedy
      · simp [List.findSome?_cons]
        cases k s <;> rfl
      · simp [List.findSome?_append]

/-- A run is the search for the first outcome with which it can go on. -/
theorem run_eq_findSome? (p : Program) (k : Continuation α) (s : MatchState) :
    p.run k s = (p.outcomes s).findSome? k := by
  induction p generalizing k s with
  | empty => simp [run, outcomes]
  | set a =>
    rw [run, outcomes]
    cases s.rest with
    | nil => rfl
    | cons c cs => cases ha : a.contains c <;> simp [ha]
  | look l =>
    rw [run, outcomes]
    cases l.holds s.before s.rest.head? <;> simp
  | capture i p ih =>
    rw [run, ih, outcomes, List.findSome?_map]
    rfl
  | seq p q ihp ihq =>
    rw [run, ihp, outcomes, findSome?_flatMap]
    exact congrArg (List.findSome? · (p.outcomes s)) (funext (ihq k))
  | choice guard p q ihp ihq =>
    rw [run, outcomes]
    cases s.pass guard with
    | none => rfl
    | some s => simp [ihp, ihq, List.findSome?_append]
  | star guard greedy p ih =>
    rw [run, outcomes]
    exact loop_eq_findSome? ih k _ s
  | plus guard greedy p ih =>
    rw [run, ih, outcomes, findSome?_flatMap]
    exact congrArg (List.findSome? · (p.outcomes s)) (funext (loop_eq_findSome? ih k _))

/-- The match is the first outcome. -/
theorem match?_eq_head? (p : Program) (s : MatchState) : p.match? s = (p.outcomes s).head? := by
  rw [match?, run_eq_findSome?]
  cases p.outcomes s <;> rfl

/-- What goes on from one state only. -/
def onlyFrom (s' : MatchState) : Continuation Unit := fun s ↦ if s = s' then some () else none

theorem eq_of_onlyFrom {s s' : MatchState} {a : Unit} (h : onlyFrom s' s = some a) : s = s' := by
  by_contra hne
  simp [onlyFrom, hne] at h

/-- A run can be made to come to any outcome. -/
theorem exists_run_onlyFrom {p : Program} {s s' : MatchState} (h : s' ∈ p.outcomes s) :
    ∃ a, p.run (onlyFrom s') s = some a := by
  rw [← Option.isSome_iff_exists, run_eq_findSome?, List.findSome?_isSome_iff]
  exact ⟨s', h, by simp [onlyFrom]⟩

/-- Every outcome takes a word of the program. -/
theorem exists_takes_of_mem_outcomes {p : Program} {s s' : MatchState} (h : s' ∈ p.outcomes s) :
    ∃ word, s.Behind word s' ∧ p.Takes s.before word s'.rest := by
  obtain ⟨a, ha⟩ := exists_run_onlyFrom h
  obtain ⟨word, r, hbehind, htakes, hr⟩ := exists_takes_of_run ha
  obtain rfl := eq_of_onlyFrom hr
  exact ⟨word, hbehind, htakes⟩

/-- What all moves of an attempt allow holds between a state and an outcome. -/
theorem rel_of_mem_outcomes {p : Program} {R : MatchState → MatchState → Prop}
    (hR : MatchState.AllowsMoves p.groups R) {s s' : MatchState} (h : s' ∈ p.outcomes s) :
    R s s' := by
  obtain ⟨a, ha⟩ := exists_run_onlyFrom h
  obtain ⟨r, hrel, hr⟩ := exists_of_run hR ha
  obtain rfl := eq_of_onlyFrom hr
  exact hrel

end Program

end ModeLexer.Regex
