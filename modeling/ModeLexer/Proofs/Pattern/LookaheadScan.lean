import ModeLexer.Pattern.Lookahead
import ModeLexer.Proofs.Regex.PlainNames

/-!
# The scan for a lookahead over a part of a text

What the scan knows after a part of a text depends on what it knew before and, where a parenthesis
opens, on what follows (`LookaheadScan.pass`). Two properties of a text say what passing over it
does: in a class only the position changes (`Leads`), and over a text that opens and closes its
groups the scan comes back to the depth at which it was (`Passes`).
-/

namespace ModeLexer.Pattern

open Regex

/-- The position behind a character that stands for itself. -/
def ClassPosition.settled : ClassPosition → ClassPosition
  | outside => outside
  | _ => inside

@[simp] theorem ClassPosition.settled_settled (p : ClassPosition) :
    p.settled.settled = p.settled := by
  cases p <;> rfl

/-- Whether a character stands for itself to the scan. -/
def ClassPosition.Ignores : ClassPosition → Char → Prop
  | outside, c => c ∉ ['\\', '[', '(', ')', '|']
  | opened, c => c ∉ ['\\', '^']
  | openedNegated, c => c ≠ '\\'
  | inside, c => c ∉ ['\\', ']']

/-- Plain characters stand for themselves at every position. -/
theorem ClassPosition.ignores_of_isPlain (p : ClassPosition) {c : Char} (hc : IsPlain c) :
    p.Ignores c := by
  simp only [IsPlain, brackets, List.mem_cons, List.not_mem_nil, or_false, not_or] at hc
  cases p <;> simp [Ignores, hc]

namespace LookaheadScan

/-- Passes a text with more behind it; `index` is the index of its first character. -/
def pass (s : LookaheadScan) (index : Nat) : List Char → List Char → LookaheadScan
  | [], _ => s
  | c :: cs, more => (s.step index c (cs ++ more)).pass (index + 1) cs more

/-- A text is passed in two parts, the first of which has the second behind it. -/
theorem pass_append (s : LookaheadScan) (index : Nat) (cs cs' more : List Char) :
    s.pass index (cs ++ cs') more =
      (s.pass index cs (cs' ++ more)).pass (index + cs.length) cs' more := by
  induction cs generalizing s index with
  | nil => rfl
  | cons c cs ih =>
    rw [List.cons_append, pass, pass, ih, List.append_assoc, List.length_cons, Nat.add_right_comm,
      Nat.add_assoc]

/-! ### Texts of classes -/

/-- Whether a text leads from one position with respect to a class to another, with all else left as
it is. -/
def Leads (cs : List Char) (p q : ClassPosition) : Prop :=
  ∀ (s : LookaheadScan) (index : Nat) (more : List Char), s.escaped = false → s.position = p →
    s.pass index cs more = { s with position := q }

variable {cs cs' : List Char} {c : Char} {p q r : ClassPosition}

namespace Leads

/-- The empty text leads nowhere. -/
theorem nil (p : ClassPosition) : Leads [] p p := by
  rintro s index more - rfl
  rfl

/-- One text leads on from where another has led. -/
theorem append (h : Leads cs p q) (h' : Leads cs' q r) : Leads (cs ++ cs') p r := by
  intro s index more hescaped hp
  have hsecond := h' { s with position := q } (index + cs.length) more hescaped rfl
  rw [pass_append, h s index _ hescaped hp, hsecond]

theorem cons (h : Leads [c] p q) (h' : Leads cs q r) : Leads (c :: cs) p r := h.append h'

/-- A character leads where its step does. -/
theorem of_step (h : ∀ (s : LookaheadScan) (index : Nat) (rest : List Char), s.escaped = false →
    s.position = p → s.step index c rest = { s with position := q }) : Leads [c] p q :=
  fun s index more ↦ h s index ([] ++ more)

/-- A character that stands for itself only ends the beginning of a class. -/
theorem of_ignores (h : p.Ignores c) : Leads [c] p p.settled := by
  refine of_step fun s index rest hescaped hp ↦ ?_
  obtain ⟨depth, position, escaped, candidate, alternation⟩ := s
  obtain rfl : escaped = false := hescaped
  obtain rfl : position = p := hp
  cases position <;>
    simp_all [ClassPosition.Ignores, ClassPosition.settled, step, stepOutside, stepInside]

/-- Characters that stand for themselves leave the position as it is behind the beginning of a
class. -/
theorem of_forall (h : ∀ c ∈ cs, p.Ignores c) (hp : p.settled = p) : Leads cs p p := by
  induction cs with
  | nil => exact nil p
  | cons c cs ih =>
    obtain ⟨hc, hcs⟩ := List.forall_mem_cons.1 h
    have hfirst := of_ignores hc
    rw [hp] at hfirst
    exact hfirst.cons (ih hcs)

/-- Plain text leaves the scan outside of a class or inside of it. -/
theorem of_isPlain (h : ∀ c ∈ cs, IsPlain c) (hp : p.settled = p) : Leads cs p p :=
  of_forall (fun c hc ↦ p.ignores_of_isPlain (h c hc)) hp

/-- An escape stands for itself everywhere. -/
theorem escape (p : ClassPosition) (c : Char) : Leads ['\\', c] p p.settled := by
  intro s index more hescaped hp
  obtain ⟨depth, position, escaped, candidate, alternation⟩ := s
  obtain rfl : escaped = false := hescaped
  obtain rfl : position = p := hp
  cases position <;> simp [pass, step, stepOutside, stepInside, ClassPosition.settled]

/-- A bracket outside of classes opens one. -/
theorem opening : Leads ['['] .outside .opened := by
  refine of_step fun s index rest hescaped hp ↦ ?_
  simp [step, stepOutside, hescaped, hp]

/-- A caret at the beginning of a class makes it a negated one. -/
theorem caret : Leads ['^'] .opened .openedNegated := by
  refine of_step fun s index rest hescaped hp ↦ ?_
  simp [step, stepInside, hescaped, hp]

/-- Further on in a class a caret stands for itself. -/
theorem caret_inside : Leads ['^'] .inside .inside :=
  of_ignores (by simp [ClassPosition.Ignores])

/-- A closing bracket that does not stand for itself ends the class. -/
theorem closing (hp : p.settled = p) : Leads [']'] p .outside := by
  refine of_step fun s index rest hescaped hs ↦ ?_
  obtain ⟨depth, position, escaped, candidate, alternation⟩ := s
  obtain rfl : escaped = false := hescaped
  obtain rfl : position = p := hs
  cases position <;> simp_all [ClassPosition.settled, step, stepInside, stepOutside]

end Leads

/-! ### Texts of expressions -/

/-- What the scan knows behind a text of groups that are closed, outside of which there is a bar or
not. -/
structure PassedTo (bar : Bool) (s s' : LookaheadScan) : Prop where
  depth : s'.depth = s.depth
  position : s'.position = .outside
  escaped : s'.escaped = false
  candidate : 0 < s.depth → s'.candidate = s.candidate
  alternation : s'.alternation = (s.alternation || (bar && s.depth == 0))

/-- Whether all groups and classes of a text are closed; `bar` says whether there is a bar outside
of them. -/
def Passes (bar : Bool) (cs : List Char) : Prop :=
  ∀ (s : LookaheadScan) (index : Nat) (more : List Char), s.escaped = false →
    s.position = .outside → PassedTo bar s (s.pass index cs more)

namespace Passes

variable {bar bar' : Bool}

/-- A text that only changes the position and comes back outside has no group and no bar. -/
theorem of_leads (h : Leads cs .outside .outside) : Passes false cs := by
  intro s index more hescaped hp
  rw [h s index more hescaped hp]
  exact ⟨rfl, rfl, hescaped, fun _ ↦ rfl, by simp⟩

theorem nil : Passes false [] := of_leads (.nil _)

/-- Behind a text whose groups are closed another one may stand. -/
theorem append (h : Passes bar cs) (h' : Passes bar' cs') : Passes (bar || bar') (cs ++ cs') := by
  intro s index more hescaped hp
  rw [pass_append]
  have hfirst := h s index (cs' ++ more) hescaped hp
  have hsecond := h' _ (index + cs.length) more hfirst.escaped hfirst.position
  refine ⟨hsecond.depth.trans hfirst.depth, hsecond.position, hsecond.escaped, fun hdepth ↦ ?_, ?_⟩
  · exact (hsecond.candidate (hfirst.depth ▸ hdepth)).trans (hfirst.candidate hdepth)
  · rw [hsecond.alternation, hfirst.alternation, hfirst.depth, Bool.or_assoc,
      Bool.and_or_distrib_right]

/-- A bar outside of classes is one outside of groups if it is at depth 0. -/
theorem of_bar : Passes true ['|'] := by
  intro s index more hescaped hp
  rw [pass, pass, step, if_neg (by simp [hescaped]), if_pos hp, stepOutside]
  by_cases hdepth : s.depth = 0
  · simp only [hdepth]
    exact ⟨hdepth.symm ▸ rfl, hp, hescaped, fun hpos ↦ absurd hdepth (by omega), by simp [hdepth]⟩
  · simp only [hdepth]
    exact ⟨rfl, hp, hescaped, fun _ ↦ rfl, by simp [hdepth]⟩

end Passes

/-- An opening parenthesis goes one level down, and within other groups it opens no lookahead. -/
theorem step_open {s : LookaheadScan} (hescaped : s.escaped = false) (hp : s.position = .outside)
    (index : Nat) (rest : List Char) :
    ∃ candidate, s.step index '(' rest = { s with depth := s.depth + 1, candidate } ∧
      (0 < s.depth → candidate = s.candidate) ∧
      (s.depth = 0 → opensLookahead rest → candidate = some index) := by
  refine ⟨if s.depth = 0 then (if opensLookahead rest then some index else none)
    else s.candidate, ?_, fun hdepth ↦ if_neg (by omega), fun hdepth hrest ↦ ?_⟩
  · simp [step, stepOutside, hescaped, hp]
  · rw [if_pos hdepth, if_pos hrest]

/-- Outside of classes a parenthesis closes a group. -/
theorem step_close {s : LookaheadScan} (hescaped : s.escaped = false) (hp : s.position = .outside)
    (index : Nat) (rest : List Char) :
    s.step index ')' rest = { s with depth := s.depth - 1 } := by
  simp [step, stepOutside, hescaped, hp]

/-- Within a group a bar is not outside of all groups. -/
theorem Passes.group {bar : Bool} (h : Passes bar cs) : Passes false ('(' :: (cs ++ [')'])) := by
  intro s index more hescaped hp
  obtain ⟨candidate, hopen, hcandidate, -⟩ := step_open hescaped hp index (cs ++ [')'] ++ more)
  have hinner := h { s with depth := s.depth + 1, candidate } (index + 1) ([')'] ++ more) hescaped
    hp
  rw [pass, hopen, pass_append, pass, pass, step_close hinner.escaped hinner.position]
  refine ⟨?_, hinner.position, hinner.escaped, fun hdepth ↦ ?_, ?_⟩
  · exact congrArg (· - 1) hinner.depth
  · exact (hinner.candidate (Nat.succ_pos _)).trans (hcandidate hdepth)
  · exact hinner.alternation.trans (by simp)

end LookaheadScan

/-! ### The start of the lookahead -/

/-- The lookahead of a text is looked for behind a first part of it that has been passed. -/
theorem lookaheadStart?_append {more : List Char} (hmore : more ≠ []) (s : LookaheadScan)
    (index : Nat) (cs : List Char) :
    lookaheadStart? s index (cs ++ more) =
      lookaheadStart? (s.pass index cs more) (index + cs.length) more := by
  induction cs generalizing s index with
  | nil => rfl
  | cons c cs ih =>
    have hne : cs ++ more ≠ [] := by simp [hmore]
    rw [List.cons_append, lookaheadStart?, ih, LookaheadScan.pass, List.length_cons,
      Nat.add_right_comm, Nat.add_assoc]
    exact fun hnil ↦ hne hnil

/-- A bar that was passed is not forgotten. -/
theorem alternation_step {s : LookaheadScan} (hs : s.alternation) (index : Nat) (c : Char)
    (rest : List Char) : (s.step index c rest).alternation := by
  obtain ⟨depth, position, escaped, candidate, alternation⟩ := s
  obtain rfl : alternation = true := hs
  cases position <;>
    simp [LookaheadScan.step, LookaheadScan.stepOutside, LookaheadScan.stepInside,
      apply_ite LookaheadScan.alternation]

/-- Behind a bar outside of all groups no lookahead is found. -/
theorem lookaheadStart?_of_alternation {s : LookaheadScan} (hs : s.alternation) (index : Nat)
    (cs : List Char) : lookaheadStart? s index cs = none := by
  induction cs generalizing s index with
  | nil => rfl
  | cons c cs ih =>
    cases cs with
    | nil => simp [lookaheadStart?, hs]
    | cons c' cs =>
      rw [lookaheadStart?]
      · exact ih (alternation_step hs index c _) (index + 1)
      · simp

end ModeLexer.Pattern
