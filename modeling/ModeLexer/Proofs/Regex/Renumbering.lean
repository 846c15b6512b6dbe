import Mathlib.Data.List.Forall2
import ModeLexer.Proofs.Regex.Numbering
import ModeLexer.Proofs.Regex.Outcomes

/-!
# Groups and guards under other numbers

What stands in an expression before a part of it decides under which numbers the groups and guards
of the part are known, and nothing else. So a part that is renumbered is read, resolved and compiled
as it is alone, and its outcomes are the same, but for the numbers (`Program.forall₂_outcomes`).
-/

namespace ModeLexer.Regex

open Text

variable {f g : Nat → Nat}

/-! ### Expressions -/

namespace Expr

/-- An expression with its groups under other numbers. -/
def renumber (f : Nat → Nat) : Expr → Expr
  | empty => empty
  | set s => set s
  | look l => look l
  | capture i e => capture (f i) (e.renumber f)
  | concat a b => concat (a.renumber f) (b.renumber f)
  | alternate a b => alternate (a.renumber f) (b.renumber f)
  | repetition min max greedy e => repetition min max greedy (e.renumber f)

/-- Whether an expression matches nothing but the empty text has nothing to do with numbers. -/
@[simp] theorem onlyEmpty_renumber (e : Expr) : (e.renumber f).onlyEmpty = e.onlyEmpty := by
  induction e with
  | empty | set | look => rfl
  | capture _ _ ih | repetition _ _ _ _ ih => exact ih
  | concat _ _ iha ihb | alternate _ _ iha ihb =>
    rw [renumber, onlyEmpty, onlyEmpty, iha, ihb]

/-- Whether an expression always takes something has nothing to do with numbers. -/
@[simp] theorem consumes_renumber (e : Expr) : (e.renumber f).consumes = e.consumes := by
  induction e with
  | empty | set | look => rfl
  | capture _ _ ih => exact ih
  | repetition _ _ _ _ ih => rw [renumber, consumes, consumes, ih]
  | concat _ _ iha ihb | alternate _ _ iha ihb => rw [renumber, consumes, consumes, iha, ihb]

/-- Repetitions with bounds that leave no choice are simplified under any numbers. -/
theorem repeated_renumber (min : Nat) (max : Option Nat) (greedy : Bool) (e : Expr) :
    repeated min max greedy (e.renumber f) = (repeated min max greedy e).renumber f := by
  simp only [repeated, onlyEmpty_renumber]
  split <;> rfl

end Expr

/-- The expression of a renumbered term is that of the term, renumbered. -/
theorem Term.resolve_renumber (fl : Flags) (t : Term) :
    (t.renumber f).resolve fl = (t.resolve fl).map fun r ↦ (r.1.renumber f, r.2) := by
  induction t generalizing fl with
  | empty | setFlags => rfl
  | atom a =>
    cases a with
    | anchor | literal => rfl
    | byte c =>
      simp only [renumber, resolve, Atom.resolve]
      cases fl.byte c <;> rfl
    | dot =>
      simp only [renumber, resolve, Atom.resolve]
      cases fl.dot <;> rfl
    | charClass k negated =>
      simp only [renumber, resolve, Atom.resolve]
      cases fl.charClass k negated <;> rfl
    | property s negated =>
      simp only [renumber, resolve, Atom.resolve]
      cases fl.property s negated <;> rfl
  | bracket b =>
    simp only [renumber, resolve]
    cases b.resolve fl <;> rfl
  | capture i t ih =>
    rw [renumber, resolve, resolve, ih]
    cases t.resolve fl <;> rfl
  | group fc t ih =>
    rw [renumber, resolve, resolve, ih]
    cases t.resolve (fl.apply fc) <;> rfl
  | repetition min max greedy t ih =>
    rw [renumber, resolve, resolve, ih]
    cases t.resolve fl with
    | error e => rfl
    | ok r => exact congrArg (fun e ↦ Except.ok (e, r.2)) (Expr.repeated_renumber ..)
  | concat a b iha ihb | alternate a b iha ihb =>
    rw [renumber, resolve, resolve, iha]
    cases a.resolve fl with
    | error e => rfl
    | ok r =>
      simp only [Except.map, bind, Except.bind, ihb]
      cases b.resolve r.2 <;> rfl

/-! ### Programs -/

namespace Program

/-- A program with its groups and guards under other numbers. -/
def renumber (f g : Nat → Nat) : Program → Program
  | empty => empty
  | set a => set a
  | look l => look l
  | capture i p => capture (f i) (p.renumber f g)
  | seq p q => seq (p.renumber f g) (q.renumber f g)
  | choice guard p q => choice (guard.map g) (p.renumber f g) (q.renumber f g)
  | star guard greedy p => star (guard.map g) greedy (p.renumber f g)
  | plus guard greedy p => plus (guard.map g) greedy (p.renumber f g)

/-- Choices between a program and nothing are renumbered in the program. -/
theorem renumber_prefer (guard : Option Nat) (greedy : Bool) (p : Program) :
    (prefer guard greedy p .empty).renumber f g =
      prefer (guard.map g) greedy (p.renumber f g) .empty := by
  cases greedy <;> rfl

end Program

namespace Compile

/-- Whether what is made from `d` numbers further on is the same, renumbered. -/
def Renumbers (f : Nat → Nat) (d : Nat) (make make' : Compile Program) : Prop :=
  ∀ n, make' (n + d) = ((make n).1.renumber f (· + d), (make n).2 + d)

/-- Guards are numbered one after the other from any number on. -/
theorem guard_add (needed : Bool) (n d : Nat) :
    guard needed (n + d) = ((guard needed n).1.map (· + d), (guard needed n).2 + d) := by
  cases needed with
  | false => rfl
  | true => exact congrArg (Prod.mk _) (Nat.add_right_comm n d 1)

variable {d : Nat} {make make' last last' : Compile Program}

theorem copies_succ (make last : Compile Program) (k n : Nat) :
    copies make last (k + 1) n =
      (.seq (make n).1 (copies make last k (make n).2).1,
        (copies make last k (make n).2).2) := rfl

/-- Copies of a program are made alike from later numbers on. -/
theorem Renumbers.copies (hmake : Renumbers f d make make') (hlast : Renumbers f d last last')
    (k : Nat) : Renumbers f d (copies make last k) (copies make' last' k) := by
  induction k with
  | zero => exact hlast
  | succ k ih =>
    intro n
    rw [copies_succ, copies_succ, hmake n, ih]
    rfl

theorem optionalCopies_succ (needGuard greedy : Bool) (make : Compile Program) (k n : Nat) :
    optionalCopies needGuard greedy make (k + 1) n =
      (.prefer (guard needGuard n).1 greedy (.seq (make (guard needGuard n).2).1
          (optionalCopies needGuard greedy make k (make (guard needGuard n).2).2).1) .empty,
        (optionalCopies needGuard greedy make k (make (guard needGuard n).2).2).2) := rfl

/-- Optional copies of a program are made alike from later numbers on. -/
theorem Renumbers.optionalCopies (hmake : Renumbers f d make make') (needGuard greedy : Bool)
    (k : Nat) : Renumbers f d (optionalCopies needGuard greedy make k)
      (Compile.optionalCopies needGuard greedy make' k) := by
  induction k with
  | zero => exact fun n ↦ rfl
  | succ k ih =>
    intro n
    rw [optionalCopies_succ, optionalCopies_succ, guard_add, hmake, ih, Program.renumber_prefer]
    rfl

end Compile

namespace Expr

section

variable (inLoop greedy : Bool) (n : Nat)

/-- The second part of a concatenation is numbered behind the first one. -/
theorem compile_concat (a b : Expr) :
    (concat a b).compile inLoop n =
      (.seq (a.compile inLoop n).1 (b.compile inLoop (a.compile inLoop n).2).1,
        (b.compile inLoop (a.compile inLoop n).2).2) := rfl

/-- The guard of an alternation is numbered before its branches. -/
theorem compile_alternate (a b : Expr) :
    (alternate a b).compile inLoop n =
      let (g, n) := Compile.guard inLoop n
      (.choice g (a.compile inLoop n).1 (b.compile inLoop (a.compile inLoop n).2).1,
        (b.compile inLoop (a.compile inLoop n).2).2) := rfl

/-- What always takes something is repeated by a plain loop. -/
theorem compile_star {e : Expr} (he : e.consumes) :
    (repetition 0 none greedy e).compile inLoop n =
      let (g, n) := Compile.guard inLoop n
      (.star g greedy (e.compile inLoop n).1, (e.compile inLoop n).2) := by
  rw [compile, if_pos he]
  rfl

/-- What may take nothing is repeated once at least, or not at all. -/
theorem compile_optionalPlus {e : Expr} (he : ¬e.consumes) :
    (repetition 0 none greedy e).compile inLoop n =
      let (g, n) := Compile.guard inLoop n
      let (g', n) := Compile.guard true n
      (.prefer g greedy (.plus g' greedy (e.compile true n).1) .empty, (e.compile true n).2) := by
  rw [compile, if_neg he]
  rfl

end

/-- The program of a renumbered expression is that of the expression, renumbered, and its guards
are as much higher as the first one. -/
theorem renumbers_compile (d : Nat) (e : Expr) (inLoop : Bool) :
    Compile.Renumbers f d (e.compile inLoop) ((e.renumber f).compile inLoop) := by
  induction e generalizing inLoop with
  | empty | set | look => exact fun n ↦ rfl
  | capture i e ih =>
    exact fun n ↦ congrArg (fun r : Program × Nat ↦ (Program.capture (f i) r.1, r.2)) (ih inLoop n)
  | concat a b iha ihb =>
    intro n
    rw [renumber, compile_concat, compile_concat, iha, ihb]
    rfl
  | alternate a b iha ihb =>
    intro n
    rw [renumber, compile_alternate, compile_alternate, Compile.guard_add]
    simp only [iha inLoop _, ihb inLoop _]
    rfl
  | repetition min max greedy e ih =>
    match max, min with
    | some max, min =>
      rw [renumber, compile, compile]
      exact (ih inLoop).copies ((ih inLoop).optionalCopies inLoop greedy (max - min)) min
    | none, 0 =>
      intro n
      have hconsumes := e.consumes_renumber (f := f)
      by_cases he : e.consumes
      · rw [renumber, compile_star _ _ _ he, compile_star _ _ _ (hconsumes.trans he),
          Compile.guard_add]
        simp only [ih inLoop _]
        rfl
      · rw [renumber, compile_optionalPlus _ _ _ he, compile_optionalPlus _ _ _ (by simpa using he),
          Compile.guard_add]
        simp only [Compile.guard_add true, ih true _]
        cases greedy <;> rfl
    | none, min + 1 =>
      rw [renumber, compile, compile, consumes_renumber]
      refine (ih inLoop).copies (fun n ↦ ?_) min
      have hbody := ih (inLoop || !e.consumes) (Compile.guard (inLoop || !e.consumes) n).2
      show (fun (gs : Option Nat × Nat) ↦ (Program.plus gs.1 greedy
        ((e.renumber f).compile (inLoop || !e.consumes) gs.2).1,
        ((e.renumber f).compile (inLoop || !e.consumes) gs.2).2))
          (Compile.guard (inLoop || !e.consumes) (n + d)) = _
      rw [Compile.guard_add]
      simp only [hbody]
      rfl

end Expr

/-! ### Outcomes -/

/-- Whether two states are the same but for the numbers of groups and guards, where some groups have
been recorded before. -/
structure MatchState.Renumbered (f g : Nat → Nat) (recorded : List (Nat × Span))
    (s s' : MatchState) : Prop where
  before : s'.before = s.before
  rest : s'.rest = s.rest
  offset : s'.offset = s.offset
  groups : s'.groups = s.groups.map (fun x ↦ (f x.1, x.2)) ++ recorded
  passed : ∀ i, g i ∈ s'.passed ↔ i ∈ s.passed

/-- What has been recorded under a number is found under the new one, if nothing else has got
it. -/
theorem lookup_renumber {groups : List (Nat × Span)} {i : Nat}
    (hf : ∀ x ∈ groups, f x.1 = f i → x.1 = i) :
    (groups.map fun x ↦ (f x.1, x.2)).lookup (f i) = groups.lookup i := by
  induction groups with
  | nil => rfl
  | cons x groups ih =>
    obtain ⟨hx, hgroups⟩ := List.forall_mem_cons.1 hf
    by_cases hij : i = x.1
    · rw [List.map_cons, hij, List.lookup_cons_self, List.lookup_cons_self]
    · have hij' : (i == x.1) = false := by simpa using hij
      have hf' : (f i == f x.1) = false := by simpa using fun heq ↦ hij (hx heq.symm).symm
      rw [List.map_cons, List.lookup_cons, List.lookup_cons, hij', hf', ih hgroups]

namespace MatchState.Renumbered

variable {recorded : List (Nat × Span)} {s s' : MatchState}

/-- Taking a character leaves the states the same but for numbers. -/
theorem advance (h : Renumbered f g recorded s s') (c : Char) (cs : List Char) :
    Renumbered f g recorded (s.advance c cs) (s'.advance c cs) where
  before := rfl
  rest := rfl
  offset := congrArg (· + c.utf8Size) h.offset
  groups := h.groups
  passed := by simp [MatchState.advance]

/-- A group is recorded under its number in either state. -/
theorem record (h : Renumbered f g recorded s s') (i start : Nat) :
    Renumbered f g recorded (s.record i start) (s'.record (f i) start) where
  before := h.before
  rest := h.rest
  offset := h.offset
  groups := by simp [MatchState.record, h.groups, h.offset]
  passed := h.passed

/-- Both pass a guard or neither does. -/
theorem pass (hg : Function.Injective g) (h : Renumbered f g recorded s s')
    (guard : Option Nat) :
    Option.Rel (Renumbered f g recorded) (s.pass guard) (s'.pass (guard.map g)) := by
  cases guard with
  | none => exact .some h
  | some i =>
    by_cases hi : i ∈ s.passed
    · have hi' := (h.passed i).2 hi
      simp [MatchState.pass, hi, hi']
    · have hi' : g i ∉ s'.passed := fun hmem ↦ hi ((h.passed i).1 hmem)
      simp only [Option.map_some, MatchState.pass, List.contains_iff_mem, hi, hi', if_false]
      refine .some ⟨h.before, h.rest, h.offset, h.groups, fun j ↦ ?_⟩
      simp [h.passed, hg.eq_iff]

end MatchState.Renumbered

namespace Program

open MatchState

/-- The first result in two lists is the same, if related elements have the same result. -/
theorem findSome?_eq_of_forall₂ {α β γ : Type} {R : α → β → Prop} {f : α → Option γ}
    {g : β → Option γ} (hfg : ∀ a b, R a b → f a = g b) {as : List α} {bs : List β}
    (h : List.Forall₂ R as bs) : as.findSome? f = bs.findSome? g := by
  induction h with
  | nil => rfl
  | cons hab _ ih => rw [List.findSome?_cons, List.findSome?_cons, hfg _ _ hab, ih]

/-- The heads of two lists give the same, if related elements do. -/
theorem head?_map_eq_of_forall₂ {α β γ : Type} {R : α → β → Prop} {f : α → γ} {g : β → γ}
    (hfg : ∀ a b, R a b → f a = g b) {as : List α} {bs : List β} (h : List.Forall₂ R as bs) :
    as.head?.map f = bs.head?.map g := by
  cases h with
  | nil => rfl
  | cons hab _ => exact congrArg some (hfg _ _ hab)

variable {recorded : List (Nat × Span)}

/-- The outcomes of a loop are the same but for numbers, if those of its body are. -/
theorem forall₂_loopOutcomes (hg : Function.Injective g) {guard : Option Nat} (greedy : Bool)
    {body body' : MatchState → List MatchState}
    (hbody : ∀ {s s'}, Renumbered f g recorded s s' →
      List.Forall₂ (Renumbered f g recorded) (body s) (body' s'))
    (n : Nat) {s s' : MatchState} (h : Renumbered f g recorded s s') :
    List.Forall₂ (Renumbered f g recorded) (loopOutcomes guard greedy body n s)
      (loopOutcomes (guard.map g) greedy body' n s') := by
  induction n generalizing s s' with
  | zero => exact .nil
  | succ n ih =>
    rw [loopOutcomes, loopOutcomes]
    have hpass := h.pass hg guard
    generalize s.pass guard = next, s'.pass (guard.map g) = next' at hpass
    cases hpass with
    | none => exact .nil
    | some h₁ =>
      have hagain := List.rel_flatMap (hbody h₁) fun _ _ h ↦ ih h
      cases greedy
      · exact .cons h₁ hagain
      · exact List.rel_append hagain (.cons h₁ .nil)

/-- The outcomes of a renumbered program are those of the program, renumbered. -/
theorem forall₂_outcomes (hg : Function.Injective g) (p : Program) {s s' : MatchState}
    (h : Renumbered f g recorded s s') :
    List.Forall₂ (Renumbered f g recorded) (p.outcomes s) ((p.renumber f g).outcomes s') := by
  induction p generalizing s s' with
  | empty => exact .cons h .nil
  | set a =>
    rw [renumber, outcomes, outcomes, h.rest]
    cases s.rest with
    | nil => exact .nil
    | cons c cs =>
      cases ha : a.contains c
      · simp [ha]
      · simpa [ha] using h.advance c cs
  | look l =>
    rw [renumber, outcomes, outcomes, h.rest, h.before]
    split
    · exact .cons h .nil
    · exact .nil
  | capture i p ih =>
    rw [renumber, outcomes, outcomes, h.offset]
    exact List.rel_map (fun _ _ hs ↦ hs.record i s.offset) (ih h)
  | seq p q ihp ihq => exact List.rel_flatMap (ihp h) fun _ _ hs ↦ ihq hs
  | choice guard p q ihp ihq =>
    rw [renumber, outcomes, outcomes]
    have hpass := h.pass hg guard
    generalize s.pass guard = next, s'.pass (guard.map g) = next' at hpass
    cases hpass with
    | none => exact .nil
    | some h₁ => exact List.rel_append (ihp h₁) (ihq h₁)
  | star guard greedy p ih =>
    rw [renumber, outcomes, outcomes, h.rest]
    exact forall₂_loopOutcomes hg greedy ih _ h
  | plus guard greedy p ih =>
    rw [renumber, outcomes, outcomes, h.rest]
    exact List.rel_flatMap (ih h) fun _ _ hs ↦ forall₂_loopOutcomes hg greedy ih _ hs

end Program

end ModeLexer.Regex
