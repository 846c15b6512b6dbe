import ModeLexer.Proofs.Regex.Outcomes
import ModeLexer.Proofs.Regex.Traces

/-!
# Guards lose no word

A guard refuses a choice that has been made at the same position of the attempt before, so not
every way in which a program can take a word is an outcome. But some way is: a trace without
repetition is that of an outcome (`Program.realizes_outcomes`), provided that a loop without
a guard takes something in every round. What is compiled is made so, and its guards are different
from each other (`Expr.numbers_compile`). So the words that a compiled program can take are those of
its outcomes (`Expr.exists_outcome_iff_takes`).
-/

namespace ModeLexer.Regex

open Text Unicode Event

/-! ### Traces of outcomes -/

namespace MatchState

/-- Whether a state is the one behind a trace, as far as the position goes and what is passed at
it. -/
def AfterTrace (s : MatchState) (τ : List Event) (s' : MatchState) : Prop :=
  s.Behind (word τ) s' ∧ s'.passed = passedAfter s.passed τ

/-- Two traces, one after the other, lead where both lead together. -/
theorem AfterTrace.trans {s s' s'' : MatchState} {σ τ : List Event} (h : s.AfterTrace σ s')
    (h' : s'.AfterTrace τ s'') : s.AfterTrace (σ ++ τ) s'' := by
  refine ⟨?_, ?_⟩
  · rw [word_append]
    exact h.1.trans h'.1
  · rw [h'.2, h.2, passedAfter_append]

/-- Whether a trace is one that a match at a state may have: what it takes is there, and it passes
no guard twice at one position. -/
def Admits (s : MatchState) (τ : List Event) (rest : List Char) : Prop :=
  s.rest = word τ ++ rest ∧ Fresh s.passed τ

/-- The first part of a trace may come first. -/
theorem Admits.left {s : MatchState} {σ τ : List Event} {rest : List Char}
    (h : s.Admits (σ ++ τ) rest) : s.Admits σ (word τ ++ rest) :=
  ⟨by rw [h.1, word_append, List.append_assoc], (fresh_append.1 h.2).1⟩

/-- Behind the first part of a trace the second may come. -/
theorem Admits.right {s s' : MatchState} {σ τ : List Event} {rest : List Char}
    (h : s.Admits (σ ++ τ) rest) (hσ : s.AfterTrace σ s') : s'.Admits τ rest :=
  ⟨hσ.1.rest_eq (by rw [h.1, word_append]), hσ.2 ▸ (fresh_append.1 h.2).2⟩

/-- A guard that has not been passed yet lets a trace begin. -/
theorem exists_pass_of_admits {s : MatchState} {guard? : Option Nat} {τ : List Event}
    {rest : List Char} (h : s.Admits (at? guard? ++ τ) rest) :
    ∃ s', s.pass guard? = some s' ∧ s'.before = s.before ∧ s'.rest = s.rest ∧
      s.AfterTrace (at? guard?) s' ∧ s'.Admits τ rest := by
  cases guard? with
  | none => exact ⟨s, rfl, rfl, rfl, ⟨.refl s, rfl⟩, h⟩
  | some g =>
    have hpass : s.AfterTrace [guard g] { s with passed := g :: s.passed } :=
      ⟨⟨rfl, rfl, rfl⟩, rfl⟩
    exact ⟨{ s with passed := g :: s.passed }, by simp [pass, h.2.1], rfl, rfl, hpass,
      h.right hpass⟩

end MatchState

open MatchState

/-- Whatever a loop does first is to pass its guard. -/
theorem LoopTraces.eq_at?_append {guard? : Option Nat}
    {P : Option Char → List Event → List Char → Prop} {before : Option Char} {τ : List Event}
    {rest : List Char} (h : LoopTraces guard? P before τ rest) : ∃ σ, τ = at? guard? ++ σ := by
  cases h with
  | leave => exact ⟨[], by simp⟩
  | again => exact ⟨_, rfl⟩

/-- A round of a loop takes something, since it leads back to the guard of the loop. -/
theorem LoopTraces.word_ne_nil {guard? : Option Nat}
    {P : Option Char → List Event → List Char → Prop} {before : Option Char} {σ τ : List Event}
    {rest : List Char} {passed : List Nat} (h : LoopTraces guard? P before τ rest)
    (hfresh : Fresh passed (at? guard? ++ (σ ++ τ))) (hguard : guard?.isSome) : word σ ≠ [] := by
  obtain ⟨g, rfl⟩ := Option.isSome_iff_exists.1 hguard
  obtain ⟨τ', rfl⟩ := h.eq_at?_append
  intro hσ
  have hround : Fresh (g :: passed) (σ ++ guard g :: τ') := hfresh.2
  exact (fresh_append.1 hround).2.1 (mem_passedAfter (List.mem_cons_self ..) hσ)

namespace Program

/-- Whether every loop has a guard or takes something in every round. -/
def loopsGuarded : Program → Bool
  | empty | set _ | look _ => true
  | capture _ p => p.loopsGuarded
  | seq p q | choice _ p q => p.loopsGuarded && q.loopsGuarded
  | star guard? _ p | plus guard? _ p => (guard?.isSome || p.consumes) && p.loopsGuarded

/-- Whether the traces of a part of a program are those of its outcomes, at every state that admits
them. -/
def Realizes (body : MatchState → List MatchState)
    (P : Option Char → List Event → List Char → Prop) : Prop :=
  ∀ ⦃s : MatchState⦄ ⦃τ : List Event⦄ ⦃rest : List Char⦄, P s.before τ rest → s.Admits τ rest →
    ∃ s' ∈ body s, s.AfterTrace τ s'

/-- A trace of two parts is that of an outcome if the second part goes on from every state behind
the first. -/
theorem Realizes.flatMap {body next : MatchState → List MatchState}
    {P : Option Char → List Event → List Char → Prop} (h : Realizes body P) {s : MatchState}
    {σ τ : List Event} {rest : List Char} (hσ : P s.before σ (word τ ++ rest))
    (hadmits : s.Admits (σ ++ τ) rest)
    (hnext : ∀ s', s.AfterTrace σ s' → s'.Admits τ rest → ∃ s'' ∈ next s', s'.AfterTrace τ s'') :
    ∃ s'' ∈ (body s).flatMap next, s.AfterTrace (σ ++ τ) s'' := by
  obtain ⟨s', hmem, hafter⟩ := h hσ hadmits.left
  obtain ⟨s'', hmem', hafter'⟩ := hnext s' hafter (hadmits.right hafter)
  exact ⟨s'', List.mem_flatMap.2 ⟨s', hmem, hmem'⟩, hafter.trans hafter'⟩

/-- The traces of a loop are those of its outcomes, if those of its rounds are and a loop without a
guard takes something in every round. -/
theorem exists_loopOutcome_of_traces {guard? : Option Nat} (greedy : Bool)
    {body : MatchState → List MatchState} {P : Option Char → List Event → List Char → Prop}
    (hbody : Realizes body P)
    (hguarded : guard?.isSome ∨ ∀ before τ rest, P before τ rest → word τ ≠ [])
    {before : Option Char} {τ : List Event} {rest : List Char}
    (h : LoopTraces guard? P before τ rest) {s : MatchState} (hbefore : s.before = before)
    (hadmits : s.Admits τ rest) {n : Nat} (hn : s.rest.length < n) :
    ∃ s' ∈ loopOutcomes guard? greedy body n s, s.AfterTrace τ s' := by
  induction h generalizing s n with
  | leave =>
    obtain ⟨n, rfl⟩ : ∃ m, n = m + 1 := ⟨n - 1, by omega⟩
    rw [← List.append_nil (at? guard?)] at hadmits
    obtain ⟨s₁, hpass, -, -, h₁, -⟩ := exists_pass_of_admits hadmits
    refine ⟨s₁, ?_, h₁⟩
    cases greedy <;> simp [loopOutcomes, hpass]
  | @again before σ τ rest hσ hτ ih =>
    obtain ⟨n, rfl⟩ : ∃ m, n = m + 1 := ⟨n - 1, by omega⟩
    have hne : word σ ≠ [] := hguarded.elim (hτ.word_ne_nil hadmits.2) fun h ↦ h _ _ _ hσ
    obtain ⟨s₁, hpass, hbefore₁, hrest₁, h₁, hadmits₁⟩ := exists_pass_of_admits hadmits
    rw [← hbefore, ← hbefore₁] at hσ ih
    have hagain : ∃ s₂ ∈ (body s₁).flatMap (loopOutcomes guard? greedy body n),
        s₁.AfterTrace (σ ++ τ) s₂ := by
      refine hbody.flatMap hσ hadmits₁ fun s' hs' hadmits' ↦ ih hs'.1.before hadmits' ?_
      -- the round has taken a character, so one round less is enough
      have hlen := List.length_pos_iff.2 hne
      rw [← hrest₁, hs'.1.rest, List.length_append] at hn
      omega
    obtain ⟨s₂, hmem, h₂⟩ := hagain
    refine ⟨s₂, ?_, h₁.trans h₂⟩
    rw [loopOutcomes, hpass]
    cases greedy
    · exact List.mem_cons_of_mem s₁ hmem
    · exact List.mem_append_left [s₁] hmem

/-- A trace without repetition is that of an outcome. -/
theorem realizes_outcomes {p : Program} (hp : p.loopsGuarded) :
    Realizes p.outcomes p.Traces := by
  induction p with
  | empty =>
    rintro s τ rest rfl -
    exact ⟨s, by simp [outcomes], .refl s, rfl⟩
  | set a =>
    rintro s τ rest ⟨c, hc, rfl⟩ hadmits
    have hcons : s.rest = c :: rest := hadmits.1
    exact ⟨s.advance c rest, by simp [outcomes, hcons, hc], behind_advance hcons, rfl⟩
  | look l =>
    rintro s τ rest ⟨rfl, hl⟩ hadmits
    have hrest : s.rest = rest := hadmits.1
    exact ⟨s, by simp [outcomes, hrest, hl], .refl s, rfl⟩
  | capture i p ih =>
    intro s τ rest h hadmits
    obtain ⟨s', hmem, hbehind, hpassed⟩ := ih hp h hadmits
    exact ⟨s'.record i s.offset, List.mem_map_of_mem hmem,
      ⟨hbehind.rest, hbehind.before, hbehind.offset⟩, hpassed⟩
  | seq p q ihp ihq =>
    rw [loopsGuarded, Bool.and_eq_true] at hp
    rintro s τ rest ⟨σ, σ', rfl, hσ, hσ'⟩ hadmits
    exact (ihp hp.1).flatMap hσ hadmits fun s' hs' ↦ ihq hp.2 (hs'.1.before ▸ hσ')
  | choice guard? p q ihp ihq =>
    rw [loopsGuarded, Bool.and_eq_true] at hp
    rintro s τ rest ⟨σ, rfl, hσ⟩ hadmits
    obtain ⟨s₁, hpass, hbefore, -, h₁, hadmits₁⟩ := exists_pass_of_admits hadmits
    rw [← hbefore] at hσ
    rcases hσ with hσ | hσ
    · obtain ⟨s₂, hmem, h₂⟩ := ihp hp.1 hσ hadmits₁
      exact ⟨s₂, by simp [outcomes, hpass, hmem], h₁.trans h₂⟩
    · obtain ⟨s₂, hmem, h₂⟩ := ihq hp.2 hσ hadmits₁
      exact ⟨s₂, by simp [outcomes, hpass, hmem], h₁.trans h₂⟩
  | star guard? greedy p ih =>
    rw [loopsGuarded, Bool.and_eq_true, Bool.or_eq_true] at hp
    intro s τ rest h hadmits
    refine exists_loopOutcome_of_traces greedy (ih hp.2) ?_ h rfl hadmits (Nat.lt_succ_self _)
    exact hp.1.imp_right fun hc _ _ _ hτ ↦ ne_nil_of_takes hc (takes_of_traces hτ)
  | plus guard? greedy p ih =>
    rw [loopsGuarded, Bool.and_eq_true, Bool.or_eq_true] at hp
    rintro s τ rest ⟨σ, σ', rfl, hσ, hσ'⟩ hadmits
    refine (ih hp.2).flatMap hσ hadmits fun s' hs' hadmits' ↦ ?_
    refine exists_loopOutcome_of_traces greedy (ih hp.2) ?_ hσ' hs'.1.before hadmits' ?_
    · exact hp.1.imp_right fun hc _ _ _ hτ ↦ ne_nil_of_takes hc (takes_of_traces hτ)
    · rw [hs'.1.rest, List.length_append]
      omega

/-- Whether a program loses no word at its guards: they are different from each other, and loops
without a guard take something in every round. -/
def WellGuarded (p : Program) : Prop := p.guards.Nodup ∧ p.loopsGuarded

/-- Behind every word that can be taken there is an outcome. -/
theorem exists_outcome_of_takes {p : Program} (hp : p.WellGuarded) {s : MatchState}
    {w rest : List Char} (h : p.Takes s.before w rest) (hrest : s.rest = w ++ rest)
    (hpassed : s.passed = []) : ∃ s' ∈ p.outcomes s, s.Behind w s' := by
  obtain ⟨τ, rfl, hτ⟩ := exists_traces_of_takes h
  obtain ⟨σ, hword, hσ, hfresh⟩ := exists_fresh_traces hp.1 hτ
  rw [← hword] at hrest ⊢
  obtain ⟨s', hmem, hbehind, -⟩ :=
    realizes_outcomes hp.2 hσ ⟨hrest, by rwa [hpassed]⟩
  exact ⟨s', hmem, hbehind⟩

/-- A choice between a program and nothing has its own guard before those of the program. -/
theorem guards_prefer (guard? : Option Nat) (greedy : Bool) (p : Program) :
    (prefer guard? greedy p .empty).guards = guard?.toList ++ p.guards := by
  cases greedy <;> simp [prefer, guards]

/-- A choice between a program and nothing has the loops of the program. -/
theorem loopsGuarded_prefer (guard? : Option Nat) (greedy : Bool) (p : Program) :
    (prefer guard? greedy p .empty).loopsGuarded = p.loopsGuarded := by
  cases greedy <;> simp [prefer, loopsGuarded]

end Program

/-! ### What is compiled -/

namespace Compile

/-- Whether the guards of what is made are the next numbers. -/
def Numbers (make : Compile Program) : Prop :=
  ∀ n, ∃ k, (make n).2 = n + k ∧ (make n).1.guards = List.range' n k

/-- The next number is a guard where one is needed, and left for later where not. -/
theorem exists_guard (needed : Bool) (n : Nat) :
    ∃ k, (guard needed n).2 = n + k ∧ (guard needed n).1.toList = List.range' n k := by
  cases needed
  · exact ⟨0, rfl, rfl⟩
  · exact ⟨1, rfl, rfl⟩

/-- Guards of parts that are made one after the other. -/
theorem Numbers.after {make : Compile Program} (h : Numbers make) {n m k : Nat} {gs : List Nat}
    (hm : m = n + k) (hgs : gs = List.range' n k) :
    ∃ k', (make m).2 = n + k' ∧ gs ++ (make m).1.guards = List.range' n k' := by
  obtain ⟨k', hk', hguards⟩ := h m
  refine ⟨k + k', by rw [hk', hm, Nat.add_assoc], ?_⟩
  rw [hguards, hgs, hm, List.range'_append_1]

/-- Copies of a program have guards one after the other. -/
theorem Numbers.copies {make last : Compile Program} (hmake : Numbers make) (hlast : Numbers last)
    (k : Nat) : Numbers (copies make last k) := by
  induction k with
  | zero => exact hlast
  | succ k ih =>
    intro n
    obtain ⟨j, hj, hguards⟩ := hmake n
    exact ih.after hj hguards

/-- Optional copies of a program have guards one after the other. -/
theorem Numbers.optionalCopies {make : Compile Program} (hmake : Numbers make)
    (needGuard greedy : Bool) (k : Nat) :
    Numbers (optionalCopies needGuard greedy make k) := by
  induction k with
  | zero => exact fun n ↦ ⟨0, rfl, rfl⟩
  | succ k ih =>
    intro n
    obtain ⟨j, hj, hg⟩ := exists_guard needGuard n
    obtain ⟨j', hj', hguards⟩ := hmake.after hj hg
    obtain ⟨j'', hj'', hguards'⟩ := ih.after hj' hguards
    refine ⟨j'', hj'', ?_⟩
    rw [← hguards', List.append_assoc]
    exact Program.guards_prefer _ greedy _

/-- Whether all that is made has a property. -/
def Yields (P : Program → Prop) (make : Compile Program) : Prop := ∀ n, P (make n).1

/-- Copies of a program have a property that sequences keep. -/
theorem Yields.copies {P : Program → Prop} (hseq : ∀ p q, P p → P q → P (.seq p q))
    {make last : Compile Program} (hmake : Yields P make) (hlast : Yields P last) (k : Nat) :
    Yields P (copies make last k) := by
  induction k with
  | zero => exact hlast
  | succ k ih => exact fun n ↦ hseq _ _ (hmake n) (ih _)

/-- A copy that takes something is enough. -/
theorem Yields.consumes_copies {make last : Compile Program}
    (hmake : Yields (fun p ↦ p.consumes) make) {k : Nat}
    (hlast : k = 0 → Yields (fun p ↦ p.consumes) last) :
    Yields (fun p ↦ p.consumes) (Compile.copies make last k) := by
  cases k with
  | zero => exact hlast rfl
  | succ k => exact fun n ↦ Bool.or_eq_true_iff.2 (.inl (hmake n))

/-- Optional copies of a program have their loops guarded. -/
theorem Yields.optionalCopies {make : Compile Program}
    (hmake : Yields (fun p ↦ p.loopsGuarded) make) (needGuard greedy : Bool) (k : Nat) :
    Yields (fun p ↦ p.loopsGuarded) (optionalCopies needGuard greedy make k) := by
  induction k with
  | zero => exact fun n ↦ rfl
  | succ k ih =>
    intro n
    show (Program.prefer _ greedy (.seq _ _) .empty).loopsGuarded
    rw [Program.loopsGuarded_prefer]
    exact Bool.and_eq_true_iff.2 ⟨hmake _, ih _⟩

end Compile

namespace Expr

open Compile

/-- The guards of a program that is compiled are the next numbers. -/
theorem numbers_compile (e : Expr) (inLoop : Bool) : Numbers (e.compile inLoop) := by
  induction e generalizing inLoop with
  | empty | set | look => exact fun n ↦ ⟨0, rfl, rfl⟩
  | capture i e ih => exact ih inLoop
  | concat a b iha ihb =>
    intro n
    obtain ⟨k, hk, hguards⟩ := iha inLoop n
    exact (ihb inLoop).after hk hguards
  | alternate a b iha ihb =>
    intro n
    obtain ⟨k, hk, hg⟩ := exists_guard inLoop n
    obtain ⟨k', hk', hguards⟩ := (iha inLoop).after hk hg
    obtain ⟨k'', hk'', hguards'⟩ := (ihb inLoop).after hk' hguards
    exact ⟨k'', hk'', by rw [← hguards', List.append_assoc]; rfl⟩
  | repetition min max greedy e ih =>
    match max, min with
    | some max, min =>
      rw [compile]
      exact (ih inLoop).copies ((ih inLoop).optionalCopies inLoop greedy (max - min)) min
    | none, 0 =>
      intro n
      rw [compile]
      obtain ⟨k, hk, hg⟩ := exists_guard inLoop n
      split
      · exact (ih inLoop).after hk hg
      · obtain ⟨k', hk', hg'⟩ := exists_guard true (guard inLoop n).2
        have hboth : (guard inLoop n).1.toList ++ (guard true (guard inLoop n).2).1.toList =
            List.range' n (k + k') := by
          rw [hg', hg, hk, List.range'_append_1]
        obtain ⟨k'', hk'', hguards⟩ :=
          (ih true).after (hk'.trans (by rw [hk, Nat.add_assoc])) hboth
        refine ⟨k'', hk'', ?_⟩
        rw [← hguards, List.append_assoc]
        exact Program.guards_prefer _ greedy _
    | none, min + 1 =>
      rw [compile]
      refine (ih inLoop).copies (fun n ↦ ?_) min
      obtain ⟨k, hk, hg⟩ := exists_guard (inLoop || !e.consumes) n
      exact (ih _).after hk hg

/-- What takes something is compiled to what takes something. -/
theorem consumes_compile {e : Expr} (he : e.consumes) (inLoop : Bool) :
    Yields (fun p ↦ p.consumes) (e.compile inLoop) := by
  induction e generalizing inLoop with
  | empty | look => simp [consumes] at he
  | set => exact fun _ ↦ rfl
  | capture i e ih => exact fun n ↦ ih he inLoop n
  | concat a b iha ihb =>
    rw [consumes, Bool.or_eq_true] at he
    exact fun n ↦ Bool.or_eq_true_iff.2
      (he.imp (fun ha ↦ iha ha inLoop n) fun hb ↦ ihb hb inLoop _)
  | alternate a b iha ihb =>
    rw [consumes, Bool.and_eq_true] at he
    exact fun n ↦ Bool.and_eq_true_iff.2 ⟨iha he.1 inLoop _, ihb he.2 inLoop _⟩
  | repetition min max greedy e ih =>
    rw [consumes, Bool.and_eq_true, decide_eq_true_eq] at he
    match max, min with
    | some max, min =>
      rw [compile]
      exact Yields.consumes_copies (ih he.2 inLoop) fun hzero ↦ by omega
    | none, 0 => exact absurd he.1 (Nat.lt_irrefl 0)
    | none, min + 1 =>
      rw [compile]
      exact Yields.consumes_copies (ih he.2 inLoop) fun _ n ↦ ih he.2 _ _

/-- What is compiled has a guard on every loop whose body may take nothing. -/
theorem loopsGuarded_compile (e : Expr) (inLoop : Bool) :
    Yields (fun p ↦ p.loopsGuarded) (e.compile inLoop) := by
  have hseq : ∀ p q : Program, p.loopsGuarded → q.loopsGuarded → (Program.seq p q).loopsGuarded :=
    fun _ _ hp hq ↦ Bool.and_eq_true_iff.2 ⟨hp, hq⟩
  induction e generalizing inLoop with
  | empty | set | look => exact fun _ ↦ rfl
  | capture i e ih => exact fun n ↦ ih inLoop n
  | concat a b iha ihb => exact fun n ↦ hseq _ _ (iha inLoop n) (ihb inLoop _)
  | alternate a b iha ihb => exact fun n ↦ hseq _ _ (iha inLoop _) (ihb inLoop _)
  | repetition min max greedy e ih =>
    match max, min with
    | some max, min =>
      rw [compile]
      exact Yields.copies hseq (ih inLoop)
        (Yields.optionalCopies (ih inLoop) inLoop greedy (max - min)) min
    | none, 0 =>
      intro n
      rw [compile]
      split
      · next he =>
        exact Bool.and_eq_true_iff.2
          ⟨Bool.or_eq_true_iff.2 (.inr (consumes_compile he inLoop _)), ih inLoop _⟩
      · show (Program.prefer _ greedy (.plus _ greedy _) .empty).loopsGuarded
        rw [Program.loopsGuarded_prefer]
        exact ih true _
    | none, min + 1 =>
      rw [compile]
      refine Yields.copies hseq (ih inLoop) (fun n ↦ ?_) min
      refine Bool.and_eq_true_iff.2 ⟨Bool.or_eq_true_iff.2 ?_, ih _ _⟩
      -- without a guard the loop takes something
      by_cases he : e.consumes
      · exact .inr (consumes_compile he _ _)
      · left
        show (Compile.guard (inLoop || !e.consumes) n).1.isSome
        have hneeded : (inLoop || !e.consumes) = true := by simp [he]
        rw [hneeded]
        rfl

/-- What is compiled loses no word at its guards. -/
theorem wellGuarded_compile (e : Expr) (inLoop : Bool) (n : Nat) :
    (e.compile inLoop n).1.WellGuarded := by
  obtain ⟨k, -, hguards⟩ := e.numbers_compile inLoop n
  exact ⟨hguards ▸ List.nodup_range', e.loopsGuarded_compile inLoop n⟩

/-- The words that a compiled program can take are those of its outcomes. -/
theorem exists_outcome_iff_takes (e : Expr) {s : MatchState} (hs : s.passed = [])
    {w rest : List Char} (hrest : s.rest = w ++ rest) :
    (∃ s' ∈ (e.compile false 0).1.outcomes s, s.Behind w s') ↔
      (e.compile false 0).1.Takes s.before w rest := by
  constructor
  · rintro ⟨s', hmem, hbehind⟩
    obtain ⟨w', hbehind', htakes⟩ := Program.exists_takes_of_mem_outcomes hmem
    have hrest' : s'.rest = rest := List.append_cancel_left (hbehind.rest.symm.trans hrest)
    have hw : w' = w := List.append_cancel_right (hbehind'.rest.symm.trans hbehind.rest)
    rwa [hw, hrest'] at htakes
  · exact fun h ↦ Program.exists_outcome_of_takes (e.wellGuarded_compile false 0) h hrest hs

end Expr

end ModeLexer.Regex
