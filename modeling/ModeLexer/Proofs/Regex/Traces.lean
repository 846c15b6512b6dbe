import ModeLexer.Proofs.Regex.Language

/-!
# Traces of matches

A trace names what happens in the course of a match: the guards that are passed and the characters
that are taken (`Program.Traces`). It says nothing of guards that refuse; that no guard is passed
twice without a character between is a property that a trace can have or not (`Event.Fresh`).

Where a trace passes a guard twice at one position, what lies between can be left out: behind both
visits comes the same part of the program, so the one may be followed by what follows the other
(`Program.spliceable_traces`, which asks that the guards of a program are different from each
other; `Spliceable` has one lemma for each kind of program that holds guards).
Hence a word that has a trace has one without repetition (`Program.exists_fresh_traces`).
-/

namespace ModeLexer.Regex

open Text Unicode

/-! ### Traces -/

/-- What happens in the course of a match. -/
inductive Event where
  | guard (g : Nat)
  | take (c : Char)

namespace Event

/-- The characters that are taken. -/
def word : List Event → List Char
  | [] => []
  | guard _ :: τ => word τ
  | take c :: τ => c :: word τ

@[simp] theorem word_nil : word [] = [] := rfl

@[simp] theorem word_guard (g : Nat) (τ : List Event) : word (guard g :: τ) = word τ := rfl

@[simp] theorem word_take (c : Char) (τ : List Event) : word (take c :: τ) = c :: word τ := rfl

@[simp] theorem word_append (σ τ : List Event) : word (σ ++ τ) = word σ ++ word τ := by
  induction σ with
  | nil => rfl
  | cons e σ ih => cases e <;> simp [ih]

/-- What happens at a choice that may have a guard. -/
def at? (guard? : Option Nat) : List Event := guard?.toList.map guard

@[simp] theorem word_at? (guard? : Option Nat) : word (at? guard?) = [] := by
  cases guard? <;> rfl

/-- Where a guard stands in a trace that is put together of two. -/
theorem guard_mem_append {α β σ τ : List Event} {g : Nat} (h : α ++ guard g :: β = σ ++ τ) :
    (∃ δ, σ = α ++ guard g :: δ ∧ β = δ ++ τ) ∨ ∃ δ, α = σ ++ δ ∧ τ = δ ++ guard g :: β := by
  rcases List.append_eq_append_iff.1 h with ⟨δ, rfl, hδ⟩ | ⟨δ, rfl, rfl⟩
  · cases δ with
    | nil => exact .inr ⟨[], by simp, by simpa using hδ.symm⟩
    | cons e δ =>
      obtain ⟨rfl, rfl⟩ := List.cons.inj hδ
      exact .inl ⟨δ, rfl, rfl⟩
  · exact .inr ⟨δ, rfl, rfl⟩

/-- Where a guard stands in a trace that begins at a choice. -/
theorem guard_mem_at? {guard? : Option Nat} {α β τ : List Event} {g : Nat}
    (h : α ++ guard g :: β = at? guard? ++ τ) :
    α = [] ∧ guard? = some g ∧ β = τ ∨ ∃ δ, α = at? guard? ++ δ ∧ τ = δ ++ guard g :: β := by
  cases guard? with
  | none => exact .inr ⟨α, rfl, h.symm⟩
  | some x =>
    cases α with
    | nil =>
      obtain ⟨hx, rfl⟩ := List.cons.inj h
      obtain rfl := Event.guard.inj hx
      exact .inl ⟨rfl, rfl, rfl⟩
    | cons e α =>
      obtain ⟨rfl, rfl⟩ := List.cons.inj h
      exact .inr ⟨α, rfl, rfl⟩

end Event

open Event

/-- The traces of a loop: each round is announced by the guard of the loop, and so is its end. -/
inductive LoopTraces (guard? : Option Nat) (P : Option Char → List Event → List Char → Prop) :
    Option Char → List Event → List Char → Prop
  | leave {before : Option Char} {rest : List Char} : LoopTraces guard? P before (at? guard?) rest
  | again {before : Option Char} {σ τ : List Event} {rest : List Char}
      (h : P before σ (word τ ++ rest)) (h' : LoopTraces guard? P (lastOr before (word σ)) τ rest) :
      LoopTraces guard? P before (at? guard? ++ (σ ++ τ)) rest

namespace Program

/-- Whether a program has a trace behind `before` and in front of `rest`. -/
def Traces : Program → Option Char → List Event → List Char → Prop
  | empty, _, τ, _ => τ = []
  | set a, _, τ, _ => ∃ c, a.contains c ∧ τ = [take c]
  | look l, before, τ, rest => τ = [] ∧ l.holds before rest.head?
  | capture _ p, before, τ, rest => p.Traces before τ rest
  | seq p q, before, τ, rest =>
    ∃ σ σ', τ = σ ++ σ' ∧ p.Traces before σ (word σ' ++ rest) ∧
      q.Traces (lastOr before (word σ)) σ' rest
  | choice guard? p q, before, τ, rest =>
    ∃ σ, τ = at? guard? ++ σ ∧ (p.Traces before σ rest ∨ q.Traces before σ rest)
  | star guard? _ p, before, τ, rest => LoopTraces guard? p.Traces before τ rest
  | plus guard? _ p, before, τ, rest =>
    ∃ σ σ', τ = σ ++ σ' ∧ p.Traces before σ (word σ' ++ rest) ∧
      LoopTraces guard? p.Traces (lastOr before (word σ)) σ' rest

/-- The rounds of a loop have a trace, if every round has one. -/
theorem exists_loopTraces_of_rounds {guard? : Option Nat}
    {P : Option Char → List Char → List Char → Prop}
    {Q : Option Char → List Event → List Char → Prop}
    (hP : ∀ before w rest, P before w rest → ∃ τ, word τ = w ∧ Q before τ rest)
    {before : Option Char} {w rest : List Char} (h : Rounds P before w rest) :
    ∃ τ, word τ = w ∧ LoopTraces guard? Q before τ rest := by
  induction h with
  | done => exact ⟨at? guard?, word_at? guard?, .leave⟩
  | more hu _ ih =>
    obtain ⟨σ, rfl, hσ⟩ := hP _ _ _ hu
    obtain ⟨τ, rfl, hτ⟩ := ih
    exact ⟨at? guard? ++ (σ ++ τ), by simp, .again hσ hτ⟩

/-- Every word that a program takes has a trace. -/
theorem exists_traces_of_takes {p : Program} {before : Option Char} {w rest : List Char}
    (h : p.Takes before w rest) : ∃ τ, word τ = w ∧ p.Traces before τ rest := by
  induction p generalizing before w rest with
  | empty => exact ⟨[], h.symm, rfl⟩
  | set a =>
    obtain ⟨c, hc, rfl⟩ := h
    exact ⟨[take c], rfl, c, hc, rfl⟩
  | look l => exact ⟨[], h.1.symm, rfl, h.2⟩
  | capture i p ih => exact ih h
  | seq p q ihp ihq =>
    obtain ⟨u, v, rfl, hu, hv⟩ := h
    obtain ⟨σ, rfl, hσ⟩ := ihp hu
    obtain ⟨σ', rfl, hσ'⟩ := ihq hv
    exact ⟨σ ++ σ', word_append σ σ', σ, σ', rfl, hσ, hσ'⟩
  | choice guard? p q ihp ihq =>
    rcases h with h | h
    · obtain ⟨σ, rfl, hσ⟩ := ihp h
      exact ⟨at? guard? ++ σ, by simp, σ, rfl, .inl hσ⟩
    · obtain ⟨σ, rfl, hσ⟩ := ihq h
      exact ⟨at? guard? ++ σ, by simp, σ, rfl, .inr hσ⟩
  | star guard? greedy p ih => exact exists_loopTraces_of_rounds (P := p.Takes) (fun _ _ _ ↦ ih) h
  | plus guard? greedy p ih =>
    obtain ⟨u, v, rfl, hu, hv⟩ := h
    obtain ⟨σ, rfl, hσ⟩ := ih hu
    obtain ⟨σ', rfl, hσ'⟩ := exists_loopTraces_of_rounds (P := p.Takes) (fun _ _ _ ↦ ih) hv
    exact ⟨σ ++ σ', word_append σ σ', σ, σ', rfl, hσ, hσ'⟩

theorem rounds_of_loopTraces {guard? : Option Nat}
    {P : Option Char → List Char → List Char → Prop}
    {Q : Option Char → List Event → List Char → Prop}
    (hP : ∀ before τ rest, Q before τ rest → P before (word τ) rest)
    {before : Option Char} {τ : List Event} {rest : List Char}
    (h : LoopTraces guard? Q before τ rest) : Rounds P before (word τ) rest := by
  induction h with
  | leave =>
    rw [word_at?]
    exact .done
  | again hσ _ ih =>
    rw [word_append, word_append, word_at?, List.nil_append]
    exact .more (hP _ _ _ hσ) ih

/-- A trace takes a word of the program. -/
theorem takes_of_traces {p : Program} {before : Option Char} {τ : List Event} {rest : List Char}
    (h : p.Traces before τ rest) : p.Takes before (word τ) rest := by
  induction p generalizing before τ rest with
  | empty =>
    obtain rfl := h
    rfl
  | set a =>
    obtain ⟨c, hc, rfl⟩ := h
    exact ⟨c, hc, rfl⟩
  | look l =>
    obtain ⟨rfl, hl⟩ := h
    exact ⟨rfl, hl⟩
  | capture i p ih => exact ih h
  | seq p q ihp ihq =>
    obtain ⟨σ, σ', rfl, hσ, hσ'⟩ := h
    exact ⟨word σ, word σ', word_append σ σ', ihp hσ, ihq hσ'⟩
  | choice guard? p q ihp ihq =>
    obtain ⟨σ, rfl, hσ⟩ := h
    rw [word_append, word_at?, List.nil_append]
    exact hσ.imp ihp ihq
  | star guard? greedy p ih => exact rounds_of_loopTraces (P := p.Takes) (fun _ _ _ ↦ ih) h
  | plus guard? greedy p ih =>
    obtain ⟨σ, σ', rfl, hσ, hσ'⟩ := h
    exact ⟨word σ, word σ', word_append σ σ', ih hσ,
      rounds_of_loopTraces (P := p.Takes) (fun _ _ _ ↦ ih) hσ'⟩

/-! ### Leaving out what lies between two visits of a guard -/

/-- The guards of a program. -/
def guards : Program → List Nat
  | empty | set _ | look _ => []
  | capture _ p => p.guards
  | seq p q => p.guards ++ q.guards
  | choice guard? p q => guard?.toList ++ (p.guards ++ q.guards)
  | star guard? _ p | plus guard? _ p => guard?.toList ++ p.guards

end Program

theorem LoopTraces.mem {guard? : Option Nat} {P : Option Char → List Event → List Char → Prop}
    {gs : List Nat} {g : Nat} (hP : ∀ before τ rest, P before τ rest → guard g ∈ τ → g ∈ gs)
    {before : Option Char} {τ : List Event} {rest : List Char}
    (h : LoopTraces guard? P before τ rest) (hg : guard g ∈ τ) :
    g ∈ guard?.toList ++ gs := by
  have hat : guard g ∈ at? guard? → g ∈ guard?.toList := by
    cases guard? <;> simp [at?]
  induction h with
  | leave => exact List.mem_append_left _ (hat hg)
  | again hσ _ ih =>
    rw [List.mem_append, List.mem_append] at hg
    rcases hg with hg | hg | hg
    · exact List.mem_append_left _ (hat hg)
    · exact List.mem_append_right _ (hP _ _ _ hσ hg)
    · exact ih hg

/-- A trace passes guards of the program only. -/
theorem Program.mem_guards_of_traces {p : Program} {before : Option Char} {τ : List Event}
    {rest : List Char} (h : p.Traces before τ rest) {g : Nat} (hg : guard g ∈ τ) :
    g ∈ p.guards := by
  induction p generalizing before τ rest with
  | empty =>
    obtain rfl := h
    simp at hg
  | set a =>
    obtain ⟨c, -, rfl⟩ := h
    simp at hg
  | look l =>
    obtain ⟨rfl, -⟩ := h
    simp at hg
  | capture i p ih => exact ih h hg
  | seq p q ihp ihq =>
    obtain ⟨σ, σ', rfl, hσ, hσ'⟩ := h
    exact List.mem_append.2 ((List.mem_append.1 hg).imp (ihp hσ) (ihq hσ'))
  | choice guard? p q ihp ihq =>
    obtain ⟨σ, rfl, hσ⟩ := h
    rw [guards, List.mem_append, List.mem_append]
    rcases List.mem_append.1 hg with hg | hg
    · left
      cases guard? <;> simp_all [at?]
    · exact .inr (hσ.imp (ihp · hg) (ihq · hg))
  | star guard? greedy p ih => exact LoopTraces.mem (fun _ _ _ ↦ ih) h hg
  | plus guard? greedy p ih =>
    obtain ⟨σ, σ', rfl, hσ, hσ'⟩ := h
    rcases List.mem_append.1 hg with hg | hg
    · exact List.mem_append_right _ (ih hσ hg)
    · exact LoopTraces.mem (fun _ _ _ ↦ ih) hσ' hg

namespace LoopTraces

variable {guard? : Option Nat} {P : Option Char → List Event → List Char → Prop}
  {before before' : Option Char} {α α' β γ : List Event} {rest rest' : List Char} {g : Nat}

/-- How a loop goes on from a guard: this is the guard of the loop itself, or it is passed in a
round, behind which the loop goes on. -/
theorem exists_from_guard (h : LoopTraces guard? P before (α ++ guard g :: γ) rest) :
    guard? = some g ∧ LoopTraces guard? P (lastOr before (word α)) (guard g :: γ) rest ∨
    ∃ start σ δ δ', γ = δ ++ δ' ∧ lastOr start (word σ) = lastOr before (word α) ∧
      P start (σ ++ guard g :: δ) (word δ' ++ rest) ∧
      LoopTraces guard? P (lastOr start (word (σ ++ guard g :: δ))) δ' rest := by
  generalize hτ : α ++ guard g :: γ = τ at h
  induction h generalizing α γ with
  | leave =>
    rw [← List.append_nil (at? guard?)] at hτ
    rcases guard_mem_at? hτ with ⟨rfl, rfl, rfl⟩ | ⟨δ, -, hδ⟩
    · exact .inl ⟨rfl, .leave⟩
    · simp at hδ
  | @again before σ τ rest hσ hτ' ih =>
    rcases guard_mem_at? hτ with ⟨rfl, rfl, rfl⟩ | ⟨δ, rfl, hδ⟩
    · exact .inl ⟨rfl, .again hσ hτ'⟩
    rcases guard_mem_append hδ.symm with ⟨ε, rfl, rfl⟩ | ⟨ε, rfl, rfl⟩
    · exact .inr ⟨before, δ, ε, τ, rfl, by simp, hσ, hτ'⟩
    · have hlast : lastOr (lastOr before (word σ)) (word ε) =
          lastOr before (word (at? guard? ++ (σ ++ ε))) := by simp [lastOr_append]
      rw [← hlast]
      exact ih rfl

end LoopTraces

/-- Whether of two traces that pass a guard at the same position one may go on like the other. -/
def Spliceable (g : Nat) (P : Option Char → List Event → List Char → Prop) : Prop :=
  ∀ {before before' : Option Char} {α α' β γ : List Event} {rest rest' : List Char},
    P before (α ++ guard g :: β) rest → P before' (α' ++ guard g :: γ) rest' →
    lastOr before (word α) = lastOr before' (word α') → word β ++ rest = word γ ++ rest' →
    P before (α ++ guard g :: γ) rest'

namespace LoopTraces

variable {guard? : Option Nat} {P : Option Char → List Event → List Char → Prop}
  {before before' : Option Char} {σ σ' τ β γ : List Event} {rest rest' : List Char} {g : Nat}

/-- A round that passes a guard may go on like a loop from the same position on, unless the guard is
that of the loop. -/
theorem splice_round (hP : Spliceable g P)
    (hown : ∀ {before : Option Char} {τ : List Event} {rest : List Char}, P before τ rest →
      guard g ∈ τ → guard? ≠ some g)
    (hround : P before (σ ++ guard g :: β) rest)
    (hloop : LoopTraces guard? P before' (σ' ++ guard g :: γ) rest')
    (hbefore : lastOr before (word σ) = lastOr before' (word σ'))
    (hrest : word β ++ rest = word γ ++ rest') :
    ∃ δ δ', γ = δ ++ δ' ∧ P before (σ ++ guard g :: δ) (word δ' ++ rest') ∧
      LoopTraces guard? P (lastOr before (word (σ ++ guard g :: δ))) δ' rest' := by
  rcases hloop.exists_from_guard with ⟨hg, -⟩ | ⟨start, ε, δ, δ', rfl, hstart, hround', hlast⟩
  · exact absurd hg (hown hround (by simp))
  have hpos : lastOr before (word σ) = lastOr start (word ε) := hbefore.trans hstart.symm
  have hend : lastOr start (word (ε ++ guard g :: δ)) =
      lastOr before (word (σ ++ guard g :: δ)) := by simp [lastOr_append, hpos]
  exact ⟨δ, δ', rfl, hP hround hround' hpos (by simpa using hrest), hend ▸ hlast⟩

/-- The traces of a loop may be spliced where those of a round may, if the guard of the loop is not
one of the round. -/
theorem spliceable (hP : Spliceable g P)
    (hown : ∀ {before : Option Char} {τ : List Event} {rest : List Char}, P before τ rest →
      guard g ∈ τ → guard? ≠ some g) :
    Spliceable g (LoopTraces guard? P) := by
  intro before before' α α' β γ rest rest' h h' hbefore hrest
  -- behind its own guard a loop goes on like any other
  have hfrom : guard? = some g →
      LoopTraces guard? P (lastOr before' (word α')) (guard g :: γ) rest' := fun hg ↦ by
    rcases h'.exists_from_guard with ⟨-, hloop⟩ | ⟨start, σ, δ, δ', -, -, hround, -⟩
    · exact hloop
    · exact absurd hg (hown hround (by simp))
  generalize hτ : α ++ guard g :: β = τ at h
  induction h generalizing α β with
  | leave =>
    rw [← List.append_nil (at? guard?)] at hτ
    rcases guard_mem_at? hτ with ⟨rfl, hg, rfl⟩ | ⟨δ, -, hδ⟩
    · have hloop := hfrom hg
      rwa [← hbefore] at hloop
    · simp at hδ
  | @again before σ τ rest hσ hτ' ih =>
    rcases guard_mem_at? hτ with ⟨rfl, hg, rfl⟩ | ⟨δ, rfl, hδ⟩
    · have hloop := hfrom hg
      rwa [← hbefore] at hloop
    rw [List.append_assoc]
    rcases guard_mem_append hδ.symm with ⟨ε, rfl, rfl⟩ | ⟨ε, rfl, rfl⟩
    · -- the guard is passed in this round
      obtain ⟨ζ, ζ', rfl, hround, hloop⟩ := splice_round hP hown hσ h'
        (by simpa using hbefore) (by simpa [List.append_assoc] using hrest)
      have happ : δ ++ guard g :: (ζ ++ ζ') = (δ ++ guard g :: ζ) ++ ζ' := by simp
      exact happ ▸ .again hround hloop
    · -- the guard is passed in a later one
      have hpos : lastOr (lastOr before (word σ)) (word ε) = lastOr before' (word α') := by
        simpa [lastOr_append] using hbefore
      have hrest' : word (ε ++ guard g :: β) ++ rest = word (ε ++ guard g :: γ) ++ rest' := by
        simp [hrest]
      rw [List.append_assoc]
      exact .again (hrest' ▸ hσ) (ih hpos hrest rfl)

end LoopTraces

namespace Program

variable {p q : Program} {guard? : Option Nat} {g : Nat}

/-- The traces of a sequence may be spliced where those of its parts may, if the guard is not in
both of them. -/
theorem spliceable_seq (hp : Spliceable g p.Traces) (hq : Spliceable g q.Traces)
    (hdisjoint : g ∈ p.guards → g ∉ q.guards) : Spliceable g (seq p q).Traces := by
  rintro before before' α α' β γ rest rest' ⟨σ, τ, hαβ, hσ, hτ⟩ ⟨σ', τ', hαγ, hσ', hτ'⟩
    hbefore hrest
  rcases guard_mem_append hαβ with ⟨δ, rfl, rfl⟩ | ⟨δ, rfl, rfl⟩ <;>
    rcases guard_mem_append hαγ with ⟨δ', rfl, rfl⟩ | ⟨δ', rfl, rfl⟩
  · have hleft := hp hσ hσ' hbefore (by simpa using hrest)
    have hlast : lastOr before' (word (α' ++ guard g :: δ')) =
        lastOr before (word (α ++ guard g :: δ')) := by simp [lastOr_append, hbefore]
    exact ⟨_, τ', by simp, hleft, hlast ▸ hτ'⟩
  · exact absurd (mem_guards_of_traces hτ' (by simp))
      (hdisjoint (mem_guards_of_traces hσ (by simp)))
  · exact absurd (mem_guards_of_traces hτ (by simp))
      (hdisjoint (mem_guards_of_traces hσ' (by simp)))
  · have hbefore' : lastOr (lastOr before (word σ)) (word δ) =
        lastOr (lastOr before' (word σ')) (word δ') := by
      simpa [lastOr_append] using hbefore
    have hrest' : word (δ ++ guard g :: β) ++ rest = word (δ ++ guard g :: γ) ++ rest' := by
      simp [hrest]
    exact ⟨σ, _, by simp, hrest' ▸ hσ, hq hτ hτ' hbefore' hrest⟩

/-- The traces of a choice may be spliced where those of its branches may, if the guard is in one
place only: before the choice, or in one of the branches. -/
theorem spliceable_choice (hp : Spliceable g p.Traces) (hq : Spliceable g q.Traces)
    (hdisjoint : g ∈ p.guards → g ∉ q.guards)
    (hown : guard? = some g → g ∉ p.guards ++ q.guards) :
    Spliceable g (choice guard? p q).Traces := by
  rintro before before' α α' β γ rest rest' ⟨σ, hαβ, hσ⟩ ⟨σ', hαγ, hσ'⟩ hbefore hrest
  have hmem : ∀ {before τ rest}, p.Traces before τ rest ∨ q.Traces before τ rest →
      guard g ∈ τ → guard? ≠ some g := fun hτ hg hown' ↦
    hown hown' (List.mem_append.2 (hτ.imp (mem_guards_of_traces · hg) (mem_guards_of_traces · hg)))
  rcases guard_mem_at? hαβ with ⟨rfl, hg, rfl⟩ | ⟨δ, rfl, rfl⟩ <;>
    rcases guard_mem_at? hαγ with ⟨rfl, hg', rfl⟩ | ⟨δ', rfl, rfl⟩
  · obtain rfl : before = before' := hbefore
    exact ⟨γ, by simp [hg, at?], hσ'⟩
  · exact absurd hg (hmem hσ' (by simp))
  · exact absurd hg' (hmem hσ (by simp))
  · have hbefore' : lastOr before (word δ) = lastOr before' (word δ') := by
      simpa using hbefore
    refine ⟨δ ++ guard g :: γ, by simp, ?_⟩
    rcases hσ with hσ | hσ <;> rcases hσ' with hσ' | hσ'
    · exact .inl (hp hσ hσ' hbefore' hrest)
    · exact absurd (mem_guards_of_traces hσ' (by simp))
        (hdisjoint (mem_guards_of_traces hσ (by simp)))
    · exact absurd (mem_guards_of_traces hσ (by simp))
        (hdisjoint (mem_guards_of_traces hσ' (by simp)))
    · exact .inr (hq hσ hσ' hbefore' hrest)

/-- The traces of a loop of a program may be spliced where those of the program may, if the loop has
another guard. -/
theorem spliceable_star {greedy : Bool} (hp : Spliceable g p.Traces)
    (hown : guard? = some g → g ∉ p.guards) : Spliceable g (star guard? greedy p).Traces :=
  LoopTraces.spliceable hp fun hτ hg hown' ↦ hown hown' (mem_guards_of_traces hτ hg)

/-- A repetition that takes at least one round has the traces of the loop behind that round; here
the one trace may pass the guard in the first round and the other in a later one. -/
theorem spliceable_plus {greedy : Bool} (hp : Spliceable g p.Traces)
    (hown : guard? = some g → g ∉ p.guards) : Spliceable g (plus guard? greedy p).Traces := by
  rintro before before' α α' β γ rest rest' ⟨σ, τ, hαβ, hσ, hτ⟩ ⟨σ', τ', hαγ, hσ', hτ'⟩
    hbefore hrest
  have hmem : ∀ {before τ rest}, p.Traces before τ rest → guard g ∈ τ → guard? ≠ some g :=
    fun hτ hg hown' ↦ hown hown' (mem_guards_of_traces hτ hg)
  -- the other trace is that of a loop, but for the guard in front of its first round
  have hloop : LoopTraces guard? p.Traces before' ((at? guard? ++ α') ++ guard g :: γ) rest' := by
    rw [List.append_assoc, hαγ]
    exact .again hσ' hτ'
  have hbefore' : lastOr before (word α) = lastOr before' (word (at? guard? ++ α')) := by
    simpa using hbefore
  rcases guard_mem_append hαβ with ⟨δ, rfl, rfl⟩ | ⟨δ, rfl, rfl⟩
  · obtain ⟨ε, ε', rfl, hround, hlast⟩ := LoopTraces.splice_round hp hmem hσ hloop hbefore'
      (by simpa using hrest)
    exact ⟨_, ε', by simp, hround, hlast⟩
  · have hpos : lastOr (lastOr before (word σ)) (word δ) =
        lastOr before' (word (at? guard? ++ α')) := by
      simpa [lastOr_append] using hbefore'
    have hrest' : word (δ ++ guard g :: β) ++ rest = word (δ ++ guard g :: γ) ++ rest' := by
      simp [hrest]
    exact ⟨σ, _, by simp, hrest' ▸ hσ, LoopTraces.spliceable hp hmem hτ hloop hpos hrest⟩

/-- If two traces of a program pass a guard at the same position, one may go on like the other. -/
theorem spliceable_traces {p : Program} (hp : p.guards.Nodup) (g : Nat) :
    Spliceable g p.Traces := by
  induction p with
  | empty => simp [Spliceable, Traces]
  | set a =>
    rintro before before' α α' β γ rest rest' ⟨c, -, hc⟩
    simpa using congrArg (guard g ∈ ·) hc
  | look l => simp [Spliceable, Traces]
  | capture i p ih => exact ih hp
  | seq p q ihp ihq =>
    obtain ⟨hp, hq, hdisjoint⟩ := List.nodup_append.1 hp
    exact spliceable_seq (ihp hp) (ihq hq) fun hgp hgq ↦ hdisjoint g hgp g hgq rfl
  | choice guard? p q ihp ihq =>
    obtain ⟨-, hpq, hown⟩ := List.nodup_append.1 hp
    obtain ⟨hp, hq, hdisjoint⟩ := List.nodup_append.1 hpq
    exact spliceable_choice (ihp hp) (ihq hq) (fun hgp hgq ↦ hdisjoint g hgp g hgq rfl)
      fun hg hmem ↦ hown g (by simp [hg]) g hmem rfl
  | star guard? greedy p ih =>
    obtain ⟨-, hp, hown⟩ := List.nodup_append.1 hp
    exact spliceable_star (ih hp) fun hg hmem ↦ hown g (by simp [hg]) g hmem rfl
  | plus guard? greedy p ih =>
    obtain ⟨-, hp, hown⟩ := List.nodup_append.1 hp
    exact spliceable_plus (ih hp) fun hg hmem ↦ hown g (by simp [hg]) g hmem rfl

end Program

/-! ### Traces without repetition -/

namespace Event

/-- Whether no guard is passed twice without a character between, where some have been passed
before. -/
def Fresh : List Nat → List Event → Prop
  | _, [] => True
  | passed, guard g :: τ => g ∉ passed ∧ Fresh (g :: passed) τ
  | _, take _ :: τ => Fresh [] τ

/-- The guards passed since the last character, in the end. -/
def passedAfter : List Nat → List Event → List Nat
  | passed, [] => passed
  | passed, guard g :: τ => passedAfter (g :: passed) τ
  | _, take _ :: τ => passedAfter [] τ

/-- A trace passes no guard twice exactly if its parts do not, the second part behind what the first
has passed. -/
theorem fresh_append {passed : List Nat} {σ τ : List Event} :
    Fresh passed (σ ++ τ) ↔ Fresh passed σ ∧ Fresh (passedAfter passed σ) τ := by
  induction σ generalizing passed with
  | nil => simp [Fresh, passedAfter]
  | cons e σ ih => cases e <;> simp [Fresh, passedAfter, ih, and_assoc]

/-- The guards passed in the end of two parts are those passed in the second, and in the first if
the second takes nothing. -/
theorem passedAfter_append (passed : List Nat) (σ τ : List Event) :
    passedAfter passed (σ ++ τ) = passedAfter (passedAfter passed σ) τ := by
  induction σ generalizing passed with
  | nil => rfl
  | cons e σ ih => cases e <;> exact ih _

/-- What has been passed counts up to the next character. -/
theorem mem_passedAfter {passed : List Nat} {τ : List Event} {g : Nat} (hg : g ∈ passed)
    (hτ : word τ = []) : g ∈ passedAfter passed τ := by
  induction τ generalizing passed with
  | nil => exact hg
  | cons e τ ih =>
    cases e with
    | guard x => exact ih (List.mem_cons_of_mem x hg) hτ
    | take c => simp at hτ

/-- Where a trace passes a guard that has been passed since the last character. -/
theorem exists_repeat_of_not_fresh {passed : List Nat} {τ : List Event} (h : ¬Fresh passed τ) :
    (∃ g ∈ passed, ∃ β γ, τ = β ++ guard g :: γ ∧ word β = []) ∨
      ∃ α g β γ, τ = α ++ guard g :: (β ++ guard g :: γ) ∧ word β = [] := by
  induction τ generalizing passed with
  | nil => simp [Fresh] at h
  | cons e τ ih =>
    cases e with
    | guard x =>
      by_cases hx : x ∈ passed
      · exact .inl ⟨x, hx, [], τ, rfl, rfl⟩
      have hτ : ¬Fresh (x :: passed) τ := fun hτ ↦ h ⟨hx, hτ⟩
      rcases ih hτ with ⟨g, hg, β, γ, rfl, hβ⟩ | ⟨α, g, β, γ, rfl, hβ⟩
      · rcases List.mem_cons.1 hg with rfl | hg
        · exact .inr ⟨[], g, β, γ, rfl, hβ⟩
        · exact .inl ⟨g, hg, guard x :: β, γ, rfl, hβ⟩
      · exact .inr ⟨guard x :: α, g, β, γ, rfl, hβ⟩
    | take c =>
      rcases ih (fun hτ ↦ h hτ) with ⟨g, hg, -⟩ | ⟨α, g, β, γ, rfl, hβ⟩
      · simp at hg
      · exact .inr ⟨take c :: α, g, β, γ, rfl, hβ⟩

end Event

/-- A word that has a trace has one without repetition. -/
theorem Program.exists_fresh_traces {p : Program} (hp : p.guards.Nodup) {before : Option Char}
    {τ : List Event} {rest : List Char} (h : p.Traces before τ rest) :
    ∃ σ, word σ = word τ ∧ p.Traces before σ rest ∧ Fresh [] σ := by
  induction hlen : τ.length using Nat.strongRecOn generalizing τ with
  | ind len ih =>
    by_cases hfresh : Fresh [] τ
    · exact ⟨τ, rfl, h, hfresh⟩
    rcases exists_repeat_of_not_fresh hfresh with ⟨g, hg, -⟩ | ⟨α, g, β, γ, rfl, hβ⟩
    · simp at hg
    -- the trace from the second visit on follows on the one up to the first visit
    have happ : α ++ guard g :: (β ++ guard g :: γ) = (α ++ guard g :: β) ++ guard g :: γ := by
      simp
    have hshort : p.Traces before (α ++ guard g :: γ) rest :=
      spliceable_traces hp g h (happ ▸ h) (by simp [hβ]) (by simp [hβ])
    have hless : (α ++ guard g :: γ).length < len := by
      rw [← hlen]
      simp only [List.length_append, List.length_cons]
      omega
    obtain ⟨σ, hword, hσ⟩ := ih _ hless hshort rfl
    exact ⟨σ, by simpa [hβ] using hword, hσ⟩

end ModeLexer.Regex
