import ModeLexer.Proofs.Regex.Completeness
import ModeLexer.Proofs.Regex.Renumbering

/-!
# One expression in front of another

In a sequence the second part begins in the state in which the first one has left it: with groups
that have been recorded and guards that have been passed. If the numbers of the two parts do not
overlap, none of this bears on what the second part does. So the match of a sequence is the first
outcome of the first part behind which the second part, begun afresh, has a match
(`Program.followed?`, `Program.groups_match?_seq`).
-/

namespace ModeLexer.Regex

open Text

variable {f g : Nat → Nat} {d : Nat}

/-- The same position as the start of an attempt. -/
def MatchState.afresh (s : MatchState) : MatchState := { s with groups := [], passed := [] }

namespace Program

/-! ### What outcomes have passed -/

theorem passed_subset_of_pass {gs : List Nat} {guard : Option Nat} (hguard : guard.toList ⊆ gs)
    {s s' : MatchState} (h : s.pass guard = some s') (hs : s.passed ⊆ gs) : s'.passed ⊆ gs := by
  cases guard with
  | none =>
    obtain rfl := Option.some.inj h
    exact hs
  | some g =>
    simp only [MatchState.pass] at h
    split at h
    · simp at h
    · obtain rfl := Option.some.inj h
      exact List.cons_subset.2 ⟨hguard (List.mem_singleton_self g), hs⟩

theorem passed_subset_of_mem_loopOutcomes {gs : List Nat} {guard : Option Nat} {greedy : Bool}
    {body : MatchState → List MatchState} (hguard : guard.toList ⊆ gs)
    (hbody : ∀ {s s'}, s' ∈ body s → s.passed ⊆ gs → s'.passed ⊆ gs) {n : Nat}
    {s s' : MatchState} (h : s' ∈ loopOutcomes guard greedy body n s) (hs : s.passed ⊆ gs) :
    s'.passed ⊆ gs := by
  induction n generalizing s with
  | zero => simp [loopOutcomes] at h
  | succ n ih =>
    rw [loopOutcomes] at h
    split at h
    · simp at h
    · next s₁ hpass =>
      have hs₁ := passed_subset_of_pass hguard hpass hs
      have hmem : s' = s₁ ∨ s' ∈ (body s₁).flatMap (loopOutcomes guard greedy body n) := by
        cases greedy <;> simp_all [or_comm]
      rcases hmem with rfl | hmem
      · exact hs₁
      · obtain ⟨s₂, hs₂, hs'⟩ := List.mem_flatMap.1 hmem
        exact ih hs' (hbody hs₂ hs₁)

/-- The guards that an outcome has passed are some of the program. -/
theorem passed_subset_of_mem_outcomes {gs : List Nat} {p : Program} (hp : p.guards ⊆ gs)
    {s s' : MatchState} (h : s' ∈ p.outcomes s) (hs : s.passed ⊆ gs) : s'.passed ⊆ gs := by
  induction p generalizing s s' with
  | empty =>
    obtain rfl := List.mem_singleton.1 h
    exact hs
  | set a =>
    rw [outcomes] at h
    split at h
    · simp at h
    · split at h
      · obtain rfl := List.mem_singleton.1 h
        exact List.nil_subset gs
      · simp at h
  | look l =>
    rw [outcomes] at h
    split at h
    · obtain rfl := List.mem_singleton.1 h
      exact hs
    · simp at h
  | capture i p ih =>
    obtain ⟨s₁, hs₁, rfl⟩ := List.mem_map.1 h
    have hs' : s₁.passed ⊆ gs := ih hp hs₁ hs
    exact hs'
  | seq p q ihp ihq =>
    obtain ⟨hp, hq⟩ := List.append_subset.1 hp
    obtain ⟨s₁, hs₁, hs'⟩ := List.mem_flatMap.1 h
    exact ihq hq hs' (ihp hp hs₁ hs)
  | choice guard p q ihp ihq =>
    obtain ⟨hguard, hpq⟩ := List.append_subset.1 hp
    obtain ⟨hp, hq⟩ := List.append_subset.1 hpq
    rw [outcomes] at h
    split at h
    · simp at h
    · next s₁ hpass =>
      have hs₁ := passed_subset_of_pass hguard hpass hs
      exact (List.mem_append.1 h).elim (ihp hp · hs₁) (ihq hq · hs₁)
  | star guard greedy p ih =>
    obtain ⟨hguard, hp⟩ := List.append_subset.1 hp
    exact passed_subset_of_mem_loopOutcomes hguard (ih hp) h hs
  | plus guard greedy p ih =>
    obtain ⟨hguard, hp⟩ := List.append_subset.1 hp
    obtain ⟨s₁, hs₁, hs'⟩ := List.mem_flatMap.1 h
    exact passed_subset_of_mem_loopOutcomes hguard (ih hp) hs' (ih hp hs₁ hs)

/-! ### A program that another one follows -/

/-- The first outcome of a program behind which another one, begun afresh, has a match, and the end
of that match. -/
def followed? (p q : Program) (s : MatchState) : Option (MatchState × MatchState) :=
  (p.outcomes s).findSome? fun s₁ ↦ (q.match? s₁.afresh).map (s₁, ·)

/-- A program whose guards are none of those that have been passed does what it does afresh. -/
theorem groups_match?_renumber (q : Program) {s : MatchState} (hpassed : ∀ i ∈ s.passed, i < d) :
    ((q.renumber g (· + d)).match? s).map (·.groups) =
      (q.match? s.afresh).map fun s' ↦ s'.groups.map (fun x ↦ (g x.1, x.2)) ++ s.groups := by
  have hafresh : MatchState.Renumbered g (· + d) s.groups s.afresh s := by
    refine ⟨rfl, rfl, rfl, rfl, fun i ↦ ⟨fun hmem ↦ ?_, fun hmem ↦ ?_⟩⟩
    · have hlt := hpassed _ hmem
      omega
    · simp [MatchState.afresh] at hmem
  have hinjective : Function.Injective (· + d) := fun _ _ ↦ Nat.add_right_cancel
  have hall := forall₂_outcomes hinjective q hafresh
  rw [match?_eq_head?, match?_eq_head?]
  exact (head?_map_eq_of_forall₂ (fun _ _ hs ↦ hs.groups.symm) hall).symm

/-- The groups of a match of a sequence, whose first part is put into a group. -/
theorem groups_match?_seq {p : Program} (hp : ∀ i ∈ p.guards, i < d) (q : Program) (index : Nat)
    (cs : List Char) :
    ((seq (capture index (p.renumber f id)) (q.renumber g (· + d))).match? (.start cs)).map
        (·.groups) =
      (p.followed? q (.start cs)).map fun r ↦
        r.2.groups.map (fun x ↦ (g x.1, x.2)) ++
          (index, ⟨0, r.1.offset⟩) :: r.1.groups.map fun x ↦ (f x.1, x.2) := by
  have hstart : MatchState.Renumbered f id [] (.start cs) (.start cs) :=
    ⟨rfl, rfl, rfl, rfl, fun _ ↦ Iff.rfl⟩
  have hpassed : ∀ s ∈ p.outcomes (.start cs), ∀ i ∈ s.passed, i < d := fun s hs i hi ↦
    List.mem_range.1 (passed_subset_of_mem_outcomes (fun j hj ↦ List.mem_range.2 (hp j hj)) hs
      (List.nil_subset _) hi)
  have hall := (List.forall₂_and_left _ _).2
    ⟨hpassed, forall₂_outcomes Function.injective_id p hstart⟩
  rw [match?, run, run, run_eq_findSome?, followed?, List.map_findSome?, List.map_findSome?]
  refine (findSome?_eq_of_forall₂ ?_ hall).symm
  rintro s s' ⟨hpassed, hs⟩
  have hgroups : (s'.record index 0).groups =
      (index, ⟨0, s.offset⟩) :: s.groups.map fun x ↦ (f x.1, x.2) := by
    simp [MatchState.record, hs.groups, hs.offset]
  have hafresh : (s'.record index 0).afresh = s.afresh := by
    simp [MatchState.afresh, MatchState.record, hs.before, hs.rest, hs.offset]
  have hsecond := groups_match?_renumber (g := g) q (s := s'.record index 0)
    fun i hi ↦ hpassed i ((hs.passed i).1 hi)
  rw [hafresh, hgroups] at hsecond
  rw [Function.comp_apply, Option.map_map]
  exact hsecond.symm

/-- Whether an outcome of a program is the first one behind which another program, begun afresh, has
a match, and that match ends at a given state. -/
def IsFirstFollowed (p q : Program) (s s₁ s₂ : MatchState) : Prop :=
  ∃ earlier later, p.outcomes s = earlier ++ s₁ :: later ∧
    (∀ s' ∈ earlier, q.match? s'.afresh = none) ∧ q.match? s₁.afresh = some s₂

theorem isFirstFollowed_of_followed? {p q : Program} {s : MatchState}
    {r : MatchState × MatchState} (hr : p.followed? q s = some r) :
    p.IsFirstFollowed q s r.1 r.2 := by
  obtain ⟨earlier, s₁, later, houtcomes, hfirst, hearlier⟩ := List.findSome?_eq_some_iff.1 hr
  obtain ⟨s₂, hs₂, rfl⟩ := Option.map_eq_some_iff.1 hfirst
  exact ⟨earlier, later, houtcomes, fun s' hs' ↦ Option.map_eq_none_iff.1 (hearlier s' hs'), hs₂⟩

theorem IsFirstFollowed.mem_outcomes {p q : Program} {s s₁ s₂ : MatchState}
    (h : p.IsFirstFollowed q s s₁ s₂) : s₁ ∈ p.outcomes s := by
  obtain ⟨earlier, later, houtcomes, -, -⟩ := h
  rw [houtcomes]
  exact List.mem_append_right _ (List.mem_cons_self ..)

theorem IsFirstFollowed.mem_outcomes_afresh {p q : Program} {s s₁ s₂ : MatchState}
    (h : p.IsFirstFollowed q s s₁ s₂) : s₂ ∈ q.outcomes s₁.afresh := by
  obtain ⟨earlier, later, -, -, hmatch⟩ := h
  rw [match?_eq_head?] at hmatch
  exact List.mem_of_mem_head? hmatch

end Program

/-! ### Expressions -/

namespace Expr

/-- The program of an expression that stands alone. -/
def program (e : Expr) : Program := (e.compile false 0).1

/-- The groups of a match of two expressions in sequence, of which the first one is put into a
group. -/
theorem groups_match?_concat (b a : Expr) (index : Nat) (cs : List Char) :
    ((concat (capture index (b.renumber f)) (a.renumber g)).program.match? (.start cs)).map
        (·.groups) =
      (b.program.followed? a.program (.start cs)).map fun r ↦
        r.2.groups.map (fun x ↦ (g x.1, x.2)) ++
          (index, ⟨0, r.1.offset⟩) :: r.1.groups.map fun x ↦ (f x.1, x.2) := by
  obtain ⟨d, hd, hguards⟩ := b.numbers_compile false 0
  have hlt : ∀ i ∈ b.program.guards, i < d := fun i hi ↦ by
    rw [program, hguards, List.mem_range'_1] at hi
    simpa using hi.2
  have hfirst := renumbers_compile (f := f) 0 b false 0
  have hsecond := renumbers_compile (f := g) d a false 0
  have hprogram : (concat (capture index (b.renumber f)) (a.renumber g)).program =
      .seq (.capture index (b.program.renumber f id)) (a.program.renumber g (· + d)) := by
    show Program.seq (.capture index ((b.renumber f).compile false (0 + 0)).1)
      ((a.renumber g).compile false ((b.renumber f).compile false (0 + 0)).2).1 = _
    rw [hfirst, hd, Nat.add_zero, hsecond]
    rfl
  rw [hprogram]
  exact Program.groups_match?_seq hlt a.program index cs

/-- An expression has a match where it can take a word. -/
theorem isSome_match?_iff (e : Expr) {s : MatchState} (hs : s.passed = []) :
    (e.program.match? s).isSome ↔
      ∃ word rest, s.rest = word ++ rest ∧ e.program.Takes s.before word rest := by
  rw [Program.match?_eq_head?, List.isSome_head?]
  constructor
  · intro hne
    obtain ⟨s', hs'⟩ := List.exists_mem_of_ne_nil _ hne
    obtain ⟨word, hbehind, htakes⟩ := Program.exists_takes_of_mem_outcomes hs'
    exact ⟨word, s'.rest, hbehind.rest, htakes⟩
  · rintro ⟨word, rest, hrest, htakes⟩
    obtain ⟨s', hs', -⟩ := (e.exists_outcome_iff_takes hs hrest).2 htakes
    exact List.ne_nil_of_mem hs'

/-- An outcome with a match behind it is there where both expressions can take a word. -/
theorem isSome_followed?_iff (b a : Expr) (cs : List Char) :
    (b.program.followed? a.program (.start cs)).isSome ↔
      ∃ word seen rest, cs = word ++ (seen ++ rest) ∧ b.program.Takes none word (seen ++ rest) ∧
        a.program.Takes (lastOr none word) seen rest := by
  rw [Program.followed?, List.findSome?_isSome_iff]
  have hsecond (s : MatchState) : ((a.program.match? s.afresh).map (s, ·)).isSome ↔
      ∃ seen rest, s.rest = seen ++ rest ∧ a.program.Takes s.before seen rest := by
    rw [Option.isSome_map]
    exact a.isSome_match?_iff rfl
  simp only [hsecond]
  constructor
  · rintro ⟨s, hs, seen, rest, hrest, hseen⟩
    obtain ⟨word, hbehind, hword⟩ := Program.exists_takes_of_mem_outcomes hs
    rw [hrest] at hword
    rw [hbehind.before] at hseen
    exact ⟨word, seen, rest, hrest ▸ hbehind.rest, hword, hseen⟩
  · rintro ⟨word, seen, rest, rfl, hword, hseen⟩
    obtain ⟨s, hs, hbehind⟩ :=
      (b.exists_outcome_iff_takes (s := .start (word ++ (seen ++ rest))) rfl rfl).2 hword
    have hrest : seen ++ rest = s.rest := List.append_cancel_left hbehind.rest
    have hbefore : s.before = lastOr none word := hbehind.before
    exact ⟨s, hs, seen, rest, hrest.symm, hbefore ▸ hseen⟩

end Expr

end ModeLexer.Regex
