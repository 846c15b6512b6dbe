import Mathlib.Data.List.Basic
import ModeLexer.Proofs.Table.Compiled

/-!
# Who can be under whom, computed

`sitters` starts from the modes that a mode pushes and spreads the set along switches until it does
not grow. It is exactly the relation `SitsOn` (`mem_sitters_iff`). That it holds no other mode is an
induction on the rounds. That it holds all of them is that the last set is stable: each round before
adds a mode (`length_lt_spread`), and there are not more modes than rounds.

A table is only asked to define the modes that its rules name; a set never holds any other mode
after its first round.
-/

namespace ModeLexer.RuleTable

variable {t : RuleTable} {under id : ModeId}

/-! ### One round -/

theorem mem_pushTargets {m : ModeId} : m ∈ t.pushTargets id ↔ .push m ∈ t.actionsOf id := by
  simp only [pushTargets, List.mem_filterMap]
  constructor
  · rintro ⟨a, ha, h⟩
    cases a <;> simp_all
  · intro h
    exact ⟨_, h, rfl⟩

theorem mem_switchTargets {m : ModeId} :
    m ∈ t.switchTargets id ↔ .switchTo m ∈ t.actionsOf id := by
  simp only [switchTargets, List.mem_filterMap]
  constructor
  · rintro ⟨a, ha, h⟩
    cases a <;> simp_all
  · intro h
    exact ⟨_, h, rfl⟩

theorem mem_spread {s : List ModeId} {m : ModeId} :
    m ∈ t.spread s ↔ m < t.modes.length ∧ (m ∈ s ∨ ∃ a ∈ s, .switchTo m ∈ t.actionsOf a) := by
  simp [spread, mem_switchTargets]

/-- A set that has been spread is kept by the next round. -/
theorem sublist_spread (t : RuleTable) (s : List ModeId) :
    (t.spread s).Sublist (t.spread (t.spread s)) := by
  have heq : t.spread s = (List.range t.modes.length).filter (t.spread s).contains := by
    refine List.filter_congr fun m hm ↦ ?_
    rw [List.mem_range] at hm
    rw [Bool.eq_iff_iff, List.contains_iff_mem, mem_spread]
    simp [hm, mem_switchTargets]
  conv => lhs; rw [heq]
  refine List.monotone_filter_right _ fun m hm ↦ ?_
  rw [hm, Bool.true_or]

/-- A round that changes such a set adds to it. -/
theorem length_lt_spread {s : List ModeId} (h : t.spread (t.spread s) ≠ t.spread s) :
    (t.spread s).length < (t.spread (t.spread s)).length := by
  by_contra hge
  exact h ((t.sublist_spread s).eq_of_length_le (Nat.le_of_not_lt hge)).symm

theorem length_spread_le (t : RuleTable) (s : List ModeId) :
    (t.spread s).length ≤ t.modes.length := by
  rw [← List.length_range (n := t.modes.length)]
  exact List.length_filter_le _ _

/-! ### All rounds -/

/-- What holds of a set and is handed on by switches holds of what it spreads to. -/
theorem forall_mem_spreadUntilStable {P : ModeId → Prop}
    (hP : ∀ a m, P a → .switchTo m ∈ t.actionsOf a → P m) {n : Nat} {s : List ModeId}
    (hs : ∀ m ∈ s, P m) : ∀ m ∈ t.spreadUntilStable n s, P m := by
  induction n generalizing s with
  | zero => exact hs
  | succ n ih =>
    rw [spreadUntilStable]
    split
    · exact hs
    · refine ih fun m hm ↦ ?_
      rcases (mem_spread.1 hm).2 with hmem | ⟨a, ha, hswitch⟩
      · exact hs m hmem
      · exact hP a m (hs a ha) hswitch

/-- Modes of the table are not lost. -/
theorem mem_spreadUntilStable {n : Nat} {s : List ModeId} {m : ModeId} (hm : m ∈ s)
    (hlt : m < t.modes.length) : m ∈ t.spreadUntilStable n s := by
  induction n generalizing s with
  | zero => exact hm
  | succ n ih =>
    rw [spreadUntilStable]
    split
    · exact hm
    · exact ih (mem_spread.2 ⟨hlt, .inl hm⟩)

/-- With as many rounds as there are modes that can still be added, and one, the last set is
stable. -/
theorem spread_spreadUntilStable {n : Nat} {s : List ModeId}
    (hn : t.modes.length < n + (t.spread s).length) :
    t.spread (t.spreadUntilStable n (t.spread s)) = t.spreadUntilStable n (t.spread s) := by
  induction n generalizing s with
  | zero =>
    have hle := t.length_spread_le s
    omega
  | succ n ih =>
    rw [spreadUntilStable]
    split
    · next hstable => exact hstable
    · next hne =>
      refine ih ?_
      have hlt := length_lt_spread hne
      omega

theorem spread_sitters (t : RuleTable) (under : ModeId) :
    t.spread (t.sitters under) = t.sitters under := by
  rw [sitters, spreadUntilStable]
  split
  · next hstable => exact hstable
  · rcases Nat.eq_zero_or_pos (t.spread (t.pushTargets under)).length with hzero | hpos
    · -- the empty set is stable at once
      rw [List.length_eq_zero_iff] at hzero
      have hnil : t.spread [] = [] := by simp [spread]
      have hstable : ∀ n, t.spreadUntilStable n [] = [] := by
        intro n
        cases n <;> simp [spreadUntilStable, hnil]
      rw [hzero, hstable, hnil]
    · exact spread_spreadUntilStable (by omega)

/-! ### The relation -/

/-- Only a mode of the table has others on top of it. -/
theorem SitsOn.under_lt {m : ModeId} (h : t.SitsOn under m) : under < t.modes.length := by
  induction h with
  | push h => exact lt_of_mem_actionsOf h
  | switch _ _ ih => exact ih

/-- The modes that are computed are those that can be on top of a mode. -/
theorem mem_sitters_iff (ht : t.TargetsDefined) {m : ModeId} :
    m ∈ t.sitters under ↔ t.SitsOn under m := by
  constructor
  · exact forall_mem_spreadUntilStable (fun a m ha hs ↦ ha.switch hs)
      (fun m hm ↦ .push (mem_pushTargets.1 hm)) m
  · intro h
    induction h with
    | push h => exact mem_spreadUntilStable (mem_pushTargets.2 h) (ht _ _ (.inl h))
    | @switch a m _ hs ih =>
      rw [← spread_sitters, mem_spread]
      exact ⟨ht a m (.inr hs), .inr ⟨a, ih, hs⟩⟩

/-- The modes under a mode that are computed are those that it can be on top of. -/
theorem mem_underModes_iff (ht : t.TargetsDefined) :
    under ∈ t.underModes id ↔ t.SitsOn under id := by
  rw [underModes, List.mem_filter, List.mem_range, List.contains_iff_mem, mem_sitters_iff ht]
  exact and_iff_right_of_imp SitsOn.under_lt

end ModeLexer.RuleTable
