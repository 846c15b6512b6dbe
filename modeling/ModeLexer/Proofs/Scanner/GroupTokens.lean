import ModeLexer.Proofs.Scanner.Coverage

/-!
# Which groups become tokens

A match with a class for each group is laid out in one pass over its groups, in the order of their
numbers. So a labelled group becomes a token of its own if it stands in the text behind all labelled
groups of lower numbers (`Behind`). Where the labelled groups are apart from each other this is
exact: such a group becomes one token, and what lies in no such group is covered with the default
class (`tokens_of_apart`). A group can stand before one of a lower number, since a repetition keeps
what each of its branches captured last; then it gets no token (`earlier_group_unlabelled`).
-/

namespace ModeLexer

namespace Span

/-- Whether a byte lies in a span. -/
def Contains (s : Span) (b : Nat) : Prop := s.start ≤ b ∧ b < s.stop

instance (s : Span) (b : Nat) : Decidable (s.Contains b) := inferInstanceAs (Decidable (_ ∧ _))

/-- Whether one of two spans ends before the other one starts. -/
def Apart (s s' : Span) : Prop := s.stop ≤ s'.start ∨ s'.stop ≤ s.start

instance (s s' : Span) : Decidable (s.Apart s') := inferInstanceAs (Decidable (_ ∨ _))

/-- Whether a span holds something and lies within another one. -/
def Inside (s outer : Span) : Prop :=
  s.start < s.stop ∧ outer.start ≤ s.start ∧ s.stop ≤ outer.stop

instance (s outer : Span) : Decidable (s.Inside outer) := inferInstanceAs (Decidable (_ ∧ _))

end Span

namespace Layout

/-! ### Labelled groups -/

/-- A group with its class, if it has one, took part, holds something and lies within `span`. -/
def label? (span : Span) : Option String × Option Span → Option (String × Span)
  | (some cls, some g) => if g.Inside span then some (cls, g) else none
  | _ => none

/-- The groups of a match that classes label, in the order of their numbers. -/
def labelled (classes : List (Option String)) (m : PatternMatch) : List (String × Span) :=
  (pairGroups classes m.groups).filterMap (label? m.span)

/-- Whether a labelled group stands in the text behind all those before it in a list. -/
def Behind (ls : List (String × Span)) (k : String × Span) : Prop :=
  ∃ before after, ls = before ++ k :: after ∧ ∀ x ∈ before, x.2.stop ≤ k.2.start

theorem Behind.mem {ls : List (String × Span)} {k : String × Span} (h : Behind ls k) : k ∈ ls := by
  obtain ⟨before, after, rfl, -⟩ := h
  exact List.mem_append_right before (List.mem_cons_self ..)

theorem not_behind_nil (k : String × Span) : ¬Behind [] k := by
  rintro ⟨before, after, h, -⟩
  simp at h

theorem behind_cons {x k : String × Span} {ls : List (String × Span)} :
    Behind (x :: ls) k ↔ k = x ∨ x.2.stop ≤ k.2.start ∧ Behind ls k := by
  constructor
  · rintro ⟨_ | ⟨y, before⟩, after, heq, hbefore⟩
    · exact .inl (List.cons.inj heq).1.symm
    · obtain ⟨rfl, rfl⟩ := List.cons.inj heq
      obtain ⟨hx, hbefore⟩ := List.forall_mem_cons.1 hbefore
      exact .inr ⟨hx, before, after, rfl, hbefore⟩
  · rintro (rfl | ⟨hx, before, after, rfl, hbefore⟩)
    · exact ⟨[], ls, rfl, by simp⟩
    · exact ⟨x :: before, after, rfl, List.forall_mem_cons.2 ⟨hx, hbefore⟩⟩

theorem inside_of_mem {span : Span} {gs : List (Option String × Option Span)} {k : String × Span}
    (h : k ∈ gs.filterMap (label? span)) : k.2.Inside span := by
  obtain ⟨x, -, hx⟩ := List.mem_filterMap.1 h
  unfold label? at hx
  split at hx
  · split at hx
    · next hinside =>
      obtain rfl := Option.some.inj hx
      exact hinside
    · simp at hx
  · simp at hx

/-! ### The pass over the labelled groups -/

/-- Lays out labelled groups up to `stop`, everything before `covered` being laid out already. -/
def lay (default : String) (stop : Nat) : Nat → List (String × Span) → List (String × Span)
  | covered, [] => gap default covered stop
  | covered, k :: ks =>
    if k.2.start < covered then lay default stop covered ks
    else gap default covered k.2.start ++ k :: lay default stop k.2.stop ks

variable {default : String} {span : Span} {covered stop : Nat} {ks : List (String × Span)}
  {k : String × Span}

/-- Groups that are not labelled make no difference. -/
theorem groups_eq_lay (gs : List (Option String × Option Span)) (hle : span.start ≤ covered) :
    groups default span.stop covered gs =
      lay default span.stop covered (gs.filterMap (label? span)) := by
  induction gs generalizing covered with
  | nil => rfl
  | cons x gs ih =>
    match x with
    | (some cls, some g) =>
      by_cases hinside : g.Inside span
      · obtain ⟨hpos, hstart, hstop⟩ := hinside
        have hlabel : label? span (some cls, some g) = some (cls, g) :=
          if_pos ⟨hpos, hstart, hstop⟩
        have hskip : (g.isEmpty ∨ g.start < covered ∨ span.stop < g.stop) ↔ g.start < covered := by
          simp only [Span.isEmpty, decide_eq_true_eq]
          omega
        rw [groups, List.filterMap_cons_some hlabel, lay]
        simp only [hskip, ih hle, ih (Nat.le_trans hstart (Nat.le_of_lt hpos))]
      · have hlabel : label? span (some cls, some g) = none := if_neg hinside
        have hskip : g.isEmpty ∨ g.start < covered ∨ span.stop < g.stop := by
          unfold Span.Inside at hinside
          simp only [Span.isEmpty, decide_eq_true_eq]
          omega
        rw [groups, if_pos hskip, List.filterMap_cons_none hlabel]
        exact ih hle
    | (some _, none) | (none, some _) | (none, none) => exact ih hle

theorem mem_gap {lo hi : Nat} (h : k ∈ gap default lo hi) :
    k.1 = default ∧ k.2.start = lo ∧ k.2.stop = hi ∧ lo < hi := by
  unfold gap at h
  split at h
  · next hlt =>
    obtain rfl := List.mem_singleton.1 h
    exact ⟨rfl, rfl, rfl, hlt⟩
  · simp at h

theorem exists_mem_gap {lo hi b : Nat} (hlo : lo ≤ b) (hhi : b < hi) :
    ∃ k ∈ gap default lo hi, k.1 = default ∧ k.2.Contains b := by
  rw [gap, if_pos (Nat.lt_of_le_of_lt hlo hhi)]
  exact ⟨_, List.mem_singleton_self _, rfl, hlo, hhi⟩

/-- What is laid out begins where nothing has been laid out yet. -/
theorem le_start_of_mem_lay (hks : ∀ x ∈ ks, x.2.start < x.2.stop)
    (h : k ∈ lay default stop covered ks) : covered ≤ k.2.start := by
  induction ks generalizing covered with
  | nil => exact Nat.le_of_eq (mem_gap h).2.1.symm
  | cons x ks ih =>
    obtain ⟨hx, hks⟩ := List.forall_mem_cons.1 hks
    rw [lay] at h
    split at h
    · exact ih hks h
    · next hstart =>
      rcases List.mem_append.1 h with h | h
      · exact Nat.le_of_eq (mem_gap h).2.1.symm
      · rcases List.mem_cons.1 h with rfl | h
        · exact Nat.le_of_not_lt hstart
        · have hle := ih hks h
          omega

/-- A gap that ends before a span starts is not that span. -/
theorem filter_gap_eq_nil {lo hi : Nat} {s : Span} (h : hi ≤ s.start) (hs : s.start < s.stop) :
    (gap default lo hi).filter (·.2 = s) = [] := by
  refine List.filter_eq_nil_iff.2 fun k hk heq ↦ ?_
  obtain ⟨-, hstart, hstop, hlt⟩ := mem_gap hk
  rw [decide_eq_true_eq] at heq
  rw [heq] at hstop
  omega

/-- A group behind all those before it is laid out, and nothing else has its span. -/
theorem filter_lay_eq_singleton (hks : ∀ x ∈ ks, x.2.start < x.2.stop) (hk : Behind ks k)
    (hcovered : covered ≤ k.2.start) :
    (lay default stop covered ks).filter (·.2 = k.2) = [k] := by
  induction ks generalizing covered with
  | nil => simpa using hk.mem
  | cons x ks ih =>
    obtain ⟨hx, htail⟩ := List.forall_mem_cons.1 hks
    rw [lay]
    rcases behind_cons.1 hk with rfl | ⟨hxk, hbehind⟩
    · have hafter : (lay default stop k.2.stop ks).filter (·.2 = k.2) = [] := by
        refine List.filter_eq_nil_iff.2 fun k' hk' hspan ↦ ?_
        have hle := le_start_of_mem_lay htail hk'
        rw [of_decide_eq_true hspan] at hle
        omega
      rw [if_neg (Nat.not_lt.2 hcovered), List.filter_append,
        filter_gap_eq_nil (Nat.le_refl _) hx, List.filter_cons, hafter]
      simp
    · split
      · exact ih htail hbehind hcovered
      · -- the group before ends where `k` starts at the latest
        have hpos := htail k hbehind.mem
        have hne : x.2 ≠ k.2 := fun hspan ↦ by
          rw [hspan] at hxk
          omega
        rw [List.filter_append, filter_gap_eq_nil (by omega) hpos, List.filter_cons,
          if_neg (by simpa using hne)]
        exact ih htail hbehind hxk

/-- Where groups are apart, a byte lies in a token of the default class or in a group behind all
those before it. `seen` are the groups before, and `covered` is where the last one that was laid out
ends, if there is one. -/
theorem exists_mem_lay {seen : List (String × Span)} {b : Nat}
    (hks : ∀ x ∈ seen ++ ks, x.2.start < x.2.stop)
    (happart : (seen ++ ks).Pairwise fun x y ↦ x.2.Apart y.2)
    (hseen : ∀ x ∈ seen, x.2.stop ≤ covered)
    (hlast : (∀ x ∈ ks, covered ≤ x.2.start) ∨ ∃ x ∈ seen, x.2.stop = covered)
    (hle : covered ≤ b) (hlt : b < stop) :
    ∃ k ∈ lay default stop covered ks,
      k.2.Contains b ∧ (k.1 = default ∨ Behind (seen ++ ks) k) := by
  induction ks generalizing covered seen with
  | nil =>
    obtain ⟨k, hk, hdefault, hcontains⟩ := exists_mem_gap hle hlt
    exact ⟨k, hk, hcontains, .inl hdefault⟩
  | cons x ks ih =>
    have happ : seen ++ x :: ks = (seen ++ [x]) ++ ks := by simp
    have hseen_x : ∀ {c : Nat}, (∀ y ∈ seen, y.2.stop ≤ c) → x.2.stop ≤ c →
        ∀ y ∈ seen ++ [x], y.2.stop ≤ c := by
      intro c hc hxc y hy
      rcases List.mem_append.1 hy with hy | hy
      · exact hc y hy
      · rw [List.mem_singleton.1 hy]
        exact hxc
    rw [lay]
    split
    · next hstart =>
      -- a group that is left out lies before the one that was laid out last
      obtain ⟨y, hy, hstop⟩ := hlast.resolve_left fun hall ↦
        absurd (hall x (List.mem_cons_self ..)) (Nat.not_le.2 hstart)
      have hxy : y.2.Apart x.2 :=
        (List.pairwise_append.1 happart).2.2 y hy x (List.mem_cons_self ..)
      have hyPos := hks y (List.mem_append_left _ hy)
      have hx : x.2.stop ≤ covered := by
        rcases hxy with h | h <;> omega
      rw [happ] at hks happart ⊢
      exact ih hks happart (hseen_x hseen hx) (.inr ⟨y, List.mem_append_left _ hy, hstop⟩) hle
    · next hstart =>
      have hcovered : covered ≤ x.2.start := Nat.le_of_not_lt hstart
      have hbehind : Behind (seen ++ x :: ks) x :=
        ⟨seen, ks, rfl, fun y hy ↦ Nat.le_trans (hseen y hy) hcovered⟩
      have hpos := hks x hbehind.mem
      by_cases hgap : b < x.2.start
      · obtain ⟨k, hk, hdefault, hcontains⟩ := exists_mem_gap hle hgap
        exact ⟨k, List.mem_append_left _ hk, hcontains, .inl hdefault⟩
      by_cases hin : b < x.2.stop
      · exact ⟨x, List.mem_append_right _ (List.mem_cons_self ..), ⟨by omega, hin⟩, .inr hbehind⟩
      · rw [happ] at hks happart ⊢
        have hseen' : ∀ y ∈ seen, y.2.stop ≤ x.2.stop := fun y hy ↦ by
          have hy := hseen y hy
          omega
        obtain ⟨k, hk, hfound⟩ := ih hks happart (hseen_x hseen' (Nat.le_refl _))
          (.inr ⟨x, by simp, rfl⟩) (Nat.le_of_not_lt hin)
        exact ⟨k, List.mem_append_right _ (List.mem_cons_of_mem _ hk), hfound⟩

/-! ### Matches -/

/-- **Labelled groups.** Let the labelled groups of a match be apart from each other. One that
stands in the text behind all those of lower numbers becomes exactly one token, with its own class
and span, and every byte of the match that lies in no such group lies in a token of the default
class. So all of them become tokens if their order in the text is that of their numbers. -/
theorem tokens_of_apart (default : String) (classes : List (Option String)) (m : PatternMatch)
    (hspan : m.span.start < m.span.stop)
    (happart : (labelled classes m).Pairwise fun x y ↦ x.2.Apart y.2) :
    (∀ k, Behind (labelled classes m) k →
      (ofMatch default (.groups classes) m).filter (·.2 = k.2) = [k]) ∧
    ∀ b, m.span.Contains b → (∀ k, Behind (labelled classes m) k → ¬k.2.Contains b) →
      ∃ k ∈ ofMatch default (.groups classes) m, k.1 = default ∧ k.2.Contains b := by
  have hlay : ofMatch default (.groups classes) m =
      lay default m.span.stop m.span.start (labelled classes m) := by
    have hne : m.span.isEmpty = false := by simpa [Span.isEmpty] using hspan
    rw [ofMatch, hne]
    exact groups_eq_lay _ (Nat.le_refl _)
  have hinside : ∀ x ∈ labelled classes m, x.2.Inside m.span := fun x hx ↦ inside_of_mem hx
  have hpos : ∀ x ∈ labelled classes m, x.2.start < x.2.stop := fun x hx ↦ (hinside x hx).1
  rw [hlay]
  refine ⟨fun k hk ↦ ?_, fun b hb hnot ↦ ?_⟩
  · exact filter_lay_eq_singleton hpos hk (hinside k hk.mem).2.1
  · obtain ⟨hle, hlt⟩ := hb
    have hseen : ∀ x ∈ ([] : List (String × Span)), x.2.stop ≤ m.span.start := by simp
    obtain ⟨k, hk, hcontains, hdefault | hbehind⟩ :=
      exists_mem_lay hpos happart hseen (.inl fun x hx ↦ (hinside x hx).2.1) hle hlt
    · exact ⟨k, hk, hdefault, hcontains⟩
    · exact absurd hcontains (hnot k hbehind)

/-- A match whose second group stands in the text before the first one. -/
def turned : PatternMatch where
  span := ⟨0, 3⟩
  groups := [some ⟨1, 2⟩, some ⟨0, 1⟩, some ⟨2, 3⟩]

/-- Patterns have such matches, since a group keeps what it captured in an earlier round. -/
theorem exists_matchAt_eq_turned : ∃ p, Pattern.compile "(?:(b)|(a))+(c)" false = .ok p ∧
    p.matchAt ['a', 'b', 'c'] 0 = some turned :=
  ⟨_, rfl, by decide +kernel⟩

/-- Of the groups of `abc` the first and the third become tokens, and the default class covers what
the second one captured. -/
theorem groups_behind_become_tokens :
    turned.span.start < turned.span.stop ∧
      (labelled [some "b", some "a", some "c"] turned).Pairwise (fun x y ↦ x.2.Apart y.2) ∧
      (ofMatch "other" (.groups [some "b", some "a", some "c"]) turned).filter (·.2 = ⟨2, 3⟩) =
        [("c", ⟨2, 3⟩)] ∧
      ∃ k ∈ ofMatch "other" (.groups [some "b", some "a", some "c"]) turned,
        k.1 = "other" ∧ k.2.Contains 0 := by
  have hlabelled : labelled [some "b", some "a", some "c"] turned =
      [("b", ⟨1, 2⟩), ("a", ⟨0, 1⟩), ("c", ⟨2, 3⟩)] := by decide
  have happart : (labelled [some "b", some "a", some "c"] turned).Pairwise
      (fun x y ↦ x.2.Apart y.2) := by decide
  obtain ⟨htokens, hdefault⟩ := tokens_of_apart "other" [some "b", some "a", some "c"] turned
    (by decide) happart
  have hlast : Behind (labelled [some "b", some "a", some "c"] turned) ("c", ⟨2, 3⟩) :=
    ⟨[("b", ⟨1, 2⟩), ("a", ⟨0, 1⟩)], [], hlabelled, by decide⟩
  refine ⟨by decide, happart, htokens _ hlast, hdefault 0 (by decide) ?_⟩
  -- the only group at the start is the second one, and it does not stand behind the first
  rw [hlabelled]
  rintro k hk hcontains
  simp only [behind_cons, not_behind_nil, and_false, or_false] at hk
  rcases hk with rfl | ⟨hb, rfl | ⟨-, rfl⟩⟩
  · exact absurd hcontains (by decide)
  · exact absurd hb (by decide)
  · exact absurd hcontains (by decide)

/-- A labelled group apart from all others that stands before one of a lower number: what it has
captured becomes a token of the default class. -/
theorem earlier_group_unlabelled :
    ∃ p m, Pattern.compile "(?:(b)|(a))+(c)" false = .ok p ∧
      p.matchAt ['a', 'b', 'c'] 0 = some m ∧ m.span.start < m.span.stop ∧
      (labelled [some "b", some "a", some "c"] m).Pairwise (fun x y ↦ x.2.Apart y.2) ∧
      ("a", ⟨0, 1⟩) ∈ labelled [some "b", some "a", some "c"] m ∧
      (ofMatch "other" (.groups [some "b", some "a", some "c"]) m).filter (·.2 = ⟨0, 1⟩) =
        [("other", ⟨0, 1⟩)] := by
  obtain ⟨p, hp, hm⟩ := exists_matchAt_eq_turned
  exact ⟨p, turned, hp, hm, by decide, by decide, by decide, by decide⟩

end Layout

end ModeLexer
