import ModeLexer.Proofs.Pattern.Groups
import ModeLexer.Proofs.Regex.Following

/-!
# Patterns with a lookahead at the end

The expression that is compiled for a pattern `B(?=A)` takes what `A` sees; only the group around
`B` is reported. Nevertheless the lookahead is a real one (`Pattern.matches_where_followed`): there
is a match where `B` can take a word in front of one that `A` can take; what is reported is the
first outcome of `B`, in the order of preference, behind which `A` has a match; and the groups of
`A` come after those of `B`, with what they capture when `A` is matched alone behind `B`.
-/

namespace ModeLexer

open Text

namespace Regex

/-! ### Groups of two parts -/

theorem lookup_eq_none_of_forall_ne {groups : List (Nat × Span)} {i : Nat}
    (h : ∀ x ∈ groups, x.1 ≠ i) : groups.lookup i = none :=
  List.lookup_eq_none_iff.2 fun x hx ↦ by simpa using (h x hx).symm

/-- The groups that a part with `n` groups and a part behind it have recorded, where the first part
is in a group of its own, with the number one. -/
def joinedGroups (n : Nat) (s₁ s₂ : MatchState) : List (Nat × Span) :=
  s₂.groups.map (fun x ↦ (x.1 + (n + 1), x.2)) ++
    (1, ⟨0, s₁.offset⟩) :: s₁.groups.map fun x ↦ (x.1 + 1, x.2)

section

variable {n : Nat} {s₁ s₂ : MatchState}

/-- Up to the number `n + 1` nothing of the second part is found. -/
theorem lookup_joinedGroups_of_le (h₂ : ∀ x ∈ s₂.groups, 0 < x.1) {i : Nat} (hi : i ≤ n + 1) :
    (joinedGroups n s₁ s₂).lookup i =
      ((1, ⟨0, s₁.offset⟩) :: s₁.groups.map fun x ↦ (x.1 + 1, x.2)).lookup i := by
  have hnone : (s₂.groups.map fun x ↦ (x.1 + (n + 1), x.2)).lookup i = none := by
    refine lookup_eq_none_of_forall_ne (List.forall_mem_map.2 fun x hx ↦ ?_)
    have hpos := h₂ x hx
    omega
  rw [joinedGroups, List.lookup_append, hnone, Option.none_or]

theorem lookup_joinedGroups_one (h₂ : ∀ x ∈ s₂.groups, 0 < x.1) :
    (joinedGroups n s₁ s₂).lookup 1 = some ⟨0, s₁.offset⟩ := by
  rw [lookup_joinedGroups_of_le h₂ (Nat.le_add_left 1 n), List.lookup_cons_self]

theorem lookup_joinedGroups_first (h₂ : ∀ x ∈ s₂.groups, 0 < x.1) {i : Nat} (hi : i < n) :
    (joinedGroups n s₁ s₂).lookup (i + 1 + 1) = s₁.groups.lookup (i + 1) := by
  rw [lookup_joinedGroups_of_le h₂ (Nat.succ_le_succ hi)]
  exact lookup_renumber (f := (· + 1)) fun _ _ ↦ Nat.add_right_cancel

theorem lookup_joinedGroups_second (h₁ : ∀ x ∈ s₁.groups, x.1 ≤ n) (i : Nat) :
    (joinedGroups n s₁ s₂).lookup (n + i + 1 + 1) = s₂.groups.lookup (i + 1) := by
  have hfirst : ((1, (⟨0, s₁.offset⟩ : Span)) ::
      s₁.groups.map fun x ↦ (x.1 + 1, x.2)).lookup (n + i + 1 + 1) = none := by
    refine lookup_eq_none_of_forall_ne (List.forall_mem_cons.2 ⟨by simp, ?_⟩)
    refine List.forall_mem_map.2 fun x hx ↦ ?_
    have hle := h₁ x hx
    omega
  have hindex : n + i + 1 + 1 = i + 1 + (n + 1) := by omega
  rw [joinedGroups, List.lookup_append, hfirst, Option.or_none, hindex]
  exact lookup_renumber (f := (· + (n + 1))) fun _ _ ↦ Nat.add_right_cancel

end

/-! ### Expressions of their own -/

/-- Whether a text is an expression of its own with `n` groups. -/
def ReadsAs (cs : List Char) (ignoreCase : Bool) (e : Expr) (n : Nat) : Prop :=
  ∃ t names f, StandsFor cs t n names ∧ t.resolve { ignoreCase } = .ok (e, f)

/-- The groups of an expression of its own are numbered from one on. -/
theorem ReadsAs.groups_subset {cs : List Char} {ignoreCase : Bool} {e : Expr} {n : Nat}
    (h : ReadsAs cs ignoreCase e n) : e.program.groups ⊆ List.range' 1 n := by
  obtain ⟨t, names, f, hread, hresolve⟩ := h
  rw [← hread.groups_eq]
  exact List.Subset.trans (e.groups_compile_subset false 0) (Expr.groups_subset_of_resolve hresolve)

/-- What an outcome has recorded are groups of the expression. -/
theorem ReadsAs.mem_groups {cs : List Char} {ignoreCase : Bool} {e : Expr} {n : Nat}
    (h : ReadsAs cs ignoreCase e n) {s s' : MatchState} (hs : s.groups = [])
    (hs' : s' ∈ e.program.outcomes s) : ∀ x ∈ s'.groups, 0 < x.1 ∧ x.1 ≤ n := by
  obtain ⟨new, hnew, hmem⟩ :=
    Program.rel_of_mem_outcomes (MatchState.allowsMoves_records e.program.groups) hs'
  rw [hs, List.append_nil] at hnew
  intro x hx
  have hrange := h.groups_subset (hmem x (hnew ▸ hx))
  rw [List.mem_range'_1] at hrange
  omega

end Regex

namespace Pattern

open Regex

/-! ### The text of a lookahead -/

/-- A candidate is where a lookahead is opened. -/
theorem candidate_step {s : LookaheadScan} {index i : Nat} {c : Char} {cs : List Char}
    (h : (s.step index c cs).candidate = some i) :
    s.candidate = some i ∨ i = index ∧ c = '(' ∧ LookaheadScan.opensLookahead cs := by
  unfold LookaheadScan.step LookaheadScan.stepOutside LookaheadScan.stepInside at h
  grind

theorem exists_of_opensLookahead {cs : List Char} (h : LookaheadScan.opensLookahead cs) :
    ∃ rest, cs = '?' :: '=' :: rest := by
  unfold LookaheadScan.opensLookahead at h
  split at h
  · exact ⟨_, rfl⟩
  · simp at h

/-- What is opened as a lookahead and ends with a parenthesis is closed by that parenthesis. -/
theorem exists_ahead_of_getLast? {rest : List Char}
    (h : ('(' :: '?' :: '=' :: rest).getLast? = some ')') : ∃ ahead, rest = ahead ++ [')'] := by
  rcases List.eq_nil_or_concat rest with rfl | ⟨ahead, c, rfl⟩
  · simp at h
  · obtain rfl : c = ')' := by simpa [List.getLast?_cons] using h
    exact ⟨ahead, List.concat_eq_append ..⟩

/-- Behind two positions of a text the last character is the same. -/
theorem getLast?_drop_eq {whole cs rest : List Char} {i j : Nat} (hi : whole.drop i = cs)
    (hj : whole.drop j = rest) (hcs : cs ≠ []) (hrest : rest ≠ []) :
    rest.getLast? = cs.getLast? := by
  have hlt : ¬whole.length ≤ i := fun hle ↦ hcs (by rw [← hi, List.drop_eq_nil_of_le hle])
  have hlt' : ¬whole.length ≤ j := fun hle ↦ hrest (by rw [← hj, List.drop_eq_nil_of_le hle])
  rw [← hi, ← hj, List.getLast?_drop, List.getLast?_drop, if_neg hlt, if_neg hlt']

/-- A lookahead that is found is opened where it starts and closed by the last character. -/
theorem exists_ahead_of_lookaheadStart? {whole cs : List Char} {s : LookaheadScan}
    {index start : Nat} (h : lookaheadStart? s index cs = some start)
    (hcandidate : ∀ i, s.candidate = some i → ∃ rest, whole.drop i = '(' :: '?' :: '=' :: rest)
    (hindex : whole.drop index = cs) :
    ∃ ahead, whole.drop start = ['(', '?', '='] ++ ahead ++ [')'] := by
  induction cs generalizing s index with
  | nil => simp [lookaheadStart?] at h
  | cons c cs ih =>
    cases cs with
    | nil =>
      rw [lookaheadStart?] at h
      split at h
      · next hcloses =>
        obtain ⟨rest, hrest⟩ := hcandidate start h
        obtain rfl : c = ')' := by
          simp only [LookaheadScan.closesOutermost, Bool.and_eq_true, decide_eq_true_eq] at hcloses
          exact hcloses.1.1.1.1
        obtain ⟨ahead, rfl⟩ := exists_ahead_of_getLast?
          (getLast?_drop_eq hindex hrest (List.cons_ne_nil _ _) (List.cons_ne_nil _ _))
        exact ⟨ahead, hrest⟩
      · simp at h
    | cons c' cs =>
      rw [lookaheadStart?] at h
      · refine ih h (fun i hi ↦ ?_) ?_
        · rcases candidate_step hi with hi | ⟨rfl, rfl, hopens⟩
          · exact hcandidate i hi
          · obtain ⟨rest, hrest⟩ := exists_of_opensLookahead hopens
            exact ⟨rest, by rw [hindex, hrest]⟩
        · rw [← List.drop_drop, hindex]
          rfl
      · simp

variable {source : String} {ignoreCase : Bool} {p : Pattern} {body ahead : List Char}

/-- A pattern with two parts is made of these, behind a caret or not. -/
theorem eq_of_parts (hparts : parts source = [body, ahead]) :
    (stripLineStart source.toList).2 = body ++ (['(', '?', '='] ++ ahead ++ [')']) := by
  obtain ⟨hbody, hahead⟩ := List.cons.inj hparts
  unfold splitLookahead at hbody hahead
  split at hahead
  · next start hstart =>
    obtain ⟨ahead', hdrop⟩ := exists_ahead_of_lookaheadStart? hstart nofun rfl
    rw [hstart] at hbody
    have hrest : (stripLineStart source.toList).2.drop (start + 3) = ahead' ++ [')'] := by
      rw [← List.drop_drop, hdrop]
      rfl
    obtain rfl : ahead' = ahead := by
      simpa [hrest] using hahead
    rw [← hdrop, ← hbody, List.take_append_drop]
  · simp at hahead

/-! ### Matches -/

variable {b a : Expr} {n n' : Nat}

/-- What the groups around a body and a lookahead resolve to. -/
theorem resolve_groups {t u : Term} {ignoreCase : Bool} {f f' : Flags}
    (ht : t.resolve { ignoreCase } = .ok (b, f)) (hu : u.resolve { ignoreCase } = .ok (a, f')) :
    (Term.concat (.capture 1 (t.shift 1)) (.group [] (u.shift (n + 1)))).resolve { ignoreCase } =
      .ok (.concat (.capture 1 (b.renumber (· + 1))) (a.renumber (· + (n + 1))),
        { ignoreCase }) := by
  rw [Term.shift_eq_renumber, Term.shift_eq_renumber, Term.resolve, Term.resolve,
    Term.resolve_renumber, ht]
  have hflags : Flags.apply { ignoreCase } [] = { ignoreCase } := rfl
  simp only [Except.map, bind, Except.bind, pure, Except.pure]
  rw [Term.resolve, hflags, Term.resolve_renumber, hu]
  rfl

/-- Whether a match at a position reports what two outcomes have taken and recorded: the first one
`n` groups, and the second one those that follow. -/
structure Reports (n pos : Nat) (s₁ s₂ : MatchState) (m : PatternMatch) : Prop where
  span : m.span = ⟨pos, pos + s₁.offset⟩
  body : ∀ i < n, m.group? (i + 1) = (s₁.groups.lookup (i + 1)).map (·.shift pos)
  ahead : ∀ i, m.group? (n + i + 1) = (s₂.groups.lookup (i + 1)).map (·.shift pos)

section

variable [SizeLimit]

/-- A pattern with a lookahead has the program of the two groups behind a caret. -/
theorem program_eq_anchored (h : compile source ignoreCase = .ok p)
    (hparts : parts source = [body, ahead]) (hbody : ReadsAs body ignoreCase b n)
    (hahead : ReadsAs ahead ignoreCase a n') :
    p.hasLookahead ∧ p.regex.program = .anchored ignoreCase
      (Expr.concat (.capture 1 (b.renumber (· + 1))) (a.renumber (· + (n + 1)))).program := by
  obtain ⟨hregex, hlook⟩ := compile_eq_ok h
  obtain ⟨t, names, f, hbody, ht⟩ := hbody
  obtain ⟨u, names', f', hahead, hu⟩ := hahead
  obtain ⟨hfirst, hsecond⟩ := List.cons.inj hparts
  have hsplit : (splitLookahead (stripLineStart source.toList).2).2 = some ahead :=
    Option.toList_eq_singleton_iff.1 hsecond
  rw [hfirst, hsplit] at hregex
  rw [hsplit] at hlook
  refine ⟨hlook, ?_⟩
  obtain ⟨e, f'', he, hprogram⟩ := exists_of_compile_anchored
    (parse_anchoredText_ahead_of_compile hbody hahead hregex) hregex
  obtain ⟨rfl, -⟩ := Prod.mk.inj (Except.ok.inj ((resolve_groups ht hu).symm.trans he))
  exact hprogram

/-- What the expression of a pattern records. -/
theorem groups_find?_eq (h : compile source ignoreCase = .ok p)
    (hparts : parts source = [body, ahead]) (hbody : ReadsAs body ignoreCase b n)
    (hahead : ReadsAs ahead ignoreCase a n') (rest : List Char) :
    (p.regex.find? rest).map (·.groups) =
      (b.program.followed? a.program (.start rest)).map fun r ↦ joinedGroups n r.1 r.2 := by
  rw [find?_eq_map_match? (program_eq_anchored h hparts hbody hahead).2, Option.map_map]
  exact Expr.groups_match?_concat b a 1 rest

/-- A match reports the first outcome of what the pattern takes with a match of the lookahead behind
it. -/
theorem exists_reports_ofMatch (h : compile source ignoreCase = .ok p)
    (hparts : parts source = [body, ahead]) (hbody : ReadsAs body ignoreCase b n)
    (hahead : ReadsAs ahead ignoreCase a n') {rest : List Char} {found : Regex.Match}
    (hfound : p.regex.find? rest = some found) (pos : Nat) :
    ∃ s₁ s₂, b.program.IsFirstFollowed a.program (.start rest) s₁ s₂ ∧
      Reports n pos s₁ s₂ (p.ofMatch pos found) := by
  have hlook := (program_eq_anchored h hparts hbody hahead).1
  have hgroups := groups_find?_eq h hparts hbody hahead rest
  rw [hfound, Option.map_some, eq_comm, Option.map_eq_some_iff] at hgroups
  obtain ⟨⟨s₁, s₂⟩, hfollowed, hgroups⟩ := hgroups
  have hfirst := Program.isFirstFollowed_of_followed? hfollowed
  have h₁ := hbody.mem_groups rfl hfirst.mem_outcomes
  have h₂ := hahead.mem_groups rfl hfirst.mem_outcomes_afresh
  have hgroup (i : Nat) : found.group? i = (joinedGroups n s₁ s₂).lookup i := by
    rw [hgroups, Match.group?]
  have hreported (i : Nat) : (p.ofMatch pos found).group? (i + 1) =
      ((joinedGroups n s₁ s₂).lookup (i + 1 + 1)).map (·.shift pos) := by
    rw [group?_ofMatch h hfound, groupOffset, if_pos hlook, hgroup]
  refine ⟨s₁, s₂, hfirst, ?_, fun i hi ↦ ?_, fun i ↦ ?_⟩
  · have hone : (joinedGroups n s₁ s₂).lookup 1 = some ⟨0, s₁.offset⟩ :=
      lookup_joinedGroups_one fun x hx ↦ (h₂ x hx).1
    rw [← hgroup] at hone
    simp only [ofMatch, hlook, if_true, hone, Option.getD_some, Span.shift]
    rw [Nat.zero_add, Nat.add_comm]
  · rw [hreported, lookup_joinedGroups_first (fun x hx ↦ (h₂ x hx).1) hi]
  · rw [hreported, lookup_joinedGroups_second fun x hx ↦ (h₁ x hx).2]

/-- A lookahead at the end of a pattern is a lookahead: there is a match where something that the
body takes has something that the lookahead sees behind it, and it reports the first outcome of the
body of which that holds. -/
theorem matches_where_followed (h : compile source ignoreCase = .ok p)
    (hparts : parts source = [body, ahead]) (hbody : ReadsAs body ignoreCase b n)
    (hahead : ReadsAs ahead ignoreCase a n') :
    (stripLineStart source.toList).2 = body ++ (['(', '?', '='] ++ ahead ++ [')']) ∧
      p.hasLookahead ∧ ∀ (line : List Char) (pos : Nat), (p.lineStartOnly → pos = 0) →
        ((p.matchAt line pos).isSome ↔
          ∃ word seen rest, sliceFrom? line pos = some (word ++ (seen ++ rest)) ∧
            b.program.Takes none word (seen ++ rest) ∧
            a.program.Takes (lastOr none word) seen rest) ∧
        ∀ m, p.matchAt line pos = some m →
          ∃ rest s₁ s₂, sliceFrom? line pos = some rest ∧
            b.program.IsFirstFollowed a.program (.start rest) s₁ s₂ ∧ Reports n pos s₁ s₂ m := by
  refine ⟨eq_of_parts hparts, (program_eq_anchored h hparts hbody hahead).1,
    fun line pos hpos ↦ ⟨?_, fun m hm ↦ ?_⟩⟩
  · have hsome (rest : List Char) : (p.matchRest pos rest).isSome ↔
        ∃ word seen rest', rest = word ++ (seen ++ rest') ∧
          b.program.Takes none word (seen ++ rest') ∧
          a.program.Takes (lastOr none word) seen rest' := by
      have hgroups := congrArg Option.isSome (groups_find?_eq h hparts hbody hahead rest)
      rw [Option.isSome_map, Option.isSome_map] at hgroups
      rw [matchRest, if_neg (fun hline ↦ hline.2 (hpos hline.1)), Option.isSome_map, hgroups,
        Expr.isSome_followed?_iff]
    rw [matchAt]
    cases sliceFrom? line pos with
    | none => simp
    | some rest => simp [hsome]
  · obtain ⟨rest, hrest, hmatch⟩ := Option.bind_eq_some_iff.1 hm
    obtain ⟨found, hfound, rfl⟩ := exists_find?_of_matchRest hmatch
    obtain ⟨s₁, s₂, hfirst, hreports⟩ := exists_reports_ofMatch h hparts hbody hahead hfound pos
    exact ⟨rest, s₁, s₂, hrest, hfirst, hreports⟩

end

/-- Both parts try again until the lookahead holds, and its group comes last. -/
theorem backtracks_until_followed :
    ∃ p, compile "(a+?)(b*)(?=(b)c|d)" false = .ok p ∧
      p.matchAt ['a', 'a', 'b', 'b', 'c'] 0 =
        some ⟨⟨0, 3⟩, [some ⟨0, 2⟩, some ⟨2, 3⟩, some ⟨3, 4⟩]⟩ ∧
      ∃ b a, ReadsAs "(a+?)(b*)".toList false b 2 ∧ ReadsAs "(b)c|d".toList false a 1 ∧
        ∃ rest s₁ s₂, b.program.IsFirstFollowed a.program (.start rest) s₁ s₂ ∧
          Reports 2 0 s₁ s₂ ⟨⟨0, 3⟩, [some ⟨0, 2⟩, some ⟨2, 3⟩, some ⟨3, 4⟩]⟩ := by
  obtain ⟨p, hp, hmatch⟩ : ∃ p, compile "(a+?)(b*)(?=(b)c|d)" false = .ok p ∧
      p.matchAt ['a', 'a', 'b', 'b', 'c'] 0 =
        some ⟨⟨0, 3⟩, [some ⟨0, 2⟩, some ⟨2, 3⟩, some ⟨3, 4⟩]⟩ :=
    ⟨_, rfl, by decide +kernel⟩
  obtain ⟨b, hb⟩ : ∃ b, ReadsAs "(a+?)(b*)".toList false b 2 := ⟨_, _, _, _, rfl, rfl⟩
  obtain ⟨a, ha⟩ : ∃ a, ReadsAs "(b)c|d".toList false a 1 := ⟨_, _, _, _, rfl, rfl⟩
  obtain ⟨-, -, hall⟩ := matches_where_followed hp (by decide) hb ha
  obtain ⟨rest, s₁, s₂, -, hfirst, hreports⟩ := (hall _ 0 (by simp)).2 _ hmatch
  exact ⟨p, hp, hmatch, b, a, hb, ha, rest, s₁, s₂, hfirst, hreports⟩

end Pattern

end ModeLexer
