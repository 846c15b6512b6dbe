import ModeLexer.Proofs.Regex.Nesting

/-!
# Expressions in front of a lookahead

Look-around is no part of expressions. A text that is an expression of its own is read as such in
front of a lookahead, and then the lookahead is refused (`StandsFor.readBranches_lookahead`),
whatever stands in it and behind it.
-/

namespace ModeLexer.Regex

/-- The state in front of more text. -/
def ParserState.before (s : ParserState) (more : List Char) : ParserState :=
  { s with rest := s.rest ++ more }

theorem Opening.enter_before (o : Opening) (s : ParserState) (rest more : List Char) :
    o.enter (s.before more) (rest ++ more) = (o.enter s rest).before more := by
  cases o <;> rfl

/-- A text that begins with a lookahead. -/
def lookahead (more : List Char) : List Char := '(' :: '?' :: '=' :: more

theorem lookahead_ne_nil (more : List Char) : lookahead more ≠ [] := List.cons_ne_nil _ _

theorem readPart_lookahead (more : List Char) :
    readPart false (lookahead more) = .error .lookAround := rfl

/-- A run that ends leaves what it has not read. -/
theorem eq_of_readPart_stop {cs rest : List Char} (h : readPart false cs = .ok (.stop, rest)) :
    rest = cs := by
  replace h : PartAt false cs .stop rest := readPart_eq_ok.1 h
  cases h with
  | stop_nil | stop_close => rfl
  | @group _ _ head _ _ hpart => cases head <;> nomatch hpart

/-- A step that does not end the run, in front of a lookahead and with more steps to go than are
needed. -/
theorem exists_act_before {s : ParserState} {part : Part} {rest : List Char}
    (hpart : readPart s.verbose s.rest = .ok (part, rest))
    (hrest : IsClear (part.mode s.verbose) rest) (hstop : part = .stop → rest ≠ []) {n m : Nat}
    (hm : n + 1 ≤ m) (more : List Char) :
    ∃ m', n ≤ m' ∧ ∀ items branches,
      readBranches m items branches (s.before (lookahead more)) =
        part.act m' items branches (s.before (lookahead more)) (rest ++ lookahead more) := by
  obtain ⟨m', rfl⟩ := Nat.exists_eq_add_of_le' hm
  refine ⟨m' + n, Nat.le_add_left n m', fun items branches ↦ ?_⟩
  have hmore : readPart s.verbose (s.rest ++ lookahead more) = .ok (part, rest ++ lookahead more) :=
    readPart_append hpart hrest (.inl rfl) (fun hpart hnil ↦ absurd hnil (hstop hpart)) _
  rw [← Nat.add_assoc, readBranches_succ, ParserState.before, hmore]
  rfl

/-- In front of a lookahead a run that ends before the end of its text is the same, and one that
comes to the end comes to the lookahead. -/
theorem Reads.before_lookahead {n : Nat} {items branches : List Term} {s s' : ParserState}
    {t : Term} (h : Reads n items branches s t s') (hclear : IsClear s'.verbose s'.rest) {m : Nat}
    (hm : n ≤ m) (more : List Char) :
    readBranches m items branches (s.before (lookahead more)) =
      if s'.rest = [] then .error .lookAround else .ok (t, s'.before (lookahead more)) := by
  induction h generalizing m with
  | @stop n items branches s rest hpart =>
    split
    · next hnil =>
      have hverbose : s.verbose = false := hclear.resolve_right (absurd hnil)
      obtain rfl : rest = [] := hnil
      obtain ⟨m, rfl⟩ := Nat.exists_eq_add_of_le' hm
      rw [hverbose] at hpart
      have hbefore : s.before (lookahead more) =
          { s with rest := lookahead more, verbose := false } := by
        rw [ParserState.before, ← eq_of_readPart_stop hpart, ← hverbose]
        rfl
      rw [hbefore, ← Nat.add_assoc, readBranches_succ, readPart_lookahead]
      rfl
    · next hne =>
      obtain ⟨m, -, hact⟩ := exists_act_before hpart hclear (fun _ ↦ hne) hm more
      exact hact items branches
  | bar hpart hnext ih | atom hpart hnext ih | bracket hpart hnext ih | setFlags hpart hnext ih =>
    obtain ⟨m, hm, hact⟩ := exists_act_before hpart (hnext.isClear hclear) (by simp) hm more
    rw [hact]
    exact ih hclear hm
  | repetition hpart hitems hnext ih =>
    obtain ⟨m, hm, hact⟩ := exists_act_before hpart (hnext.isClear hclear) (by simp) hm more
    rw [hact, Part.act, hitems]
    exact ih hclear hm
  | @group n items branches s after s' t u rest rest' o hpart hname hinner hclose hnext ihinner
      ih =>
    -- the contents end at a parenthesis of their own
    have hne : after.rest ≠ [] := by simp [hclose]
    have hrest : IsClear ((Part.opening o).mode s.verbose) rest := by
      have henter := hinner.isClear (.inr hne)
      cases o <;> exact henter
    obtain ⟨m, hm, hact⟩ := exists_act_before hpart hrest (by simp) hm more
    have hcontents := ihinner (.inr hne) hm
    rw [if_neg hne, ← o.enter_before] at hcontents
    have hclose' : (after.before (lookahead more)).rest = ')' :: (rest' ++ lookahead more) := by
      rw [ParserState.before, hclose, List.cons_append]
    have hname' : o.clashes (s.before (lookahead more)).names = false := hname
    rw [hact, Part.act, if_neg (by simp [hname']), hcontents]
    simp only [bind, Except.bind, hclose']
    exact ih hclear hm

/-- An expression of its own is read up to a lookahead behind it, and no further. -/
theorem StandsFor.readBranches_lookahead {cs : List Char} {t : Term} {captures : Nat}
    {names : List (List Char)} (h : StandsFor cs t captures names) {m : Nat} (hm : cs.length < m)
    (more : List Char) :
    readBranches m [] [] ⟨cs ++ lookahead more, false, 0, []⟩ = .error .lookAround :=
  (reads_of_readBranches h).before_lookahead (.inl rfl) hm more

end ModeLexer.Regex
