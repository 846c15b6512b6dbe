import ModeLexer.Proofs.Pattern.MatchSpan
import ModeLexer.Proofs.Regex.Language

/-!
# The words that a pattern matches

A pattern whose expression is anchored and that has no lookahead matches at the cursor, and its span
is a word that its program takes (`exists_takes_of_matchRest`). Where its program has no guards
either, it matches wherever it can take a word (`isSome_matchRest`).
-/

namespace ModeLexer

open Text Regex

/-- What is found by an expression that is anchored is a word that it takes at the start of the
text. -/
theorem Regex.exists_takes_of_find? {r : Regex} (hr : r.program.startsAtTextStart)
    {cs : List Char} {m : Match} (h : r.find? cs = some m) :
    ∃ word rest, cs = word ++ rest ∧ r.program.Takes none word rest ∧
      m.span = ⟨0, byteLength word⟩ := by
  rw [find?, search.eq_def] at h
  split at h
  · next s hs =>
    obtain rfl := Option.some.inj h
    obtain ⟨word, s', hs', hword, heq⟩ := Program.exists_takes_of_run hs
    obtain rfl := Option.some.inj heq
    exact ⟨word, s'.rest, hs'.rest, hword, by rw [hs'.offset, Nat.zero_add]⟩
  · cases cs <;> simp [hr] at h

/-- A plain expression finds something where it can take a word. -/
theorem Regex.isSome_find? {r : Regex} (hr : r.program.plain) {word rest : List Char}
    (h : r.program.Takes none word rest) : (r.find? (word ++ rest)).isSome := by
  have hmatch : (r.program.match? ⟨none, word ++ rest, 0, [], []⟩).isSome :=
    Program.isSome_run_of_takes hr h rfl rfl fun _ _ ↦ rfl
  rw [find?, search.eq_def]
  split
  · rfl
  · next hnone => simp [hnone] at hmatch

namespace Pattern

/-- Whether every match of a pattern is a word that its program takes at the cursor, by the form of
the pattern. -/
def isAnchored (p : Pattern) : Bool := p.regex.program.startsAtTextStart && !p.hasLookahead

variable {p : Pattern} {offset : Nat}

/-- What an anchored pattern matches is a word that its program takes at the cursor. -/
theorem exists_takes_of_matchRest (hp : p.isAnchored) {rest : List Char} {m : PatternMatch}
    (h : p.matchRest offset rest = some m) :
    ∃ word rest', rest = word ++ rest' ∧ p.regex.program.Takes none word rest' ∧
      m.span = ⟨offset, offset + byteLength word⟩ := by
  simp only [isAnchored, Bool.and_eq_true, Bool.not_eq_true'] at hp
  obtain ⟨found, hfound, rfl⟩ := exists_find?_of_matchRest h
  obtain ⟨word, rest', hrest, hword, hspan⟩ := exists_takes_of_find? hp.1 hfound
  refine ⟨word, rest', hrest, hword, ?_⟩
  simp [ofMatch, hp.2, hspan, Span.shift, Nat.add_comm]

/-- A pattern that starts a line is not matched elsewhere. -/
theorem eq_zero_of_matchRest (hp : p.lineStartOnly) {rest : List Char} {m : PatternMatch}
    (h : p.matchRest offset rest = some m) : offset = 0 := by
  by_contra hne
  simp [matchRest, hp, hne] at h

/-- A plain pattern matches where its program can take a word. -/
theorem isSome_matchRest (hp : p.regex.program.plain) (hoffset : p.lineStartOnly → offset = 0)
    {word rest : List Char} (h : p.regex.program.Takes none word rest) :
    (p.matchRest offset (word ++ rest)).isSome := by
  rw [matchRest, if_neg fun hne ↦ hne.2 (hoffset hne.1), Option.isSome_map]
  exact isSome_find? hp h

/-- A pattern that takes something does not match the empty text. -/
theorem isEmpty_span_eq_false (hp : p.isAnchored) (hconsumes : p.regex.program.consumes)
    {rest : List Char} {m : PatternMatch} (h : p.matchRest offset rest = some m) :
    m.span.isEmpty = false := by
  obtain ⟨word, rest', -, hword, hspan⟩ := exists_takes_of_matchRest hp h
  have hlen : byteLength word ≠ 0 := fun hzero ↦
    Program.ne_nil_of_takes hconsumes hword (byteLength_eq_zero_iff.1 hzero)
  rw [hspan, Span.isEmpty, decide_eq_false_iff_not]
  show ¬offset + byteLength word ≤ offset
  omega

/-- The pattern of a character takes that character. -/
theorem takes_ofChar {c : Char} {word rest : List Char} :
    (ofChar c).regex.program.Takes none word rest ↔ word = [c] := by
  constructor
  · rintro ⟨u, v, rfl, ⟨rfl, -⟩, c', hc, rfl⟩
    rw [← Unicode.CharSet.single, Unicode.CharSet.contains_single, decide_eq_true_eq] at hc
    rw [hc]
    rfl
  · rintro rfl
    refine ⟨[], [c], rfl, ⟨rfl, rfl⟩, c, ?_, rfl⟩
    rw [← Unicode.CharSet.single, Unicode.CharSet.contains_single, decide_eq_true_eq]

end Pattern

end ModeLexer
