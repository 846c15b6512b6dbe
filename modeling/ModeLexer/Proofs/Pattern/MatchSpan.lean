import ModeLexer.Pattern.Basic
import ModeLexer.Proofs.Regex.Attempt

/-!
# Where a pattern matches

The span of a match and the spans of its groups fit the line (`fits_of_matchRest`), whatever the
expression is. That a match begins at the position at which it was asked for is another matter: an
expression that closes the group around it can be found further on. `Pattern.MatchesAtCursor` says
that this does not happen.
-/

namespace ModeLexer

open Text

theorem Regex.Match.Fits.of_group? {cs : List Char} {m : Regex.Match} (h : m.Fits cs) {i : Nat}
    {g : Span} (hg : m.group? i = some g) : g.Fits cs := by
  obtain ⟨before, after, hgroups, -⟩ := List.lookup_eq_some_iff.1 hg
  exact (h.groups (i, g) (by simp [hgroups])).1

namespace Pattern

/-- What is matched behind `before` fits the line. -/
theorem fits_of_matchRest {p : Pattern} {before rest : List Char} {m : PatternMatch}
    (h : p.matchRest (byteLength before) rest = some m) :
    m.span.Fits (before ++ rest) ∧ ∀ g, some g ∈ m.groups → g.Fits (before ++ rest) := by
  obtain ⟨found, hfind, rfl⟩ := exists_find?_of_matchRest h
  have hfits := Regex.find?_fits hfind
  constructor
  · refine Span.Fits.shift ?_ before
    split
    · -- the span is that of the first group, if it took part
      cases hg : found.group? 1 with
      | none => exact hfits.span
      | some g => exact hfits.of_group? hg
    · exact hfits.span
  · intro g hg
    obtain ⟨i, -, hi⟩ := List.mem_map.1 hg
    obtain ⟨g', hg', rfl⟩ := Option.map_eq_some_iff.1 hi
    exact (hfits.of_group? hg').shift before

/-- Whether every match begins at the position at which it was asked for. -/
def MatchesAtCursor (p : Pattern) : Prop :=
  ∀ (line : List Char) (offset : Nat) (m : PatternMatch),
    p.matchAt line offset = some m → m.span.start = offset

/-- At a boundary the rest of the line is what is matched. -/
theorem matchAt_append (p : Pattern) (before rest : List Char) :
    p.matchAt (before ++ rest) (byteLength before) = p.matchRest (byteLength before) rest := by
  simp [matchAt, sliceFrom?, splitAt?_byteLength]

theorem MatchesAtCursor.start_eq {p : Pattern} (hp : p.MatchesAtCursor)
    {before rest : List Char} {m : PatternMatch}
    (h : p.matchRest (byteLength before) rest = some m) : m.span.start = byteLength before :=
  hp (before ++ rest) _ m ((matchAt_append p before rest).trans h)

/-- A pattern whose expression is anchored as a whole matches at the cursor. -/
theorem matchesAtCursor_of_startsAtTextStart {p : Pattern}
    (hp : p.regex.program.startsAtTextStart) (hahead : p.hasLookahead = false) :
    p.MatchesAtCursor := by
  intro line offset m h
  obtain ⟨rest, -, hmatch⟩ := Option.bind_eq_some_iff.1 h
  obtain ⟨found, hfind, rfl⟩ := exists_find?_of_matchRest hmatch
  simp [ofMatch, hahead, Span.shift, Regex.start_eq_zero_of_find? hp hfind]

/-- What one character compiles to, if it is not one with a meaning of its own. -/
def ofChar (c : Char) : Pattern where
  source := String.singleton c
  regex := ⟨.seq (.look .textStart) (.set (.range c c)), 0⟩
  lineStartOnly := false
  hasLookahead := false

end Pattern

end ModeLexer
