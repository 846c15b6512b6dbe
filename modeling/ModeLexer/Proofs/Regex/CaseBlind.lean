import ModeLexer.Proofs.Regex.IgnoredCase
import ModeLexer.Proofs.Regex.Outcomes

/-!
# Matching in small letters

A program with case-blind sets does in a text what it does in the text in small letters: at every
position the same characters can be taken, the same tests hold, and the same number of bytes is
passed. So the states that it comes to are the same but for the letters in them
(`Program.outcomes_lower`), and what is found stands in the same place (`Regex.find?_lower`).
-/

namespace ModeLexer.Regex

open Unicode

/-- A state in which the text around the position is in small letters. -/
def MatchState.lower (s : MatchState) : MatchState :=
  { s with before := s.before.map Char.toLower, rest := s.rest.map Char.toLower }

namespace MatchState

variable (s : MatchState)

theorem advance_lower (c : Char) (cs : List Char) :
    s.lower.advance c.toLower (cs.map Char.toLower) = (s.advance c cs).lower := by
  rw [advance, advance, utf8Size_toLower]
  rfl

theorem pass_lower (guard : Option Nat) : s.lower.pass guard = (s.pass guard).map lower := by
  cases guard with
  | none => rfl
  | some g =>
    have hpassed : s.lower.passed.contains g = s.passed.contains g := rfl
    rw [pass, pass, hpassed]
    split <;> rfl

end MatchState

theorem besideWord_lower (ascii : Bool) (c : Option Char) :
    besideWord ascii (c.map Char.toLower) = besideWord ascii c := by
  cases c with
  | none => rfl
  | some c => simp [besideWord, isWord_toLower, isAsciiWord_toLower]

/-- A test of a position tells words and ends of lines apart, and both are case-blind. -/
theorem Look.holds_lower (l : Look) (before after : Option Char) :
    l.holds (before.map Char.toLower) (after.map Char.toLower) = l.holds before after := by
  have hfeed (c : Char) : c.toLower = '\n' ↔ c = '\n' := toLower_eq_lineEnd_iff (by decide) c
  have hreturn (c : Char) : c.toLower = '\r' ↔ c = '\r' := toLower_eq_lineEnd_iff (by decide) c
  cases l with
  | wordBoundary | notWordBoundary | wordStart | wordEnd | wordStartHalf | wordEndHalf =>
    simp only [holds, besideWord_lower]
  | textStart | textEnd => simp [holds]
  | lineStart => cases before <;> simp [holds, hfeed]
  | lineEnd => cases after <;> simp [holds, hfeed]
  | crlfLineStart =>
    rw [Bool.eq_iff_iff]
    cases before <;> cases after <;> simp [holds, hfeed, hreturn]
  | crlfLineEnd =>
    rw [Bool.eq_iff_iff]
    cases before <;> cases after <;> simp [holds, hfeed, hreturn]

namespace Program

theorem loopOutcomes_lower {body : MatchState → List MatchState}
    (hbody : ∀ s : MatchState, body s.lower = (body s).map MatchState.lower) (guard : Option Nat)
    (greedy : Bool) (n : Nat) (s : MatchState) :
    loopOutcomes guard greedy body n s.lower =
      (loopOutcomes guard greedy body n s).map MatchState.lower := by
  induction n generalizing s with
  | zero => rfl
  | succ n ih =>
    rw [loopOutcomes, loopOutcomes, MatchState.pass_lower]
    cases s.pass guard with
    | none => rfl
    | some s =>
      have hagain : (body s.lower).flatMap (loopOutcomes guard greedy body n) =
          ((body s).flatMap (loopOutcomes guard greedy body n)).map MatchState.lower := by
        rw [hbody, List.flatMap_map, List.map_flatMap]
        exact congrArg (List.flatMap · (body s)) (funext ih)
      simp only [Option.map_some, hagain]
      cases greedy <;> simp

/-- The outcomes in small letters are the outcomes, in small letters. -/
theorem outcomes_lower {p : Program} (hp : p.CaseBlind) (s : MatchState) :
    p.outcomes s.lower = (p.outcomes s).map MatchState.lower := by
  induction p generalizing s with
  | empty => rfl
  | set a =>
    have hrest : s.lower.rest = s.rest.map Char.toLower := rfl
    rw [outcomes, outcomes, hrest]
    cases s.rest with
    | nil => rfl
    | cons c cs =>
      simp only [List.map_cons, hp c, MatchState.advance_lower]
      split <;> rfl
  | look l =>
    have hholds : l.holds s.lower.before s.lower.rest.head? = l.holds s.before s.rest.head? := by
      rw [MatchState.lower, List.head?_map, Look.holds_lower]
    rw [outcomes, outcomes, hholds]
    split <;> rfl
  | capture i p ih =>
    rw [outcomes, outcomes, ih hp, List.map_map, List.map_map]
    rfl
  | seq p q ihp ihq =>
    rw [outcomes, outcomes, ihp hp.1, List.flatMap_map, List.map_flatMap]
    exact congrArg (List.flatMap · (p.outcomes s)) (funext (ihq hp.2))
  | choice guard p q ihp ihq =>
    rw [outcomes, outcomes, MatchState.pass_lower]
    cases s.pass guard with
    | none => rfl
    | some s => simp [ihp hp.1, ihq hp.2]
  | star guard greedy p ih =>
    have hlength : s.lower.rest.length = s.rest.length := List.length_map _
    rw [outcomes, outcomes, hlength]
    exact loopOutcomes_lower (ih hp) guard greedy _ s
  | plus guard greedy p ih =>
    have hlength : s.lower.rest.length = s.rest.length := List.length_map _
    rw [outcomes, outcomes, hlength, ih hp, List.flatMap_map, List.map_flatMap]
    exact congrArg (List.flatMap · (p.outcomes s))
      (funext (loopOutcomes_lower (ih hp) guard greedy _))

theorem match?_lower {p : Program} (hp : p.CaseBlind) (s : MatchState) :
    p.match? s.lower = (p.match? s).map MatchState.lower := by
  rw [match?_eq_head?, match?_eq_head?, outcomes_lower hp, List.head?_map]

end Program

/-- What is found in small letters is what is found. -/
theorem search_lower {p : Program} (hp : p.CaseBlind) (before : Option Char) (offset : Nat)
    (cs : List Char) :
    search p (before.map Char.toLower) offset (cs.map Char.toLower) =
      search p before offset cs := by
  have hmatch (before : Option Char) (offset : Nat) (cs : List Char) :
      p.match? ⟨before.map Char.toLower, cs.map Char.toLower, offset, [], []⟩ =
        (p.match? ⟨before, cs, offset, [], []⟩).map MatchState.lower :=
    Program.match?_lower hp ⟨before, cs, offset, [], []⟩
  induction cs generalizing before offset with
  | nil =>
    rw [search.eq_def, hmatch, search.eq_def p before]
    cases p.match? ⟨before, [], offset, [], []⟩ <;> rfl
  | cons c cs ih =>
    rw [search.eq_def, hmatch, search.eq_def p before]
    cases p.match? ⟨before, c :: cs, offset, [], []⟩ with
    | some s => rfl
    | none =>
      have hnext : search p (some c.toLower) (offset + c.utf8Size) (cs.map Char.toLower) =
          search p (some c) (offset + c.utf8Size) cs := ih (some c) _
      simp only [Option.map_none, List.map_cons, utf8Size_toLower, hnext]

theorem find?_lower {r : Regex} (hr : r.program.CaseBlind) (cs : List Char) :
    r.find? (cs.map Char.toLower) = r.find? cs :=
  search_lower hr none 0 cs

end ModeLexer.Regex
