import ModeLexer.Proofs.Regex.CaseBlind
import ModeLexer.Proofs.Regex.Renumbering
import ModeLexer.Proofs.Scanner.Run

/-!
# Scanning in small letters

If the patterns of a table are case-blind, a line and the line in small letters are scanned in the
same steps (`Progress.next_lower`): a rule that matches matches the same bytes, and nothing but what
is left of the line tells the two scans apart. So the scans come to the same tokens and the same end
(`RuleTable.CaseBlind.scanChars_lower`), as do the scans of any two lines that are equal in small
letters.
-/

namespace ModeLexer

open Unicode

/-- A split in small letters is the split, in small letters. -/
theorem Text.splitAt?_lower (n : Nat) (cs : List Char) :
    splitAt? n (cs.map Char.toLower) =
      (splitAt? n cs).map fun x ↦ (x.1.map Char.toLower, x.2.map Char.toLower) := by
  induction cs generalizing n with
  | nil => cases n <;> rfl
  | cons c cs ih =>
    cases n with
    | zero => rfl
    | succ n =>
      rw [List.map_cons, splitAt?, splitAt?, utf8Size_toLower, ih]
      split
      · rw [Option.map_map, Option.map_map]
        rfl
      · rfl

/-- Whether a pattern takes capital letters for small ones. -/
def Pattern.CaseBlind (p : Pattern) : Prop := p.regex.program.CaseBlind

theorem Pattern.CaseBlind.matchRest_lower {p : Pattern} (hp : p.CaseBlind) (offset : Nat)
    (rest : List Char) : p.matchRest offset (rest.map Char.toLower) = p.matchRest offset rest := by
  rw [matchRest, matchRest, Regex.find?_lower hp]

/-- Whether all patterns of a table take capital letters for small ones. -/
def RuleTable.CaseBlind (t : RuleTable) : Prop := ∀ id, ∀ r ∈ t.rulesOf id, r.pattern.CaseBlind

namespace Progress

variable {t : RuleTable} (number : Nat) (line : List Char) (p : Progress)

/-- The scan of a line of which what is left is in small letters. -/
def lower : Progress := { p with rest := p.rest.map Char.toLower }

theorem restAt_lower (offset : Nat) :
    p.lower.restAt offset = (p.restAt offset).map Char.toLower := by
  have hsplit : Text.splitAt? (offset - p.lower.cursor) p.lower.rest = _ :=
    Text.splitAt?_lower (offset - p.cursor) p.rest
  rw [restAt, restAt, hsplit]
  cases Text.splitAt? (offset - p.cursor) p.rest <;> rfl

theorem firstMatch?_lower (ht : t.CaseBlind) : p.lower.firstMatch? t = p.firstMatch? t := by
  refine Regex.Program.findSome?_eq_of_forall₂ (fun _ _ heq ↦ heq)
    (List.forall₂_same.2 fun r hr ↦ ?_)
  have hmatch : r.pattern.matchRest p.lower.cursor p.lower.rest =
      r.pattern.matchRest p.cursor p.rest := (ht _ r hr).matchRest_lower p.cursor p.rest
  rw [hmatch]
  rfl

theorem applyRule_lower (r : Rule) (m : PatternMatch) :
    p.lower.applyRule t number r m = (p.applyRule t number r m).lower := by
  rw [applyRule, restAt_lower]
  rfl

/-- One step in small letters is the step, in small letters. -/
theorem next_lower (ht : t.CaseBlind) :
    p.lower.next t number (line.map Char.toLower) = (p.next t number line).lower := by
  cases hrest : p.rest with
  | nil =>
    have hlower : p.lower.rest = [] := by rw [lower, hrest, List.map_nil]
    rw [next_of_rest_eq_nil hrest, next_of_rest_eq_nil hlower]
  | cons c rest =>
    have hlower : p.lower.rest = c.toLower :: rest.map Char.toLower := by
      rw [lower, hrest, List.map_cons]
    rw [next, next, hrest, hlower]
    show step t number (line.map Char.toLower) p.lower c.toLower (rest.map Char.toLower) =
      (step t number line p c rest).lower
    rw [step, step, firstMatch?_lower p ht]
    split
    · rw [passCharacter, utf8Size_toLower]
      rfl
    · next r m _ =>
      have hhonours : p.lower.honoursRematch = p.honoursRematch := rfl
      rw [hhonours]
      split
      · rfl
      · exact applyRule_lower number p r m

end Progress

namespace RuleTable

theorem CaseBlind.stage_lower {t : RuleTable} (ht : t.CaseBlind) (number : Nat) (stack : ModeStack)
    (line : List Char) (n : Nat) :
    t.stage number stack (line.map Char.toLower) n = (t.stage number stack line n).lower := by
  induction n with
  | zero => rfl
  | succ n ih => rw [stage_succ, stage_succ, ih, Progress.next_lower number line _ ht]

/-- The scan of a line in small letters is the scan of the line. -/
theorem CaseBlind.scanChars_lower {t : RuleTable} (ht : t.CaseBlind) (number : Nat)
    (stack : ModeStack) (line : List Char) :
    t.scanChars number stack (line.map Char.toLower) = t.scanChars number stack line := by
  obtain ⟨n, hn, -⟩ := t.exists_stage_rest_eq_nil number stack line
  have hlower := ht.stage_lower number stack line n
  have hend : (t.stage number stack (line.map Char.toLower) n).rest = [] := by
    rw [hlower, Progress.lower, hn]
    rfl
  rw [scanChars_eq_result hn, scanChars_eq_result hend, hlower]
  rfl

end RuleTable

end ModeLexer
