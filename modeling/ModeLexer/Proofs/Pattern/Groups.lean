import ModeLexer.Proofs.Pattern.Anchoring

/-!
# Groups that a match reports

A match of a pattern lists the groups written in the pattern, in the order of their numbers. What it
lists is what the expression has recorded under these numbers, one higher if there is a group
around the part that the pattern takes (`Pattern.group?_ofMatch`); numbers beyond the list have no
group in the expression either.
-/

namespace ModeLexer

open Text

/-- What the group with a number reports; the number zero is that of the whole match. -/
def PatternMatch.group? (m : PatternMatch) : Nat → Option Span
  | 0 => some m.span
  | i + 1 => m.groups[i]?.join

namespace Pattern

/-- What a match reports of a group is what the expression has recorded under its number. -/
theorem group?_ofMatch [Regex.SizeLimit] {source : String} {ignoreCase : Bool} {p : Pattern}
    (h : compile source ignoreCase = .ok p) {rest : List Char} {m : Regex.Match}
    (hm : p.regex.find? rest = some m) (pos i : Nat) :
    (p.ofMatch pos m).group? (i + 1) = (m.group? (i + 1 + p.groupOffset)).map (·.shift pos) := by
  show ((List.range p.groupCount).map fun i ↦
    (m.group? (i + 1 + p.groupOffset)).map (·.shift pos))[i]?.join = _
  rw [List.getElem?_map]
  by_cases hi : i < p.groupCount
  · rw [List.getElem?_range hi]
    rfl
  · have hnone : m.group? (i + 1 + p.groupOffset) = none := by
      refine Regex.group?_eq_none (compile_eq_ok h).1 hm ?_
      unfold groupCount at hi
      omega
    rw [List.getElem?_eq_none (by simpa using hi), hnone]
    rfl

end Pattern

end ModeLexer
