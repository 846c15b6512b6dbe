import ModeLexer.Pattern.Basic
import ModeLexer.Table.Basic

/-!
# Laying out the tokens of a match

A match with one class is one token. A match with a class for each group is laid out from left to
right: a labelled group that took part becomes a token of its class, unless it is empty, reaches out
of what the match takes, or starts before the end of the group laid out before it; what lies between
is covered with the default class. So the tokens of a match always tile it.
-/

namespace ModeLexer.Layout

/-- The part from `start` to `stop` as one token of a class, if there is something in it. -/
def gap (cls : String) (start stop : Nat) : List (String × Span) :=
  if start < stop then [(cls, ⟨start, stop⟩)] else []

/-- Lays out labelled groups up to `stop`, everything before `covered` being laid out already. -/
def groups (default : String) (stop : Nat) :
    Nat → List (Option String × Option Span) → List (String × Span)
  | covered, [] => gap default covered stop
  | covered, (some cls, some g) :: rest =>
    if g.isEmpty ∨ g.start < covered ∨ stop < g.stop then groups default stop covered rest
    else gap default covered g.start ++ (cls, g) :: groups default stop g.stop rest
  | covered, (_, _) :: rest => groups default stop covered rest

/-- Pairs classes with the groups that they label; a class without a group labels nothing. -/
def pairGroups : List (Option String) → List (Option Span) → List (Option String × Option Span)
  | [], _ => []
  | c :: cs, [] => (c, none) :: pairGroups cs []
  | c :: cs, g :: gs => (c, g) :: pairGroups cs gs

/-- The classes and spans of the tokens of a match. -/
def ofMatch (default : String) (e : Emission) (m : PatternMatch) : List (String × Span) :=
  if m.span.isEmpty then []
  else match e with
    | .whole cls => [(cls, m.span)]
    | .groups classes => groups default m.span.stop m.span.start (pairGroups classes m.groups)

end ModeLexer.Layout
