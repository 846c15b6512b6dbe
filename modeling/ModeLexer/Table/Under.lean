import ModeLexer.Table.Basic

/-!
# Which modes can be under which

A mode gets on top of another one by a push from it, and a switch puts a mode on top of whatever the
mode that switched was on. `SitsOn` is the least relation with these two rules; `sitters` computes
who can sit on a given mode, beginning with the modes it pushes and following switches until nothing
is added.
-/

namespace ModeLexer.RuleTable

/-- Whether mode `mode` can come to stand directly on top of mode `under`. -/
inductive SitsOn (t : RuleTable) (under : ModeId) : ModeId → Prop where
  | push {mode : ModeId} (h : .push mode ∈ t.actionsOf under) : SitsOn t under mode
  | switch {mode target : ModeId} (h : SitsOn t under mode)
      (hs : .switchTo target ∈ t.actionsOf mode) : SitsOn t under target

/-- The modes that a mode pushes. -/
def pushTargets (t : RuleTable) (id : ModeId) : List ModeId :=
  (t.actionsOf id).filterMap fun
    | .push m => some m
    | _ => none

/-- The modes that a mode switches to. -/
def switchTargets (t : RuleTable) (id : ModeId) : List ModeId :=
  (t.actionsOf id).filterMap fun
    | .switchTo m => some m
    | _ => none

/-- The members of a set of modes and the targets of their switches, in increasing order. -/
def spread (t : RuleTable) (s : List ModeId) : List ModeId :=
  (List.range t.modes.length).filter fun m ↦
    s.contains m || s.any fun a ↦ (t.switchTargets a).contains m

/-- Spreads a set until it does not grow any more, at most `n` times. -/
def spreadUntilStable (t : RuleTable) : Nat → List ModeId → List ModeId
  | 0, s => s
  | n + 1, s =>
    let s' := t.spread s
    if s' = s then s else spreadUntilStable t n s'

/-- The modes that can sit directly on a mode. Each round but the last adds a mode, so there are not
more rounds than modes, and one. -/
def sitters (t : RuleTable) (under : ModeId) : List ModeId :=
  t.spreadUntilStable (t.modes.length + 1) (t.pushTargets under)

/-- The modes that a mode can sit directly on, in increasing order. -/
def underModes (t : RuleTable) (id : ModeId) : List ModeId :=
  (List.range t.modes.length).filter fun under ↦ (t.sitters under).contains id

end ModeLexer.RuleTable
