import ModeLexer.Notice
import ModeLexer.Scanner.Layout
import ModeLexer.Scanner.ModeStack
import ModeLexer.Scanner.Token

/-!
# One step of scanning a line

`Progress` is where the scan of a line stands, and `Progress.step` takes it one step further: the
first usable rule of the active mode is applied, or one character is passed with the default class.

Rules that match the empty text are usable only where they change the stack, and only a limited
number of times in a row. A rematch starts the line again, but only if it brings the stack below
where every earlier rematch of the line has brought it; otherwise it counts as a pop. Together this
is why a scan ends: `Progress.step_lt` says that every step brings down `Progress.measure`.
-/

namespace ModeLexer

/-- How many rules in a row may match the empty text. -/
def maxZeroWidthSteps : Nat := 16

/-- Where the scan of a line stands. -/
structure Progress where
  stack : ModeStack
  /-- The cursor, in bytes from the start of the line. -/
  cursor : Nat
  /-- What is left of the line at the cursor. -/
  rest : List Char
  /-- The height to which the last rematch of the line brought the stack. -/
  floor : Option Nat
  /-- How many rules have matched the empty text since a character was passed. -/
  zeroWidthSteps : Nat
  /-- The tokens since the line was started, the last one first. -/
  tokens : List Token
  /-- What has happened so far, the last thing first. -/
  notices : List Notice
  deriving DecidableEq, Repr

namespace Progress

/-- The start of a line. -/
def start (stack : ModeStack) (line : List Char) : Progress :=
  { stack, cursor := 0, rest := line, floor := none, zeroWidthSteps := 0, tokens := [],
    notices := [] }

/-- Whether rules that match the empty text may still be used. -/
def allowsZeroWidth (p : Progress) : Bool := p.zeroWidthSteps < maxZeroWidthSteps

/-- Whether a match can be used: it takes something, or it rematches, or it changes the stack and
rules that take nothing may still be used. -/
def isUsable (p : Progress) (a : Action) (m : PatternMatch) : Bool :=
  !m.span.isEmpty || (a = .rematch && p.stack.canPop) ||
    (p.allowsZeroWidth && p.stack.changedBy a)

/-- The first usable rule of the active mode, with its match. -/
def firstMatch? (t : RuleTable) (p : Progress) : Option (Rule × PatternMatch) :=
  (t.rulesOf p.stack.active).findSome? fun r ↦
    match r.pattern.matchRest p.cursor p.rest with
    | some m => if p.isUsable r.action m then some (r, m) else none
    | none => none

/-- Whether a rematch brings the stack below every earlier rematch of the line. -/
def honoursRematch (p : Progress) : Bool :=
  p.stack.canPop && p.floor.all (p.stack.depth - 1 < ·)

/-- What is left of the line at a later offset. -/
def restAt (p : Progress) (offset : Nat) : List Char :=
  match Text.splitAt? (offset - p.cursor) p.rest with
  | some (_, rest) => rest
  | none => []

/-- What is reported about an action. -/
def actionNotices (t : RuleTable) (number : Nat) (stack : ModeStack) : Action → List Notice
  | .stay => []
  | .push m => [.pushed number (t.nameOf m)]
  | .pop | .rematch => if stack.canPop then [] else [.popIgnored number]
  | .switchTo m =>
    (if stack.canPop then [] else [.switchIgnored number]) ++ [.switched number (t.nameOf m)]

/-- Passes one character with the default class. -/
def passCharacter (t : RuleTable) (number : Nat) (p : Progress) (c : Char) (rest : List Char) :
    Progress :=
  { p with
    cursor := p.cursor + c.utf8Size
    rest
    zeroWidthSteps := 0
    tokens := ⟨t.defaultToken, number, ⟨p.cursor, p.cursor + c.utf8Size⟩⟩ :: p.tokens
    notices :=
      (if p.allowsZeroWidth then [] else [.zeroWidthLoop number p.cursor]) ++ p.notices }

/-- Starts the line again in the mode beneath. -/
def restart (t : RuleTable) (number : Nat) (line : List Char) (p : Progress) : Progress :=
  { stack := p.stack.pop
    cursor := 0
    rest := line
    floor := some (p.stack.depth - 1)
    zeroWidthSteps := 0
    tokens := []
    notices := .rematched number p.cursor (t.nameOf p.stack.pop.active) :: p.notices }

/-- Emits the tokens of a match and applies the action of its rule. -/
def applyRule (t : RuleTable) (number : Nat) (p : Progress) (r : Rule) (m : PatternMatch) :
    Progress :=
  { p with
    stack := p.stack.apply r.action
    cursor := m.span.stop
    rest := p.restAt m.span.stop
    zeroWidthSteps := if m.span.isEmpty then p.zeroWidthSteps + 1 else 0
    tokens := ((Layout.ofMatch t.defaultToken r.emission m).map fun (cls, span) ↦
      ⟨cls, number, span⟩).reverse ++ p.tokens
    notices := actionNotices t number p.stack r.action ++
      (if r.action = .rematch ∧ p.stack.canPop then
        [.rematchDemoted number p.cursor (t.nameOf p.stack.active)] else []) ++ p.notices }

/-- Takes one step in line `number`, where `c :: rest` is what is left of the line. -/
def step (t : RuleTable) (number : Nat) (line : List Char) (p : Progress) (c : Char)
    (rest : List Char) : Progress :=
  match p.firstMatch? t with
  | none => p.passCharacter t number c rest
  | some (r, m) =>
    if r.action = .rematch ∧ p.honoursRematch then p.restart t number line
    else p.applyRule t number r m

/-! ### Every step brings the scan nearer to its end -/

/-- What a step brings down: whether a rematch has not happened yet and how low the last one was;
then what is left of the line; then how many more rules may match the empty text; then the height of
the stack. -/
abbrev Measure := Nat × Nat × Nat × Nat × Nat

/-- The measure of a scan. -/
def measure (p : Progress) : Measure :=
  (if p.floor.isNone then 1 else 0, p.floor.getD 0, p.rest.length,
    maxZeroWidthSteps - p.zeroWidthSteps, p.stack.depth)

/-- Measures are compared like words: the first place where they differ decides. -/
abbrev Measure.Lt : Measure → Measure → Prop := WellFoundedRelation.rel

theorem length_restAt_le (p : Progress) (offset : Nat) :
    (p.restAt offset).length ≤ p.rest.length := by
  unfold restAt
  split
  · next h =>
    have := congrArg List.length (Text.append_of_splitAt? h).1
    simp only [List.length_append] at this
    omega
  · exact Nat.zero_le _

theorem length_restAt_lt {p : Progress} {offset : Nat} (h : p.cursor < offset)
    (hne : p.rest ≠ []) : (p.restAt offset).length < p.rest.length := by
  unfold restAt
  split
  · next as bs h' =>
    obtain ⟨happ, hlen⟩ := Text.append_of_splitAt? h'
    cases as with
    | nil => simp only [Text.byteLength_nil] at hlen; omega
    | cons a as =>
      have := congrArg List.length happ
      simp only [List.length_append, List.length_cons] at this
      omega
  · exact List.length_pos_iff.2 hne

/-- A match that is found is usable, and starts at the cursor or after it. -/
theorem usable_of_firstMatch? {t : RuleTable} {p : Progress} {r : Rule} {m : PatternMatch}
    (h : p.firstMatch? t = some (r, m)) : p.isUsable r.action m ∧ p.cursor ≤ m.span.start := by
  obtain ⟨r', -, h⟩ := List.exists_of_findSome?_eq_some h
  split at h
  · next m' hm =>
    split at h
    · next hu =>
      simp only [Option.some.injEq, Prod.mk.injEq] at h
      obtain ⟨rfl, rfl⟩ := h
      exact ⟨hu, Pattern.le_start_of_matchRest hm⟩
    · simp at h
  · simp at h

/-- A character that is passed is left behind. -/
theorem measure_passCharacter_lt (t : RuleTable) (number : Nat) {p : Progress} {c : Char}
    {rest : List Char} (hrest : p.rest = c :: rest) :
    Measure.Lt (p.passCharacter t number c rest).measure p.measure := by
  refine Prod.Lex.right _ (Prod.Lex.right _ (Prod.Lex.left _ _ ?_))
  show rest.length < p.rest.length
  simp [hrest]

/-- A line is started again either for the first time or lower than ever before. -/
theorem measure_restart_lt (t : RuleTable) (number : Nat) (line : List Char) {p : Progress}
    (h : p.honoursRematch) : Measure.Lt (p.restart t number line).measure p.measure := by
  simp only [honoursRematch, Bool.and_eq_true] at h
  cases hf : p.floor with
  | none =>
    have hp : p.measure = (1, 0, p.rest.length,
      maxZeroWidthSteps - p.zeroWidthSteps, p.stack.depth) := by simp [measure, hf]
    rw [hp]
    exact Prod.Lex.left _ _ Nat.zero_lt_one
  | some f =>
    have hlt : p.stack.depth - 1 < f := by simpa [hf] using h.2
    have hp : p.measure = (0, f, p.rest.length,
      maxZeroWidthSteps - p.zeroWidthSteps, p.stack.depth) := by simp [measure, hf]
    rw [hp]
    exact Prod.Lex.right _ (Prod.Lex.left _ _ hlt)

/-- A usable rule that takes nothing where no such rule may be used any more is a rematch that
counts as a pop. -/
theorem rematch_of_isUsable {p : Progress} {a : Action} {m : PatternMatch} (h : p.isUsable a m)
    (hempty : m.span.isEmpty) (hz : ¬p.zeroWidthSteps < maxZeroWidthSteps) :
    a = .rematch ∧ p.stack.canPop := by
  simpa [isUsable, hempty, allowsZeroWidth, hz] using h

/-- A rule that takes something shortens what is left; one that takes nothing uses up one of the
steps that may do so, or lowers the stack. -/
theorem measure_applyRule_lt (t : RuleTable) (number : Nat) {p : Progress} {r : Rule}
    {m : PatternMatch} (husable : p.isUsable r.action m) (hstart : p.cursor ≤ m.span.start)
    (hne : p.rest ≠ []) : Measure.Lt (p.applyRule t number r m).measure p.measure := by
  refine Prod.Lex.right _ (Prod.Lex.right _ ?_)
  by_cases hempty : m.span.isEmpty
  · -- the empty text is matched, perhaps further on
    rcases Nat.lt_or_eq_of_le (p.length_restAt_le m.span.stop) with hlt | heq
    · exact Prod.Lex.left _ _ hlt
    · simp only [applyRule, heq, hempty, if_true]
      refine Prod.Lex.right _ ?_
      by_cases hz : p.zeroWidthSteps < maxZeroWidthSteps
      · refine Prod.Lex.left _ _ ?_
        show maxZeroWidthSteps - (p.zeroWidthSteps + 1) < maxZeroWidthSteps - p.zeroWidthSteps
        omega
      · obtain ⟨ha, hpop⟩ := rematch_of_isUsable husable hempty hz
        have hsteps : maxZeroWidthSteps - (p.zeroWidthSteps + 1) =
          maxZeroWidthSteps - p.zeroWidthSteps := by omega
        rw [hsteps, ha]
        refine Prod.Lex.right _ ?_
        have := ModeStack.depth_pop hpop
        show p.stack.pop.depth < p.stack.depth
        omega
  · -- something is taken
    refine Prod.Lex.left _ _ (length_restAt_lt ?_ hne)
    simp only [Span.isEmpty, decide_eq_true_eq] at hempty
    omega

/-- Whatever a step does, it brings the measure down. -/
theorem step_lt (t : RuleTable) (number : Nat) (line : List Char) {p : Progress} {c : Char}
    {rest : List Char} (hrest : p.rest = c :: rest) :
    Measure.Lt (p.step t number line c rest).measure p.measure := by
  unfold step
  split
  · exact measure_passCharacter_lt t number hrest
  · next r m hm =>
    obtain ⟨husable, hstart⟩ := usable_of_firstMatch? hm
    split
    · next h => exact measure_restart_lt t number line h.2
    · exact measure_applyRule_lt t number husable hstart (by simp [hrest])

end Progress

end ModeLexer
