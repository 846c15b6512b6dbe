import ModeLexer.Proofs.Pattern.Words
import ModeLexer.Proofs.Scanner.Labelling
import ModeLexer.Proofs.Scanner.StackSafety

/-!
# Tables that need no way out

A scan has ways out for tables that go wrong: a rematch that does not bring the stack down counts as
a pop, after a number of empty matches a character is passed, and a pop or switch without a mode to
act on is ignored. All of them are reported as warnings. `RuleTable.Steady` is a condition on the
form of the rules that rules them out, and with them tokens of the default class that are longer
than a character. It is decidable, since it asks for no more than what the patterns look like and
which modes can be under which.

A rematch happens at column 0 only, and what is under the mode that rematched has no rematch to try;
so the line is started again once at most, and a rematch is always honoured. Whatever else is used
takes something, so no empty match is ever counted (`Progress.Undisturbed.step`).
-/

namespace ModeLexer

open Text

namespace RuleTable

/-- Whether what can be under a mode that rematches does not rematch. -/
def RematchesOnce (t : RuleTable) : Prop :=
  ∀ id < t.modes.length, .rematch ∈ t.actionsOf id →
    ∀ under ∈ t.underModes id, .rematch ∉ t.actionsOf under

instance (t : RuleTable) : Decidable t.RematchesOnce :=
  inferInstanceAs (Decidable (∀ id < t.modes.length, _))

/-- Whether the form of its rules keeps a table from ever needing a way out. -/
structure Steady (t : RuleTable) : Prop where
  rematchesOnce : t.RematchesOnce
  /-- Rematches are tried at the start of a line only. -/
  lineStartOnly : ∀ m ∈ t.modes, ∀ r ∈ m.rules, r.action = .rematch → r.pattern.lineStartOnly
  /-- A rule that changes the stack and goes on in the line takes something. -/
  consumes : ∀ m ∈ t.modes, ∀ r ∈ m.rules, r.action ≠ .rematch → r.action ≠ .stay →
    r.pattern.isAnchored ∧ r.pattern.regex.program.consumes
  labelsAll : ∀ m ∈ t.modes, ∀ r ∈ m.rules, r.action ≠ .rematch → r.LabelsAll t.defaultToken

instance (t : RuleTable) : Decidable t.Steady :=
  decidable_of_iff
    (t.RematchesOnce ∧
      (∀ m ∈ t.modes, ∀ r ∈ m.rules, r.action = .rematch → r.pattern.lineStartOnly) ∧
      (∀ m ∈ t.modes, ∀ r ∈ m.rules, r.action ≠ .rematch → r.action ≠ .stay →
        r.pattern.isAnchored ∧ r.pattern.regex.program.consumes) ∧
      ∀ m ∈ t.modes, ∀ r ∈ m.rules, r.action ≠ .rematch → r.LabelsAll t.defaultToken)
    ⟨fun ⟨h₁, h₂, h₃, h₄⟩ ↦ ⟨h₁, h₂, h₃, h₄⟩, fun ⟨h₁, h₂, h₃, h₄⟩ ↦ ⟨h₁, h₂, h₃, h₄⟩⟩

/-- The rules of a mode are those of a mode of the table. -/
theorem exists_mode_of_mem_rulesOf {t : RuleTable} {id : ModeId} {r : Rule}
    (h : r ∈ t.rulesOf id) : ∃ m ∈ t.modes, r ∈ m.rules := by
  unfold rulesOf at h
  split at h
  · next m hm => exact ⟨m, List.mem_of_getElem? hm, h⟩
  · simp at h

end RuleTable

namespace Progress

variable {t : RuleTable} {number : Nat} {line : List Char} {p p' : Progress} {r : Rule}
  {m : PatternMatch}

/-- Whether a scan has needed no way out so far, with what keeps it from needing one next. -/
structure Undisturbed (t : RuleTable) (line : List Char) (p : Progress) : Prop where
  inLine : p.InLine line
  bottom_eq : p.stack.bottom = t.base
  onUnderModes : p.stack.OnUnderModes t
  zeroWidthSteps_eq : p.zeroWidthSteps = 0
  /-- At column 0 no rematch of the line has been honoured, or there is none to try. -/
  unfloored : p.cursor = 0 → p.floor = none ∨ .rematch ∉ t.actionsOf p.stack.active
  level_ne : ∀ n ∈ p.notices, n.level ≠ .warn
  text?_eq : ∀ k ∈ p.tokens, k.cls = t.defaultToken → ∃ c, k.text? line = some [c]

/-- A scan begins undisturbed. -/
theorem undisturbed_start {stack : ModeStack} (hbottom : stack.bottom = t.base)
    (hunder : stack.OnUnderModes t) (line : List Char) : (start stack line).Undisturbed t line where
  inLine := inLine_start stack line
  bottom_eq := hbottom
  onUnderModes := hunder
  zeroWidthSteps_eq := rfl
  unfloored _ := .inl rfl
  level_ne := by simp [start]
  text?_eq := by simp [start]

/-- Any rule but a rematch takes something. -/
theorem isEmpty_eq_false_of_steady (ht : t.Steady) (hmatch : p.firstMatch? t = some (r, m))
    (hrematch : r.action ≠ .rematch) : m.span.isEmpty = false := by
  obtain ⟨hmem, hat, husable⟩ := matchRest_of_firstMatch? hmatch
  obtain ⟨mode, hmode, hr⟩ := RuleTable.exists_mode_of_mem_rulesOf hmem
  by_cases hstay : r.action = .stay
  · simpa [isUsable, hstay, ModeStack.changedBy] using husable
  · obtain ⟨hanchored, hconsumes⟩ := ht.consumes mode hmode r hr hrematch hstay
    exact Pattern.isEmpty_span_eq_false hanchored hconsumes hat

/-- Of what is reported about an action only refusals are warnings. -/
theorem isRefusal_of_level_eq_warn {s : ModeStack} {a : Action} {n : Notice}
    (hn : n ∈ actionNotices t number s a) (hlevel : n.level = .warn) : n.isRefusal := by
  cases a with
  | stay => simp [actionNotices] at hn
  | push target =>
    obtain rfl := List.mem_singleton.1 hn
    simp [Notice.level] at hlevel
  | pop | rematch =>
    simp only [actionNotices] at hn
    split at hn
    · simp at hn
    · obtain rfl := List.mem_singleton.1 hn
      rfl
  | switchTo target =>
    rcases List.mem_append.1 hn with hn | hn
    · split at hn
      · simp at hn
      · obtain rfl := List.mem_singleton.1 hn
        rfl
    · obtain rfl := List.mem_singleton.1 hn
      simp [Notice.level] at hlevel

/-- The next character of a line is cut out by the span that it takes. -/
theorem InLine.text?_next (h : p.InLine line) {c : Char} {rest : List Char}
    (hrest : p.rest = c :: rest) (cls : String) :
    Token.text? ⟨cls, number, ⟨p.cursor, p.cursor + c.utf8Size⟩⟩ line = some [c] := by
  obtain ⟨before, rfl, hlen⟩ := h
  rw [hrest, ← hlen]
  exact slice?_append before [c] rest

/-! ### What is chosen -/

section

variable [Regex.SizeLimit] {d : Definition} {library : PatternLibrary}

/-- A rematch is honoured. -/
theorem Undisturbed.honoursRematch (hbuilt : RuleTable.BuiltFrom d library t) (ht : t.Steady)
    (h : p.Undisturbed t line) (hrest : p.rest ≠ []) (hmatch : p.firstMatch? t = some (r, m))
    (hrematch : r.action = .rematch) : p.honoursRematch := by
  obtain ⟨hmem, hat, -⟩ := matchRest_of_firstMatch? hmatch
  obtain ⟨mode, hmode, hr⟩ := RuleTable.exists_mode_of_mem_rulesOf hmem
  have hzero := Pattern.eq_zero_of_matchRest (ht.lineStartOnly mode hmode r hr hrematch) hat
  have hpop : p.stack.canPop := by
    by_contra hpop
    refine hbuilt.not_refuses h.bottom_eq ⟨hrest, by simpa using hpop, r, m, hmatch, ?_, ?_⟩ <;>
      simp [hrematch]
  rcases h.unfloored hzero with hfloor | hnone
  · simp [Progress.honoursRematch, hpop, hfloor]
  · exact absurd (hrematch ▸ action_mem_of_firstMatch? hmatch) hnone

/-- What the chosen rule does to the stack is not refused, so it is not reported as a warning. -/
theorem Undisturbed.level_ne_actionNotices (hbuilt : RuleTable.BuiltFrom d library t)
    (h : p.Undisturbed t line) (hrest : p.rest ≠ []) (hmatch : p.firstMatch? t = some (r, m)) :
    ∀ n ∈ actionNotices t number p.stack r.action, n.level ≠ .warn := by
  have haction : p.stack.canPop = false → r.action = .stay ∨ ∃ m, r.action = .push m := by
    intro hpop
    by_contra! hact
    exact hbuilt.not_refuses h.bottom_eq ⟨hrest, hpop, r, m, hmatch, hact⟩
  intro n hn hlevel
  have hrefusal := isRefusal_of_level_eq_warn hn hlevel
  rw [not_isRefusal_actionNotices haction n hn] at hrefusal
  simp at hrefusal

/-! ### Steps -/

/-- Every step keeps a scan undisturbed. -/
theorem Undisturbed.step (hbuilt : RuleTable.BuiltFrom d library t) (ht : t.Steady)
    (h : p.Undisturbed t line) (hstep : Step t number line p p') : p'.Undisturbed t line := by
  have hin := h.inLine.step hstep
  have hstack : p'.stack.bottom = t.base ∧ p'.stack.OnUnderModes t := by
    rcases hstep.stack_eq_or with heq | ⟨a, ha, heq⟩
    · rw [heq]
      exact ⟨h.bottom_eq, h.onUnderModes⟩
    · rw [heq]
      exact ⟨t.keeps_bottom t.base _ h.bottom_eq a ha,
        RuleTable.keeps_onUnderModes hbuilt.targetsDefined _ h.onUnderModes a ha⟩
  cases hstep with
  | @pass c rest hrest hnone =>
    refine ⟨hin, hstack.1, hstack.2, rfl, fun hzero ↦ ?_, ?_, ?_⟩
    · have hpos := c.utf8Size_pos
      have hcursor : p.cursor + c.utf8Size = 0 := hzero
      omega
    · have hallows : p.allowsZeroWidth := by
        rw [allowsZeroWidth, h.zeroWidthSteps_eq]
        rfl
      rw [passCharacter, if_pos hallows]
      exact h.level_ne
    · exact List.forall_mem_cons.2 ⟨fun _ ↦ ⟨c, h.inLine.text?_next hrest _⟩, h.text?_eq⟩
  | @restart r m hrest hmatch hrematch hhonoured =>
    refine ⟨hin, hstack.1, hstack.2, rfl, fun _ ↦ .inr ?_, ?_, by simp [Progress.restart]⟩
    · -- the mode beneath is one of those under a mode that rematches
      have hmem : .rematch ∈ t.actionsOf p.stack.active :=
        hrematch ▸ action_mem_of_firstMatch? hmatch
      exact ht.rematchesOnce _ (RuleTable.lt_of_mem_actionsOf hmem) hmem _
        (h.onUnderModes.active_pop (canPop_of_honoursRematch hhonoured))
    · exact List.forall_mem_cons.2 ⟨by simp [Notice.level], h.level_ne⟩
  | @apply r m hrest hmatch hnot =>
    have hne : r.action ≠ .rematch := fun hre ↦
      hnot ⟨hre, h.honoursRematch hbuilt ht hrest hmatch hre⟩
    have hempty := isEmpty_eq_false_of_steady ht hmatch hne
    obtain ⟨hmem, hat, -⟩ := matchRest_of_firstMatch? hmatch
    obtain ⟨mode, hmode, hr⟩ := RuleTable.exists_mode_of_mem_rulesOf hmem
    refine ⟨hin, hstack.1, hstack.2, by simp [applyRule, hempty], fun hzero ↦ ?_, ?_, ?_⟩
    · have hstop : m.span.stop = 0 := hzero
      simp [Span.isEmpty, hstop] at hempty
    · simp only [applyRule, hne, false_and, if_false, List.append_nil, List.forall_mem_append]
      exact ⟨h.level_ne_actionNotices hbuilt hrest hmatch, h.level_ne⟩
    · -- the rule leaves nothing to the default class
      simp only [applyRule, List.forall_mem_append, List.mem_reverse, List.mem_map]
      refine ⟨?_, h.text?_eq⟩
      rintro _ ⟨⟨cls, span⟩, hk, rfl⟩ hcls
      exact absurd hcls ((ht.labelsAll mode hmode r hr hne).ne_default hat _ hk)

/-- An undisturbed scan does not take the next rematch for a pop. -/
theorem Undisturbed.demotes_eq_false (hbuilt : RuleTable.BuiltFrom d library t) (ht : t.Steady)
    (h : p.Undisturbed t line) : p.demotes t = false := by
  by_contra hdemotes
  simp only [demotes, Bool.not_eq_false, Bool.and_eq_true, Bool.not_eq_true'] at hdemotes
  obtain ⟨hrest, -, r, m, hmatch, hre⟩ := rematches_iff.1 hdemotes.1
  simp [h.honoursRematch hbuilt ht hrest hmatch hre] at hdemotes

end

end Progress

namespace RuleTable

/-! ### Lines and documents -/

/-- Whether a stack can be that of a document between two lines. -/
def Regular (t : RuleTable) (s : ModeStack) : Prop := s.bottom = t.base ∧ s.OnUnderModes t

/-- The base mode alone, with which a document begins, is regular. -/
theorem regular_base (t : RuleTable) : t.Regular t.initialState.stack :=
  ⟨rfl, List.isChain_singleton _⟩

variable [Regex.SizeLimit] {d : Definition} {library : PatternLibrary} {t : RuleTable}

/-- No action leaves the stack irregular. -/
theorem BuiltFrom.keeps_regular (hbuilt : BuiltFrom d library t) : t.Keeps t.Regular :=
  fun s hs a ha ↦ ⟨t.keeps_bottom t.base s hs.1 a ha,
    keeps_onUnderModes hbuilt.targetsDefined s hs.2 a ha⟩

/-- Between two lines the stack is regular. -/
theorem BuiltFrom.regular_after (hbuilt : BuiltFrom d library t) (lines : List String) :
    t.Regular ((Session.begin t).after t lines).state.stack :=
  hbuilt.keeps_regular.after (s := Session.begin t) t.regular_base lines

namespace Steady

/-- At every stage of a line that begins regularly the scan is undisturbed. -/
theorem undisturbed_stage (hbuilt : BuiltFrom d library t) (ht : t.Steady) {stack : ModeStack}
    (hstack : t.Regular stack) (number : Nat) (line : List Char) (n : Nat) :
    (t.stage number stack line n).Undisturbed t line :=
  stage_invariant (Progress.undisturbed_start hstack.1 hstack.2 line)
    (Progress.Undisturbed.step hbuilt ht) n

/-- Nothing that is reported about a line is a warning. -/
theorem level_ne_scanLine (hbuilt : BuiltFrom d library t) (ht : t.Steady) {s : ScanState}
    (hs : t.Regular s.stack) (number : Nat) (line : String) :
    ∀ n ∈ (t.scanLine s number line).notices, n.level ≠ .warn := by
  obtain ⟨k, hk, -⟩ := t.exists_stage_rest_eq_nil number s.stack line.toList
  rw [scanLine_eq_result hk]
  exact fun n hn ↦
    (ht.undisturbed_stage hbuilt hs number line.toList k).level_ne n (List.mem_reverse.1 hn)

/-- Nothing that is reported about lines that are scanned one after the other is a warning. -/
theorem level_ne_feedAll (hbuilt : BuiltFrom d library t) (ht : t.Steady) {s : Session}
    (hs : t.Regular s.state.stack) (doc : TokenizedDocument) (lines : List String) :
    ∀ n ∈ (s.feedAll t doc lines).2, n.level ≠ .warn := by
  induction lines generalizing s doc with
  | nil => simp [Session.feedAll]
  | cons line lines ih =>
    simp only [Session.feedAll, List.forall_mem_append]
    exact ⟨ht.level_ne_scanLine hbuilt hs s.nextLine line,
      ih (hbuilt.keeps_regular.scanLine hs s.nextLine line) _⟩

/-- Nothing that is reported about a document is a warning. -/
theorem level_ne_tokenizeNotices (hbuilt : BuiltFrom d library t) (ht : t.Steady)
    (lines : List String) : ∀ n ∈ t.tokenizeNotices lines, n.level ≠ .warn := by
  simp only [tokenizeNotices, List.forall_mem_append, List.forall_mem_singleton]
  exact ⟨ht.level_ne_feedAll hbuilt t.regular_base .empty lines, by simp [Notice.level]⟩

/-- What is left to the default class is passed one character after the other. -/
theorem text?_eq_of_mem_line (hbuilt : BuiltFrom d library t) (ht : t.Steady)
    {lines : List String} {i : Nat} {line : String} (hline : lines[i]? = some line) :
    ∀ k ∈ (t.tokenizeLines lines).line i, k.cls = t.defaultToken →
      ∃ c, k.text? line.toList = some [c] := by
  have hregular := hbuilt.regular_after (lines.take i)
  obtain ⟨n, hn, -⟩ := t.exists_stage_rest_eq_nil i
    ((Session.begin t).after t (lines.take i)).state.stack line.toList
  rw [(t.line_tokenizeLines hline).1, scanLine_eq_result hn]
  exact fun k hk ↦
    (ht.undisturbed_stage hbuilt hregular i line.toList n).text?_eq k (List.mem_reverse.1 hk)

end Steady

end RuleTable

end ModeLexer
