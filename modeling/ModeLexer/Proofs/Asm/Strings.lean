import ModeLexer.Proofs.Asm.Outline
import ModeLexer.Proofs.Scanner.Choice
import ModeLexer.Proofs.Scanner.StackRun

/-!
# Strings end on their lines

A mode for strings is entered only where a closing quote follows, and its rules keep it that way. So
at every stage of a line the stack is `Settled`, with no string open, or the string on top of it is
closed in what is left of the line (`Orderly`); and since nothing is left at the end of a line, the
stack is settled there (`Outline.settled_after`).
-/

namespace ModeLexer.Asm

open Regex

/-- Whether no string is open: on the base mode there are comments only, or operands with comments
on them, or what follows a string at the start of a line. -/
def Settled (s : ModeStack) : Prop :=
  s.bottom = root ∧ (s.above = [segDirMsvcRest] ∨
    ∃ n, ∃ operands ∈ [[], [rest]], s.above = List.replicate n comment ++ operands)

/-- Whether a string is open on top of the stack, and closed in what is left of the line. -/
def InString (s : ModeStack) (cs : List Char) : Prop :=
  s.bottom = root ∧ ∃ m ∈ stringModes, ∃ operands ∈ [[], [rest]],
    s.above = m.id :: operands ∧ (m.leave = .pop ∨ operands = []) ∧ m.style.Closes cs

/-- Whether the scan of a line stands outside of strings, or in one that is closed. -/
def Orderly (p : Progress) : Prop := Settled p.stack ∨ InString p.stack p.rest

theorem settled_base : Settled ⟨root, []⟩ := ⟨rfl, .inr ⟨0, [], by simp, rfl⟩⟩

theorem Settled.eq_or_exists {s : ModeStack} (h : Settled s) :
    s = ⟨root, [segDirMsvcRest]⟩ ∨
      ∃ n, ∃ operands ∈ [[], [rest]], s = ⟨root, List.replicate n comment ++ operands⟩ := by
  obtain ⟨b, above⟩ := s
  obtain ⟨hb, habove⟩ := h
  obtain rfl : b = root := hb
  rcases habove with habove | ⟨n, operands, hoperands, habove⟩
  · exact .inl (congrArg (ModeStack.mk root) habove)
  · exact .inr ⟨n, operands, hoperands, congrArg (ModeStack.mk root) habove⟩

/-- At the end of a line no string is open. -/
theorem Orderly.settled {p : Progress} (h : Orderly p) (hrest : p.rest = []) : Settled p.stack := by
  rcases h with h | ⟨-, m, -, operands, -, -, -, hcloses⟩
  · exact h
  · rw [hrest] at hcloses
    exact absurd hcloses QuoteStyle.not_closes_nil

namespace Outline

variable {t : RuleTable} {number : Nat} {line : List Char} {p p' : Progress}

/-! ### Outside of strings -/

/-- Outside of strings an action leads to a stack without an open string, or opens one. -/
theorem settled_or_opens (ht : Outline t) {s : ModeStack} (hs : Settled s) {a : Action}
    (ha : a ∈ t.actionsOf s.active) :
    Settled (s.apply a) ∨ s.active ∈ [root, rest] ∧ ∃ m ∈ stringModes, a = .push m.id ∧
      s.above ∈ [[], [rest]] ∧ (m.leave = .pop ∨ s.above = []) := by
  rcases hs.eq_or_exists with rfl | ⟨n, operands, hoperands, rfl⟩
  · have hmem := ht.mem_actions _ (.tail _ (.tail _ (.tail _ (.head _)))) a ha
    simp only [List.mem_cons, List.not_mem_nil, or_false] at hmem
    rcases hmem with rfl | rfl
    · exact .inl ⟨rfl, .inl rfl⟩
    · exact .inl settled_base
  cases n with
  | succ n =>
    have hmem := ht.mem_actions _ (.tail _ (.tail _ (.head _))) a ha
    simp only [List.mem_cons, List.not_mem_nil, or_false] at hmem
    rcases hmem with rfl | rfl | rfl
    · exact .inl ⟨rfl, .inr ⟨n + 1, operands, hoperands, rfl⟩⟩
    · exact .inl ⟨rfl, .inr ⟨n, operands, hoperands, rfl⟩⟩
    · exact .inl ⟨rfl, .inr ⟨n + 2, operands, hoperands, rfl⟩⟩
  | zero =>
    simp only [List.mem_cons, List.not_mem_nil, or_false] at hoperands
    rcases hoperands with rfl | rfl
    · have hmem := ht.mem_actions _ (.head _) a ha
      simp only [List.mem_cons, List.not_mem_nil, or_false] at hmem
      rcases hmem with rfl | rfl | rfl | rfl | rfl | rfl
      · exact .inl settled_base
      · exact .inl ⟨rfl, .inr ⟨0, [rest], by simp, rfl⟩⟩
      · exact .inl ⟨rfl, .inr ⟨1, [], by simp, rfl⟩⟩
      · exact .inr ⟨by decide, _, .head _, rfl, by decide, .inl rfl⟩
      · exact .inr ⟨by decide, _, .tail _ (.head _), rfl, by decide, .inl rfl⟩
      · exact .inr ⟨by decide, _, .tail _ (.tail _ (.tail _ (.head _))), rfl, by decide, .inr rfl⟩
    · have hmem := ht.mem_actions _ (.tail _ (.head _)) a ha
      simp only [List.mem_cons, List.not_mem_nil, or_false] at hmem
      rcases hmem with rfl | rfl | rfl | rfl | rfl | rfl
      · exact .inl ⟨rfl, .inr ⟨0, [rest], by simp, rfl⟩⟩
      · exact .inl settled_base
      · exact .inl ⟨rfl, .inr ⟨1, [rest], by simp, rfl⟩⟩
      · exact .inr ⟨by decide, _, .head _, rfl, by decide, .inl rfl⟩
      · exact .inr ⟨by decide, _, .tail _ (.head _), rfl, by decide, .inl rfl⟩
      · exact .inr ⟨by decide, _, .tail _ (.tail _ (.head _)), rfl, by decide, .inl rfl⟩

/-- A rule that opens a string is chosen only where the string is closed. -/
theorem closes_of_opens (ht : Outline t) (hline : '\n' ∉ p.rest)
    (hactive : p.stack.active ∈ [root, rest]) {r : Rule} {found : PatternMatch}
    (hmatch : p.firstMatch? t = some (r, found)) {m : StringMode} (hm : m ∈ stringModes)
    (haction : r.action = .push m.id) : m.style.Closes (p.restAt found.span.stop) := by
  obtain ⟨before, after, hrules, hunusable⟩ := Progress.exists_append_of_firstMatch? hmatch
  have hopens := ht.opensClosed _ hactive before.length (by simp [hrules]) r (by simp [hrules]) m hm
    haction
  rw [hrules, List.take_left] at hopens
  obtain ⟨opener, -, hpattern, e, he, hanchored, hstart, hprogram⟩ := hopens
  obtain ⟨word, rest', hrest, hword, -, hrestAt⟩ := Progress.exists_word_of_firstMatch? hmatch
    (by rw [hpattern]; rfl)
  rw [hpattern, Pattern.takes_ofChar] at hword
  obtain rfl := hword
  rw [hrestAt]
  by_contra hnot
  -- the rule for strings that are not closed would have matched, and so it would have been chosen
  have hunclosed : e.pattern.regex.program.Takes none p.rest [] := by
    rw [hprogram, hrest]
    exact QuoteStyle.takes_unclosed (fun hmem ↦ hline (hrest ▸ List.mem_append_right _ hmem)) hnot
  have hplain : e.pattern.regex.program.plain ∧ e.pattern.regex.program.consumes := by
    rw [hprogram]
    exact QuoteStyle.plain_unclosed
  exact Progress.not_takes_of_unusable hanchored hstart hplain.1 hplain.2 (hunusable e he)
    (List.append_nil p.rest).symm hunclosed

/-- A step that begins outside of strings stays there, or opens one that is closed. -/
theorem orderly_of_settled (ht : Outline t) (hrest : '\n' ∉ p.rest) (hs : Settled p.stack)
    (hstep : Progress.Step t number line p p') : Orderly p' := by
  cases hstep with
  | pass => exact .inl hs
  | restart _ hmatch hrematch =>
    have hmem := Progress.action_mem_of_firstMatch? hmatch
    rw [hrematch] at hmem
    rcases ht.settled_or_opens hs hmem with hsettled | ⟨-, m, -, hpush, -⟩
    · exact .inl hsettled
    · simp at hpush
  | @apply r found _ hmatch _ =>
    have hmem := Progress.action_mem_of_firstMatch? hmatch
    rcases ht.settled_or_opens hs hmem with hsettled | ⟨hactive, m, hm, hpush, hoperands, hleave⟩
    · exact .inl hsettled
    · refine .inr ⟨?_, m, hm, p.stack.above, hoperands, ?_, hleave,
        ht.closes_of_opens hrest hactive hmatch hm hpush⟩
      · exact (ModeStack.bottom_apply ..).trans hs.1
      · show (p.stack.apply r.action).above = _
        rw [hpush]
        rfl

/-! ### Within strings -/

/-- Within a string that is closed a rule is found. -/
theorem firstMatch?_ne_none (ht : Outline t) (hline : '\n' ∉ p.rest) {m : StringMode}
    (hm : m ∈ stringModes) (hactive : p.stack.active = m.id) (hcloses : m.style.Closes p.rest) :
    p.firstMatch? t ≠ none := by
  obtain ⟨program, hreader, word, rest', hrest, hword⟩ := QuoteStyle.exists_reader hline hcloses
  obtain ⟨r, hr, hanchored, hstart, rfl⟩ := (ht.readBy m hm).2 program hreader
  obtain ⟨hplain, hconsumes⟩ := QuoteStyle.plain_of_mem_readers hreader
  obtain ⟨r', found, hfound⟩ := Progress.exists_firstMatch?_of_takes (hactive ▸ hr) hanchored hstart
    hplain hconsumes hrest hword
  simp [hfound]

theorem settled_apply_leave {m : StringMode} (hm : m ∈ stringModes) {s : ModeStack}
    {operands : List ModeId} (hoperands : operands ∈ [[], [rest]])
    (hs : s = ⟨root, m.id :: operands⟩) (hleave : m.leave = .pop ∨ operands = []) :
    Settled (s.apply m.leave) := by
  subst hs
  simp only [stringModes, List.mem_cons, List.not_mem_nil, or_false] at hm
  rcases hm with rfl | rfl | rfl | rfl
  · exact ⟨rfl, .inr ⟨0, operands, hoperands, rfl⟩⟩
  · exact ⟨rfl, .inr ⟨0, operands, hoperands, rfl⟩⟩
  · exact ⟨rfl, .inr ⟨0, operands, hoperands, rfl⟩⟩
  · obtain rfl : operands = [] := hleave.resolve_left (by simp)
    exact ⟨rfl, .inl rfl⟩

/-- A step that begins within a string reads on, or leaves it at its closing quote. -/
theorem orderly_of_inString (ht : Outline t) (hrest : '\n' ∉ p.rest)
    (hs : InString p.stack p.rest) (hstep : Progress.Step t number line p p') : Orderly p' := by
  obtain ⟨hbottom, m, hm, operands, hoperands, habove, hleave, hcloses⟩ := hs
  have hstack : p.stack = ⟨root, m.id :: operands⟩ := by
    rw [← hbottom, ← habove]
  have hactive : p.stack.active = m.id := by
    rw [hstack]
    rfl
  -- what a rule that is chosen here can do
  have hrule : ∀ {r : Rule} {found : PatternMatch}, p.firstMatch? t = some (r, found) →
      r.action = m.leave ∨ r.action = .stay ∧ r.pattern.isAnchored ∧
        m.style.StaysInside r.pattern.regex.program := fun hmatch ↦
    (ht.readBy m hm).1 _ (hactive ▸ (Progress.matchRest_of_firstMatch? hmatch).1)
  cases hstep with
  | pass _ hnone => exact absurd hnone (ht.firstMatch?_ne_none hrest hm hactive hcloses)
  | restart _ hmatch hrematch =>
    have hne : ∀ m ∈ stringModes, m.leave ≠ .rematch := by decide
    rcases hrule hmatch with hact | ⟨hact, -⟩
    · exact absurd (hact.symm.trans hrematch) (hne m hm)
    · simp [hact] at hrematch
  | @apply r found _ hmatch _ =>
    rcases hrule hmatch with hact | ⟨hact, hanchored, hstays⟩
    · left
      show Settled (p.stack.apply r.action)
      rw [hact]
      exact settled_apply_leave hm hoperands hstack hleave
    · obtain ⟨word, rest', hword_rest, hword, -, hrestAt⟩ :=
        Progress.exists_word_of_firstMatch? hmatch hanchored
      refine .inr ⟨?_, m, hm, operands, hoperands, ?_, hleave, ?_⟩
      · exact (ModeStack.bottom_apply ..).trans hbottom
      · show (p.stack.apply r.action).above = _
        rw [hact]
        exact habove
      · show m.style.Closes (p.restAt found.span.stop)
        rw [hword_rest, QuoteStyle.closes_append hstays hword] at hcloses
        rwa [hrestAt]

/-! ### Lines -/

/-- Every step keeps the scan of a line in order. -/
theorem orderly_of_step (ht : Outline t) (hline : '\n' ∉ line) (hp : p.InLine line)
    (h : Orderly p) (hstep : Progress.Step t number line p p') : Orderly p' := by
  have hrest : '\n' ∉ p.rest := by
    obtain ⟨before, rfl, -⟩ := hp
    exact fun hmem ↦ hline (List.mem_append_right _ hmem)
  rcases h with hs | hs
  · exact ht.orderly_of_settled hrest hs hstep
  · exact ht.orderly_of_inString hrest hs hstep

theorem orderly_stage (ht : Outline t) {stack : ModeStack} (hs : Settled stack)
    (hline : '\n' ∉ line) (n : Nat) : Orderly (t.stage number stack line n) := by
  have h : (t.stage number stack line n).InLine line ∧ Orderly (t.stage number stack line n) :=
    RuleTable.stage_invariant (P := fun p ↦ p.InLine line ∧ Orderly p)
      ⟨Progress.inLine_start stack line, .inl hs⟩
      (fun hp hstep ↦ ⟨hp.1.step hstep, ht.orderly_of_step hline hp.1 hp.2 hstep⟩) n
  exact h.2

/-- A line that begins without an open string ends without one. -/
theorem settled_scanLine (ht : Outline t) {s : ScanState} (hs : Settled s.stack) {line : String}
    (hline : '\n' ∉ line.toList) (number : Nat) :
    Settled (t.scanLine s number line).state.stack := by
  obtain ⟨n, hn, -⟩ := t.exists_stage_rest_eq_nil number s.stack line.toList
  rw [RuleTable.scanLine_eq_result hn]
  exact (ht.orderly_stage hs hline n).settled hn

/-- Lines that begin without an open string leave none open. -/
theorem settled_after (ht : Outline t) {s : Session} (hs : Settled s.state.stack)
    {lines : List String} (hlines : ∀ line ∈ lines, '\n' ∉ line.toList) :
    Settled (s.after t lines).state.stack := by
  induction lines generalizing s with
  | nil => exact hs
  | cons line lines ih =>
    rw [List.forall_mem_cons] at hlines
    exact ih (ht.settled_scanLine hs hlines.1 s.nextLine) hlines.2

/-- After any line of a document no string is open. -/
theorem settled_after_begin (ht : Outline t) {lines : List String}
    (hlines : ∀ line ∈ lines, '\n' ∉ line.toList) (i : Nat) :
    Settled ((Session.begin t).after t (lines.take i)).state.stack := by
  refine ht.settled_after (s := Session.begin t) ?_ fun l hl ↦ hlines l (List.mem_of_mem_take hl)
  show Settled ⟨t.base, []⟩
  rw [ht.base_eq]
  exact settled_base

end Outline

end ModeLexer.Asm
