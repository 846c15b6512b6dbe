import ModeLexer.Proofs.Asm.Strings

/-!
# Where strings are closed

A string is opened only where it is closed in what is left of the line
(`Outline.inString_of_opens`). From there on a rule of its mode is applied at every step, which
reads on within the string and takes something, or reads the closing quote and leaves the mode;
since the line is finite, the quote is reached (`exists_closing_of_inString`). So a string that is
opened at some stage of a line is on top of the stack up to a later stage of this line, at which its
closing quote is read (`Outline.exists_closedAt_of_opens`), and no mode for strings is left on the
stack after a line (`strings_end_on_their_lines`).
-/

namespace ModeLexer.Asm

open Text

/-- Whether the next step of a scan opens a string of a mode. -/
def opens (t : RuleTable) (m : StringMode) (p : Progress) : Bool :=
  !p.rest.isEmpty && (p.firstMatch? t).any fun (r, _) ↦ r.action = .push m.id

theorem opens_iff {t : RuleTable} {m : StringMode} {p : Progress} :
    opens t m p ↔ p.rest ≠ [] ∧
      ∃ r found, p.firstMatch? t = some (r, found) ∧ r.action = .push m.id := by
  unfold opens
  cases p.firstMatch? t with
  | none => simp
  | some found =>
    obtain ⟨r, m⟩ := found
    simp

/-- Whether a step reads the closing quote of a string of a mode, and leaves the mode. -/
structure ReadsQuote (m : StringMode) (p p' : Progress) : Prop where
  rest : p.rest = m.style.quote :: p'.rest
  cursor : p'.cursor = p.cursor + m.style.quote.utf8Size
  stack : p'.stack = p.stack.apply m.leave

/-- Whether a string that the step after stage `n` opens is closed by the step after stage `k`: up
to there its mode is on top of the stack, and there its closing quote is read. -/
structure ClosedAt (t : RuleTable) (number : Nat) (stack : ModeStack) (line : List Char)
    (m : StringMode) (n k : Nat) : Prop where
  lt : n < k
  cursor_lt : (t.stage number stack line n).cursor < (t.stage number stack line k).cursor
  inside : ∀ i, n < i → i ≤ k →
    (t.stage number stack line i).stack = (t.stage number stack line n).stack.push m.id
  readsQuote : ReadsQuote m (t.stage number stack line k) (t.stage number stack line (k + 1))

/-- A stack with a mode for strings on top is not settled. -/
theorem not_settled_push {m : StringMode} (hm : m ∈ stringModes) (s : ModeStack) :
    ¬Settled (s.push m.id) := by
  have hne : ∀ m ∈ stringModes, m.id ∉ [segDirMsvcRest, comment, rest] := by decide
  have hne := hne m hm
  simp only [List.mem_cons, List.not_mem_nil, or_false, not_or] at hne
  rintro ⟨-, habove | ⟨n, operands, hoperands, habove⟩⟩
  · exact hne.1 (List.cons.inj habove).1
  · cases n with
    | succ n => exact hne.2.1 (List.cons.inj habove).1
    | zero =>
      simp only [List.mem_cons, List.not_mem_nil, or_false] at hoperands
      rcases hoperands with rfl | rfl
      · simp [ModeStack.push] at habove
      · exact hne.2.2 (List.cons.inj habove).1

namespace Outline

variable {t : RuleTable} {number : Nat} {stack : ModeStack} {line : List Char} {p : Progress}

/-! ### Reading on -/

/-- A rule that is applied within a string and stays there takes something. -/
theorem ne_nil_of_stay {r : Rule} {found : PatternMatch} {word : List Char}
    (hmatch : p.firstMatch? t = some (r, found)) (hstay : r.action = .stay)
    (hspan : found.span = ⟨p.cursor, p.cursor + byteLength word⟩) : word ≠ [] := by
  rintro rfl
  have husable := (Progress.matchRest_of_firstMatch? hmatch).2.2
  simp [Progress.isUsable, hstay, hspan, Span.isEmpty, ModeStack.changedBy] at husable

/-- One step within a string that is closed: its closing quote is read, or something within it. -/
theorem next_of_inString (ht : Outline t) (number : Nat) (line : List Char)
    (hline : '\n' ∉ p.rest) {m : StringMode} (hm : m ∈ stringModes)
    (hactive : p.stack.active = m.id) (hcloses : m.style.Closes p.rest) :
    ReadsQuote m p (p.next t number line) ∨
      (p.next t number line).stack = p.stack ∧ p.cursor ≤ (p.next t number line).cursor ∧
        m.style.Closes (p.next t number line).rest ∧
        ∃ word ≠ [], p.rest = word ++ (p.next t number line).rest := by
  obtain ⟨⟨r, found⟩, hmatch⟩ :=
    Option.ne_none_iff_exists'.1 (ht.firstMatch?_ne_none hline hm hactive hcloses)
  have hr : r ∈ t.rulesOf m.id := hactive ▸ (Progress.matchRest_of_firstMatch? hmatch).1
  have hleave : ∀ m ∈ stringModes, m.leave ≠ .rematch := by decide
  have hrule := (ht.readBy m hm).1 r hr
  have hrest : p.rest ≠ [] := fun hnil ↦ QuoteStyle.not_closes_nil (hnil ▸ hcloses)
  have hne : r.action ≠ .rematch := by
    rcases hrule with hact | ⟨hact, -⟩
    · exact fun hrematch ↦ hleave m hm (hact.symm.trans hrematch)
    · simp [hact]
  rw [Progress.next_of_firstMatch? hrest hmatch hne]
  rcases hrule with hact | ⟨hact, hanchored, hstays⟩
  · -- the mode is left at its closing quote
    left
    have hpattern : r.pattern = .ofChar m.style.quote := ht.leftAtQuote m hm r hr hact
    obtain ⟨word, rest', hrest, hword, hspan, hrestAt⟩ :=
      Progress.exists_word_of_firstMatch? hmatch (by rw [hpattern]; rfl)
    rw [hpattern, Pattern.takes_ofChar] at hword
    subst hword
    refine ⟨?_, ?_, congrArg p.stack.apply hact⟩
    · show p.rest = m.style.quote :: p.restAt found.span.stop
      rw [hrestAt, hrest]
      rfl
    · show found.span.stop = _
      rw [hspan]
      simp
  · right
    obtain ⟨word, rest', hrest, hword, hspan, hrestAt⟩ :=
      Progress.exists_word_of_firstMatch? hmatch hanchored
    refine ⟨congrArg p.stack.apply hact, ?_, ?_, word, ne_nil_of_stay hmatch hact hspan, ?_⟩
    · show p.cursor ≤ found.span.stop
      rw [hspan]
      exact Nat.le_add_right _ _
    · show m.style.Closes (p.restAt found.span.stop)
      rw [hrest, QuoteStyle.closes_append hstays hword] at hcloses
      rwa [hrestAt]
    · show p.rest = word ++ p.restAt found.span.stop
      rw [hrestAt, hrest]

/-- Within a string that is closed its closing quote is reached, with its mode on top of the stack
all the time. -/
theorem exists_closing_of_inString (ht : Outline t) (number : Nat) (line : List Char)
    (hline : '\n' ∉ p.rest) {m : StringMode} (hm : m ∈ stringModes)
    (hactive : p.stack.active = m.id) (hcloses : m.style.Closes p.rest) :
    ∃ k, (∀ i ≤ k, ((Progress.next t number line)^[i] p).stack = p.stack) ∧
      p.cursor ≤ ((Progress.next t number line)^[k] p).cursor ∧
      ReadsQuote m ((Progress.next t number line)^[k] p)
        ((Progress.next t number line)^[k + 1] p) := by
  -- every step before the closing quote leaves less of the line
  induction hlen : p.rest.length using Nat.strongRecOn generalizing p with
  | ind len ih =>
    rcases ht.next_of_inString number line hline hm hactive hcloses with hquote |
      ⟨hstack, hcursor, hcloses', word, hne, hrest⟩
    · refine ⟨0, fun i hi ↦ ?_, Nat.le_refl _, hquote⟩
      obtain rfl := Nat.le_zero.1 hi
      rfl
    · have hless : (p.next t number line).rest.length < len := by
        have hpos := List.length_pos_iff.2 hne
        rw [← hlen, hrest, List.length_append]
        omega
      have hline' : '\n' ∉ (p.next t number line).rest := fun hmem ↦
        hline (hrest ▸ List.mem_append_right word hmem)
      obtain ⟨k, hinside, hle, hquote⟩ := ih _ hless hline' (hstack ▸ hactive) hcloses' rfl
      refine ⟨k + 1, fun i hi ↦ ?_, Nat.le_trans hcursor hle, hquote⟩
      cases i with
      | zero => rfl
      | succ i =>
        rw [Function.iterate_succ_apply, hinside i (Nat.le_of_succ_le_succ hi), hstack]

/-! ### Opening a string -/

/-- A rule that opens a string takes one character. -/
theorem exists_ofChar_of_opens (ht : Outline t) (hactive : p.stack.active ∈ [root, rest]) {r : Rule}
    {found : PatternMatch} (hmatch : p.firstMatch? t = some (r, found)) {m : StringMode}
    (hm : m ∈ stringModes) (hpush : r.action = .push m.id) :
    ∃ opener, r.pattern = .ofChar opener := by
  obtain ⟨before, after, hrules, -⟩ := Progress.exists_append_of_firstMatch? hmatch
  obtain ⟨opener, -, hpattern, -⟩ := ht.opensClosed _ hactive before.length (by simp [hrules]) r
    (by simp [hrules]) m hm hpush
  exact ⟨opener, hpattern⟩

/-- A step that opens a string leads into it, and it is closed in what is left of the line. -/
theorem inString_of_opens (ht : Outline t) (number : Nat) (line : List Char)
    (hline : '\n' ∉ p.rest) (hp : Orderly p) {m : StringMode} (hm : m ∈ stringModes)
    (hopens : opens t m p) :
    (p.next t number line).stack = p.stack.push m.id ∧
      p.cursor < (p.next t number line).cursor ∧
      m.style.Closes (p.next t number line).rest := by
  obtain ⟨hrest, r, found, hmatch, hpush⟩ := opens_iff.1 hopens
  have hmem := Progress.action_mem_of_firstMatch? hmatch
  have hnext : p.next t number line = p.applyRule t number r found :=
    Progress.next_of_firstMatch? hrest hmatch (by simp [hpush])
  have hactive : p.stack.active ∈ [root, rest] := by
    rcases hp with hs | ⟨hbottom, m', hm', operands, -, habove, -, -⟩
    · rcases ht.settled_or_opens hs hmem with hsettled | ⟨hactive, -⟩
      · rw [hpush] at hsettled
        exact absurd hsettled (not_settled_push hm p.stack)
      · exact hactive
    · -- no string is opened within another
      have hactive : p.stack.active = m'.id := by
        rw [ModeStack.active, habove]
        rfl
      have hne : ∀ m ∈ stringModes, ∀ m' ∈ stringModes, m'.leave ≠ .push m.id := by decide
      have hr : r ∈ t.rulesOf m'.id := hactive ▸ (Progress.matchRest_of_firstMatch? hmatch).1
      rcases (ht.readBy m' hm').1 r hr with hact | ⟨hact, -⟩
      · exact absurd (hact.symm.trans hpush) (hne m hm m' hm')
      · simp [hact] at hpush
  have hcloses := ht.closes_of_opens hline hactive hmatch hm hpush
  rw [hnext]
  refine ⟨congrArg p.stack.apply hpush, ?_, hcloses⟩
  obtain ⟨opener, hpattern⟩ := ht.exists_ofChar_of_opens hactive hmatch hm hpush
  obtain ⟨word, rest', -, hword, hspan, -⟩ := Progress.exists_word_of_firstMatch? hmatch
    (by rw [hpattern]; rfl)
  rw [hpattern, Pattern.takes_ofChar] at hword
  have hpos := opener.utf8Size_pos
  show p.cursor < found.span.stop
  rw [hspan, hword, byteLength_cons]
  show p.cursor < p.cursor + (opener.utf8Size + 0)
  omega

/-- What a string opens is closed later on the same line. -/
theorem exists_closedAt_of_opens (ht : Outline t) (hs : Settled stack) (hline : '\n' ∉ line)
    {m : StringMode} (hm : m ∈ stringModes) {n : Nat}
    (hopens : opens t m (t.stage number stack line n)) :
    ∃ k, ClosedAt t number stack line m n k := by
  have hrest : ∀ i, '\n' ∉ (t.stage number stack line i).rest := fun i hmem ↦ by
    have hp : (t.stage number stack line i).InLine line := RuleTable.inLine_stage i
    obtain ⟨before, happ, -⟩ := hp
    exact hline (happ ▸ List.mem_append_right before hmem)
  obtain ⟨hstack, hcursor, hcloses⟩ :=
    ht.inString_of_opens number line (hrest n) (ht.orderly_stage hs hline n) hm hopens
  rw [← RuleTable.stage_succ] at hstack hcursor hcloses
  have hactive : (t.stage number stack line (n + 1)).stack.active = m.id := by
    rw [hstack]
    rfl
  obtain ⟨k, hinside, hle, hquote⟩ :=
    ht.exists_closing_of_inString number line (hrest (n + 1)) hm hactive hcloses
  simp only [← RuleTable.stage_add] at hinside hle hquote
  refine ⟨n + 1 + k, by omega, Nat.lt_of_lt_of_le hcursor hle, fun i hlt hi ↦ ?_, hquote⟩
  obtain ⟨j, rfl⟩ := Nat.exists_eq_add_of_le hlt
  rw [hinside j (by omega), hstack]

/-- The names of the modes on a stack on which no string is open. -/
theorem describe_of_settled (ht : Outline t) {s : ScanState} (hs : Settled s.stack) :
    s.describe t ∈ [["root"], ["root", "rest"], ["root", "seg_dir_msvc_rest"]] ∨
      ∃ n, s.describe t ∈ ["root" :: List.replicate (n + 1) "comment",
        "root" :: "rest" :: List.replicate (n + 1) "comment"] := by
  obtain ⟨stack, cursor⟩ := s
  have hroot : t.nameOf root = "root" := ht.nameOf_eq (root, "root") (by decide)
  have hrest : t.nameOf rest = "rest" := ht.nameOf_eq (rest, "rest") (by decide)
  have hsegment : t.nameOf segDirMsvcRest = "seg_dir_msvc_rest" :=
    ht.nameOf_eq (segDirMsvcRest, "seg_dir_msvc_rest") (by decide)
  obtain rfl | ⟨n, operands, hoperands, rfl⟩ := Settled.eq_or_exists (s := stack) hs
  · simp [ScanState.describe, ModeStack.toList, hroot, hsegment]
  · simp only [List.mem_cons, List.not_mem_nil, or_false] at hoperands
    cases n with
    | zero =>
      rcases hoperands with rfl | rfl <;> simp [ScanState.describe, ModeStack.toList, hroot, hrest]
    | succ n =>
      refine .inr ⟨n, ?_⟩
      rcases hoperands with rfl | rfl <;>
        simp [ScanState.describe, ModeStack.toList, hroot, hrest, ht.nameOf_comment,
          List.reverse_replicate]

end Outline

/-- **Closed strings.** In a document in the built-in language whose lines hold no line breaks, the
stack after a line holds the base mode, with operands or what follows a string on it, or with
comments on it or on its operands, and no mode for strings. Whenever one of these is pushed in a
line, its closing quote is read later in this line. -/
theorem strings_end_on_their_lines :
    ∃ t, RuleTable.build definition = .ok t ∧
      stringModes.map (fun m ↦ t.nameOf m.id) =
        ["string", "sstring", "msvcstring", "seg_dir_msvcstring"] ∧
      ∀ lines : List String, (∀ l ∈ lines, '\n' ∉ l.toList) →
        ∀ (i : Nat) (line : String), lines[i]? = some line →
          (∃ s, (t.tokenizeLines lines).endState? i = some s ∧
            (s.describe t ∈ [["root"], ["root", "rest"], ["root", "seg_dir_msvc_rest"]] ∨
              ∃ n, s.describe t ∈ ["root" :: List.replicate (n + 1) "comment",
                "root" :: "rest" :: List.replicate (n + 1) "comment"])) ∧
          ∀ stack, stack = ((Session.begin t).after t (lines.take i)).state.stack →
            ∀ m ∈ stringModes, ∀ n, opens t m (t.stage i stack line.toList n) →
              ∃ k, ClosedAt t i stack line.toList m n k := by
  obtain ⟨t, hbuild, ht⟩ := exists_outline
  refine ⟨t, hbuild, ?_, fun lines hlines i line hline ↦ ?_⟩
  · have hname : ∀ e ∈ modeNames, t.nameOf e.1 = e.2 := ht.nameOf_eq
    simp only [modeNames, List.forall_mem_cons] at hname
    simp [stringModes, hname]
  have hsettled := ht.settled_after_begin hlines i
  have hline' := hlines line (List.mem_of_getElem? hline)
  refine ⟨⟨_, (t.line_tokenizeLines hline).2, ht.describe_of_settled ?_⟩, ?_⟩
  · exact ht.settled_scanLine hsettled hline' i
  · rintro stack rfl m hm n hopens
    exact ht.exists_closedAt_of_opens hsettled hline' hm hopens

/-- In `x "a"` the third step opens a string, which is closed and leaves the operands. -/
theorem quoted_operand_closed :
    ∃ t, RuleTable.build definition = .ok t ∧
      opens t ⟨string, ⟨'"', false⟩, .pop⟩ (t.stage 0 ⟨root, []⟩ ['x', ' ', '"', 'a', '"'] 2) ∧
      (∃ k, ClosedAt t 0 ⟨root, []⟩ ['x', ' ', '"', 'a', '"'] ⟨string, ⟨'"', false⟩, .pop⟩ 2 k) ∧
      ∃ s, (t.tokenizeLines ["x \"a\""]).endState? 0 = some s ∧
        s.describe t = ["root", "rest"] := by
  obtain ⟨t, hbuild, -, h⟩ := strings_end_on_their_lines
  obtain ⟨t', hbuild', hbase, hopens, hend, hnames⟩ : ∃ t, RuleTable.build definition = .ok t ∧
      t.base = root ∧
      opens t ⟨string, ⟨'"', false⟩, .pop⟩ (t.stage 0 ⟨root, []⟩ ['x', ' ', '"', 'a', '"'] 2) ∧
      (t.stage 0 ⟨root, []⟩ ['x', ' ', '"', 'a', '"'] 5).rest = [] ∧
      (t.stage 0 ⟨root, []⟩ ['x', ' ', '"', 'a', '"'] 5).result.state.describe t =
        ["root", "rest"] := ⟨table, build_definition, by decide +kernel⟩
  obtain rfl : t = t' := Except.ok.inj (hbuild.symm.trans hbuild')
  have hline : ["x \"a\""][0]? = some "x \"a\"" := rfl
  have hstack : (⟨root, []⟩ : ModeStack) =
      ((Session.begin t).after t (["x \"a\""].take 0)).state.stack := by
    rw [← hbase]
    rfl
  obtain ⟨-, hclosed⟩ := h ["x \"a\""] (by decide) 0 _ hline
  refine ⟨t, hbuild, hopens, hclosed _ hstack _ (by decide) 2 hopens, _,
    (t.line_tokenizeLines hline).2, ?_⟩
  rw [RuleTable.scanLine, ← hstack, ← hnames]
  exact congrArg (fun r : LineScan ↦ r.state.describe t) (RuleTable.scanChars_eq_result hend)

end ModeLexer.Asm
