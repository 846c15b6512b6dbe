import ModeLexer.Proofs.Asm.Comments
import ModeLexer.Proofs.Asm.Traits

/-!
# Where names begin and end

The patterns for registers and size keywords are to take whole words: they have a test for a word
boundary at both ends. The one at the end does what it says. The one at the start does not, since a
pattern sees nothing of the line before the cursor, where the test always holds in front of a word
(`register_within_word`).

So it depends on what has been passed before whether the cursor stands within a word. Matches that
lead to operands do not end there, but for numbers and what no rule accounts for (`SplitAtToken`).
Therefore a name that does begin within a word begins right behind a token of such a class
(`names_end_words`).
-/

namespace ModeLexer.Asm

open Regex Text Unicode

variable {d : Definition} {library : PatternLibrary} {t : RuleTable} {number : Nat}
  {line : List Char} {p p' : Progress} {k : Token}

/-! ### Where operands begin -/

/-- Whether a scan stands among operands within a word at most if the token before is of a class
that can end there. -/
def SplitAtToken (line : List Char) (p : Progress) : Prop :=
  p.stack.active = rest → besideWord false (charBefore? line p.cursor) →
    (∃ c ∈ p.rest.head?, isAsciiWord c) →
      ∃ k ∈ p.tokens, k.span.stop = p.cursor ∧ k.cls ∈ splitting

theorem splitAtToken_of_cursor_eq_zero (h : p.cursor = 0) : SplitAtToken line p := by
  intro _ hbefore
  rw [h, charBefore?_zero] at hbefore
  simp [besideWord] at hbefore

/-- The character before the cursor is the last one of the word that has been passed. -/
theorem charBefore?_of_word {before word rest' : List Char} (hword : word ≠ []) :
    charBefore? (before ++ (word ++ rest')) (byteLength before + byteLength word) =
      some (word.getLast hword) := by
  rw [← byteLength_append, ← List.append_assoc, charBefore?_append, List.getLast?_append,
    List.getLast?_eq_some_getLast hword, Option.some_or]

namespace Traits

/-- Every step leads to operands in such a way. -/
theorem splitAtToken_of_step (ht : Traits t) (hbuilt : RuleTable.BuiltFrom d library t)
    (h : p.Undisturbed t line) (hstep : Progress.Step t number line p p') :
    SplitAtToken line p' := by
  cases hstep with
  | @pass c rest' hrest hnone =>
    refine fun _ _ _ ↦ ⟨_, List.mem_cons_self .., rfl, ?_⟩
    show t.defaultToken ∈ splitting
    rw [ht.defaultToken_eq]
    decide
  | restart => exact splitAtToken_of_cursor_eq_zero rfl
  | @apply r m hrest hmatch hnot =>
    have hne : r.action ≠ .rematch := fun hre ↦
      hnot ⟨hre, h.honoursRematch hbuilt ht.steady hrest hmatch hre⟩
    have hempty := Progress.isEmpty_eq_false_of_steady ht.steady hmatch hne
    obtain ⟨hmem, hat, -⟩ := Progress.matchRest_of_firstMatch? hmatch
    have hlt := RuleTable.lt_of_mem_actionsOf (Progress.action_mem_of_firstMatch? hmatch)
    rintro hactive hbefore ⟨c, hc, hword⟩
    have hcan : r.action.canActivate p.stack.active rest :=
      hactive ▸ p.stack.canActivate_active r.action
    rcases ht.endsOperand _ hlt r hmem hcan with hclear | ⟨cls, hcls, hemission⟩
    · -- the last character of the match and the next one are not of one word
      exfalso
      obtain ⟨word, rest', hrest', hspan, hends⟩ := hclear.exists_word hat
      obtain ⟨before, rfl, hlen⟩ := h.inLine
      have hwordne : word ≠ [] := by
        rintro rfl
        simp [hspan, Span.isEmpty] at hempty
      have hrestAt : p.restAt m.span.stop = rest' := by
        rw [Progress.restAt, hspan, Nat.add_sub_cancel_left, hrest', splitAt?_byteLength]
      have hlast : besideWord false (charBefore? (before ++ p.rest) m.span.stop) = true := hbefore
      rw [hspan, ← hlen, hrest', charBefore?_of_word hwordne] at hlast
      have hnot := hends _ (List.getLast?_eq_some_getLast hwordne) hlast c (hrestAt ▸ hc)
      rw [hword] at hnot
      simp at hnot
    · refine ⟨⟨cls, number, m.span⟩, ?_, rfl, hcls⟩
      simp [Progress.applyRule, Layout.ofMatch, hempty, hemission]

theorem splitAtToken_stage (ht : Traits t) (hbuilt : RuleTable.BuiltFrom d library t)
    {stack : ModeStack} (hstack : t.Regular stack) (n : Nat) :
    SplitAtToken line (t.stage number stack line n) := by
  cases n with
  | zero => exact splitAtToken_of_cursor_eq_zero rfl
  | succ n =>
    have h := ht.steady.undisturbed_stage hbuilt hstack number line n
    rw [RuleTable.stage_succ]
    by_cases hrest : (t.stage number stack line n).rest = []
    · rw [Progress.next_of_rest_eq_nil hrest]
      rintro - - ⟨c, hc, -⟩
      simp [hrest] at hc
    · exact ht.splitAtToken_of_step hbuilt h (Progress.step_next hrest)

/-! ### Names -/

/-- A name begins at the cursor, with its sign or with a word character, and a word ends where it
does. -/
theorem exists_word_of_addsToken (ht : Traits t) (hp : p.InLine line)
    (hactive : p.stack.active = rest) (h : p.AddsToken t number line k)
    {e : String × (Char → Bool)} (he : e ∈ names) (hcls : k.cls = e.1) :
    k.span.start = p.cursor ∧ besideWord false (charAt? line k.span.stop) = false ∧
      ∃ c ∈ p.rest.head?, e.2 c || isAsciiWord c := by
  have hdefault : k.cls ≠ t.defaultToken := by
    have hne : ∀ e ∈ names, e.1 ≠ "invalid" := by
      simp [names, register, sizeKeyword]
    rw [hcls, ht.defaultToken_eq]
    exact hne e he
  obtain ⟨r, m, hmatch, -, hclass, hlaid⟩ := h.exists_rule hdefault
  obtain ⟨hmem, hat, -⟩ := Progress.matchRest_of_firstMatch? hmatch
  obtain ⟨hwords, hemission⟩ := ht.takesNames r (hactive ▸ hmem) e he (hcls ▸ hclass)
  obtain ⟨word, rest', hrest, hne, hspan, hfirst, hafter⟩ := hwords.exists_word hat
  have hk : k.span = m.span := by
    rw [hemission, Layout.ofMatch] at hlaid
    split at hlaid
    · simp at hlaid
    · exact congrArg Prod.snd (List.mem_singleton.1 hlaid)
  obtain ⟨c, cs, rfl⟩ := List.exists_cons_of_ne_nil hne
  rw [hk, hspan]
  refine ⟨rfl, ?_, c, by simp [hrest], hfirst c rfl⟩
  obtain ⟨before, rfl, hlen⟩ := hp
  rw [hrest, ← hlen, ← List.append_assoc, ← byteLength_append, charAt?_append]
  exact hafter

/-- A register is added among operands. -/
theorem active_of_addsToken (ht : Traits t) (h : p.AddsToken t number line k)
    (hcls : k.cls = register) : p.stack.active = rest := by
  obtain ⟨r, m, hmatch, -, hclass, -⟩ :=
    h.exists_rule (by rw [hcls, ht.defaultToken_eq]; decide)
  exact ht.eq_rest _ (RuleTable.lt_of_mem_actionsOf (Progress.action_mem_of_firstMatch? hmatch)) r
    (Progress.matchRest_of_firstMatch? hmatch).1 (hcls ▸ hclass)

end Traits

/-! ### Lines -/

/-- A token of a line was added at some stage. -/
theorem exists_addsToken_of_mem_scanLine {s : ScanState} {line : String}
    (hk : k ∈ (t.scanLine s number line).tokens) :
    ∃ n, (t.stage number s.stack line.toList n).AddsToken t number line.toList k := by
  obtain ⟨n, hend, -⟩ := t.exists_stage_rest_eq_nil number s.stack line.toList
  rw [RuleTable.scanLine_eq_result hend, Progress.result, List.mem_reverse] at hk
  obtain ⟨i, -, hadds⟩ := RuleTable.exists_addsToken hk
  exact ⟨i, hadds⟩

/-- What there is behind the start of a line stays. -/
theorem Outline.mem_scanLine (ht : Outline t) {s : ScanState} {line : String} {n : Nat}
    (hcursor : 0 < (t.stage number s.stack line.toList n).cursor)
    (hk : k ∈ (t.stage number s.stack line.toList n).tokens) :
    k ∈ (t.scanLine s number line).tokens := by
  obtain ⟨j, hend, -⟩ := Progress.exists_iterate_rest_eq_nil t number line.toList
    (t.stage number s.stack line.toList n)
  obtain ⟨later, hlater, -⟩ :=
    ht.exists_tokens_iterate number (RuleTable.inLine_stage n) hcursor j
  rw [← RuleTable.stage_add] at hend hlater
  rw [RuleTable.scanLine_eq_result hend, Progress.result, hlater]
  simp [hk]

/-- A name without a sign ends a word, and if it does not begin one, a token ends there that can end
within a word. -/
theorem Traits.exists_splitting (ht : Traits t) (houtline : Outline t)
    (hbuilt : RuleTable.BuiltFrom d library t) {s : ScanState} (hs : t.Regular s.stack)
    {line : String} {n : Nat}
    (hactive : (t.stage number s.stack line.toList n).stack.active = rest)
    (h : (t.stage number s.stack line.toList n).AddsToken t number line.toList k)
    {e : String × (Char → Bool)} (he : e ∈ names) (hcls : k.cls = e.1)
    (hsign : ∀ c ∈ charAt? line.toList k.span.start, e.2 c = false) :
    besideWord false (charAt? line.toList k.span.stop) = false ∧
      (besideWord false (charBefore? line.toList k.span.start) →
        ∃ k' ∈ (t.scanLine s number line).tokens, k'.span.stop = k.span.start ∧
          k'.cls ∈ splitting) := by
  have hp : (t.stage number s.stack line.toList n).InLine line.toList := RuleTable.inLine_stage n
  obtain ⟨hstart, hafter, c, hc, hfirst⟩ := ht.exists_word_of_addsToken hp hactive h he hcls
  rw [hstart, hp.charAt?_eq] at hsign
  rw [hstart]
  refine ⟨hafter, fun hbefore ↦ ?_⟩
  have hword : isAsciiWord c := by simpa [hsign c hc] using hfirst
  obtain ⟨k', hk', hstop, hcls'⟩ :=
    ht.splitAtToken_stage hbuilt hs n hactive hbefore ⟨c, hc, hword⟩
  refine ⟨k', houtline.mem_scanLine (Nat.pos_of_ne_zero fun hzero ↦ ?_) hk', hstop, hcls'⟩
  rw [hzero, charBefore?_zero] at hbefore
  simp [besideWord] at hbefore

/-! ### Documents -/

/-- Whether a token is added in a mode while a line is scanned. -/
def AddedIn (t : RuleTable) (id : ModeId) (number : Nat) (stack : ModeStack) (line : List Char)
    (k : Token) : Prop :=
  ∃ n, (t.stage number stack line n).stack.active = id ∧
    (t.stage number stack line n).AddsToken t number line k

/-- **Names end words.** In a document in the built-in language let a token be a register without a
percent sign, or a size keyword that was added among operands. Then no word character follows it.
If there is a word character right before it, a token ends there which is a number or what no rule
accounts for. -/
theorem names_end_words (lines : List String) {i : Nat} {line : String}
    (hline : lines[i]? = some line) :
    ∃ t, RuleTable.build definition = .ok t ∧ t.nameOf rest = "rest" ∧
      ∀ k ∈ (t.tokenizeLines lines).line i,
        k.cls = register ∧ charAt? line.toList k.span.start ≠ some '%' ∨
          k.cls = sizeKeyword ∧
            AddedIn t rest i ((Session.begin t).after t (lines.take i)).state.stack
              line.toList k →
        besideWord false (charAt? line.toList k.span.stop) = false ∧
          (besideWord false (charBefore? line.toList k.span.start) →
            ∃ k' ∈ (t.tokenizeLines lines).line i, k'.span.stop = k.span.start ∧
              k'.cls ∈ ["number", "number.float", "number.hex", "invalid"]) := by
  obtain ⟨t, hbuild, ht⟩ := exists_traits
  obtain ⟨t', hbuild', houtline⟩ := exists_outline
  obtain rfl : t = t' := Except.ok.inj (hbuild.symm.trans hbuild')
  obtain ⟨library, hbuilt⟩ := RuleTable.build_eq_ok.1 hbuild
  refine ⟨t, hbuild, houtline.nameOf_eq (rest, "rest") (by decide), fun k hk hname ↦ ?_⟩
  have hregular := hbuilt.regular_after (lines.take i)
  rw [(t.line_tokenizeLines hline).1] at hk ⊢
  rcases hname with ⟨hcls, hstart⟩ | ⟨hcls, n, hactive, hadds⟩
  · obtain ⟨n, hadds⟩ := exists_addsToken_of_mem_scanLine hk
    have hsign : ∀ c ∈ charAt? line.toList k.span.start, decide (c = '%') = false := by
      rintro c hc
      rw [decide_eq_false_iff_not]
      rintro rfl
      exact hstart hc
    exact ht.exists_splitting houtline hbuilt hregular (ht.active_of_addsToken hadds hcls) hadds
      (.head _) hcls hsign
  · exact ht.exists_splitting houtline hbuilt hregular hactive hadds (.tail _ (.head _)) hcls
      fun _ _ ↦ rfl

/-- `eax` behind a digit is a register. -/
theorem exists_line_of_digit :
    ∃ t, RuleTable.build definition = .ok t ∧
      (t.tokenizeLines ["x 1eax"]).line 0 = [⟨"keyword", 0, ⟨0, 1⟩⟩, ⟨"white", 0, ⟨1, 2⟩⟩,
        ⟨"number", 0, ⟨2, 3⟩⟩, ⟨"variable.predefined", 0, ⟨3, 6⟩⟩] := by
  obtain ⟨t, hbuild, hend, htokens⟩ : ∃ t, RuleTable.build definition = .ok t ∧
      (t.stage 0 t.initialState.stack "x 1eax".toList 4).rest = [] ∧
      (t.stage 0 t.initialState.stack "x 1eax".toList 4).result.tokens =
        [⟨"keyword", 0, ⟨0, 1⟩⟩, ⟨"white", 0, ⟨1, 2⟩⟩, ⟨"number", 0, ⟨2, 3⟩⟩,
          ⟨"variable.predefined", 0, ⟨3, 6⟩⟩] :=
    ⟨table, build_definition, by decide +kernel⟩
  refine ⟨t, hbuild, ?_⟩
  have hfirst : ["x 1eax"][0]? = some "x 1eax" := rfl
  rw [← htokens, ← RuleTable.scanChars_eq_result hend]
  exact (t.line_tokenizeLines hfirst).1

/-- The number ends where the register begins. -/
theorem register_behind_digit :
    ∃ t, RuleTable.build definition = .ok t ∧
      ⟨register, 0, ⟨3, 6⟩⟩ ∈ (t.tokenizeLines ["x 1eax"]).line 0 ∧
      besideWord false (charAt? "x 1eax".toList 6) = false ∧
      besideWord false (charBefore? "x 1eax".toList 3) = true ∧
      ∃ k ∈ (t.tokenizeLines ["x 1eax"]).line 0, k.span.stop = 3 ∧
        k.cls ∈ ["number", "number.float", "number.hex", "invalid"] := by
  have hfirst : ["x 1eax"][0]? = some "x 1eax" := rfl
  obtain ⟨t, hbuild, -, h⟩ := names_end_words ["x 1eax"] hfirst
  obtain ⟨t', hbuild', hline⟩ := exists_line_of_digit
  obtain rfl : t = t' := Except.ok.inj (hbuild.symm.trans hbuild')
  have hmem : ⟨register, 0, ⟨3, 6⟩⟩ ∈ (t.tokenizeLines ["x 1eax"]).line 0 := by
    rw [hline]
    simp
  have hbefore : besideWord false (charBefore? "x 1eax".toList 3) = true := by decide
  obtain ⟨hafter, hsplit⟩ := h _ hmem (.inl ⟨rfl, by decide⟩)
  exact ⟨t, hbuild, hmem, hafter, hbefore, hsplit hbefore⟩

/-- A register without a percent sign need not begin a word, although its pattern has a test for a
word boundary there. -/
theorem register_within_word :
    ∃ t, RuleTable.build definition = .ok t ∧
      ∃ k ∈ (t.tokenizeLines ["x 1eax"]).line 0,
        k.cls = register ∧ charAt? "x 1eax".toList k.span.start ≠ some '%' ∧
          besideWord false (charBefore? "x 1eax".toList k.span.start) = true := by
  obtain ⟨t, hbuild, hline⟩ := exists_line_of_digit
  refine ⟨t, hbuild, ⟨register, 0, ⟨3, 6⟩⟩, ?_, rfl, by decide, by decide⟩
  rw [hline]
  simp

end ModeLexer.Asm
