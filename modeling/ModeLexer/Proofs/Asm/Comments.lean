import ModeLexer.Proofs.Asm.Outline
import ModeLexer.Proofs.Scanner.Choice
import ModeLexer.Proofs.Scanner.Coverage

/-!
# Comments are counted

Comments nest, and the scanner keeps no count of them: a mark that opens one pushes its mode, and a
mark that closes one pops it. `readNested` is a reader that counts. The first of the rules for
comments that takes something does to the stack what the reader does to its count
(`counts_of_takes`, `Outline.counts_of_firstMatch?`), so the scan of a line comes to a stage at
which it stands where the reader stops, with as many comments on the stack as the reader counts
(`Outline.exists_iterate_withComments`). If the reader counts down to none, what follows is scanned
with the stack beneath, and since rematches are tried at the start of a line only, the tokens of the
comments stay as they are (`nested_comments_counted`).
-/

namespace ModeLexer.Asm

open Regex Text Unicode

/-! ### The reader -/

/-- Reads on within a number of comments: a mark that opens one adds one, a mark that closes one
takes one off, and other characters are passed one by one. This yields how many are open in the end,
and what is left where none is. -/
def readNested : Nat → List Char → Nat × List Char
  | 0, cs => (0, cs)
  | depth + 1, [] => (depth + 1, [])
  | depth + 1, '/' :: '*' :: cs => readNested (depth + 2) cs
  | depth + 1, '*' :: '/' :: cs => readNested depth cs
  | depth + 1, _ :: cs => readNested (depth + 1) cs

/-- A character that begins no mark is passed. -/
theorem readNested_pass {depth : Nat} {c : Char} {cs : List Char}
    (hopen : ∀ cs', c :: cs ≠ '/' :: '*' :: cs') (hclose : ∀ cs', c :: cs ≠ '*' :: '/' :: cs') :
    readNested (depth + 1) (c :: cs) = readNested (depth + 1) cs := by
  rw [readNested]
  · rintro cs' rfl rfl
    exact hopen cs' rfl
  · rintro cs' rfl rfl
    exact hclose cs' rfl

/-- A run of characters that belong to no mark is passed. -/
theorem readNested_append {depth : Nat} {word rest : List Char}
    (h : ∀ c ∈ word, c ≠ '/' ∧ c ≠ '*') :
    readNested (depth + 1) (word ++ rest) = readNested (depth + 1) rest := by
  induction word with
  | nil => rfl
  | cons c word ih =>
    obtain ⟨⟨hslash, hstar⟩, hword⟩ := List.forall_mem_cons.1 h
    rw [List.cons_append, readNested_pass (by simp [hslash]) (by simp [hstar]), ih hword]

/-- Reading on leaves no more than there was. -/
theorem length_readNested_le (depth : Nat) (cs : List Char) :
    (readNested depth cs).2.length ≤ cs.length := by
  fun_induction readNested depth cs <;> simp only [List.length_cons, List.length_nil] <;> omega

/-- A reader that counts down to none has read something. -/
theorem length_lt_of_readNested {depth : Nat} {cs left : List Char}
    (h : readNested (depth + 1) cs = (0, left)) : left.length < cs.length := by
  cases cs with
  | nil => simp [readNested] at h
  | cons c cs =>
    have hle : ∀ depth' cs', readNested depth' cs' = (0, left) → left.length ≤ cs'.length :=
      fun depth' cs' h' ↦ by simpa [h'] using length_readNested_le depth' cs'
    rw [readNested.eq_def] at h
    split at h <;> grind

/-- A reader that is left within comments has read everything. -/
theorem eq_nil_of_readNested {depth opened : Nat} {cs left : List Char}
    (h : readNested depth cs = (opened + 1, left)) : left = [] := by
  fun_induction readNested depth cs <;> grind

/-! ### What the rules for comments take -/

/-- The test for the start of the text holds wherever a rule is tried. -/
theorem takes_anchored {p : Program} {word rest : List Char} :
    (Program.seq (.look .textStart) p).Takes none word rest ↔ p.Takes none word rest := by
  constructor
  · rintro ⟨u, v, rfl, ⟨rfl, -⟩, hv⟩
    exact hv
  · exact fun h ↦ ⟨[], word, rfl, ⟨rfl, rfl⟩, h⟩

/-- What is taken as the text of a comment has no character of a mark in it. -/
theorem takes_unmarked {word rest : List Char} (h : unmarked.Takes none word rest) :
    ∀ c ∈ word, c ≠ '/' ∧ c ≠ '*' := by
  obtain ⟨u, v, rfl, ⟨c, hc, rfl⟩, hv⟩ := takes_anchored.1 h
  have hmem : ∀ d ∈ c :: v,
      (CharSet.compl (.union (.single '/') (.single '*'))).contains d = true :=
    List.forall_mem_cons.2 ⟨hc, contains_of_rounds_set hv⟩
  simpa [CharSet.contains_single] using hmem

/-- One such character is taken as the text of a comment. -/
theorem takes_unmarked_char {c : Char} (hslash : c ≠ '/') (hstar : c ≠ '*') (rest : List Char) :
    unmarked.Takes none [c] rest :=
  takes_anchored.2
    ⟨[c], [], rfl, ⟨c, by simp [CharSet.contains_single, hslash, hstar], rfl⟩, .done⟩

/-- A mark takes its two characters. -/
theorem takes_mark {c d : Char} {word rest : List Char} :
    (mark c d).Takes none word rest ↔ word = [c, d] := by
  refine takes_anchored.trans ⟨?_, ?_⟩
  · rintro ⟨u, v, rfl, ⟨c', hc, rfl⟩, d', hd, rfl⟩
    rw [CharSet.contains_single, decide_eq_true_eq] at hc hd
    rw [hc, hd]
    rfl
  · rintro rfl
    exact ⟨[c], [d], rfl, ⟨c, by simp [CharSet.contains_single], rfl⟩, d,
      by simp [CharSet.contains_single], rfl⟩

/-- A character of a mark is taken alone, where it is no part of one. -/
theorem takes_slashOrStar {word rest : List Char} :
    slashOrStar.Takes none word rest ↔ word = ['/'] ∨ word = ['*'] := by
  refine takes_anchored.trans ⟨?_, ?_⟩
  · rintro ⟨c, hc, rfl⟩
    simpa [CharSet.contains_single] using hc
  · rintro (rfl | rfl)
    · exact ⟨'/', by simp [CharSet.contains_single], rfl⟩
    · exact ⟨'*', by simp [CharSet.contains_single], rfl⟩

/-- All rules for comments are plain and take something. -/
theorem plain_of_mem_commentRules : ∀ e ∈ commentRules, e.1.plain ∧ e.1.consumes := by decide

/-! ### One step within comments -/

/-- A stack with some comments on it. -/
def withComments (s : ModeStack) (depth : Nat) : ModeStack :=
  { s with above := List.replicate depth comment ++ s.above }

/-- Whether an action does to the stack what the reader does to its count between `cs` and
`rest`. -/
def Counts (a : Action) (cs rest : List Char) : Prop :=
  ∀ s depth, ∃ depth', (withComments s (depth + 1)).apply a = withComments s depth' ∧
    readNested (depth + 1) cs = readNested depth' rest

/-- A rule that leaves the stack as it is must leave the count as it is. -/
theorem counts_stay {cs rest : List Char}
    (h : ∀ depth, readNested (depth + 1) cs = readNested (depth + 1) rest) :
    Counts .stay cs rest := fun _ depth ↦ ⟨depth + 1, rfl, h depth⟩

/-- The mark that opens a comment pushes one. -/
theorem counts_open (rest : List Char) : Counts (.push comment) ('/' :: '*' :: rest) rest :=
  fun _ depth ↦ ⟨depth + 2, rfl, by rw [readNested]⟩

/-- The mark that closes a comment pops one. -/
theorem counts_close (rest : List Char) : Counts .pop ('*' :: '/' :: rest) rest :=
  fun _ depth ↦ ⟨depth, rfl, by rw [readNested]⟩

/-- Of the rules for comments the first that takes something counts like the reader. -/
theorem counts_of_takes {before after : List (Program × Action)} {e : Program × Action}
    {cs word rest : List Char} (happ : commentRules = before ++ e :: after)
    (hcs : cs = word ++ rest) (hword : e.1.Takes none word rest)
    (hnot : ∀ e' ∈ before, ∀ word' rest', cs = word' ++ rest' → ¬e'.1.Takes none word' rest') :
    e.2 ≠ .rematch ∧ Counts e.2 cs rest := by
  match before, happ, hnot with
  | [], happ, _ =>
    -- a run of characters that belong to no mark
    simp only [commentRules, List.nil_append, List.cons.injEq] at happ
    obtain ⟨rfl, -⟩ := happ
    rw [hcs]
    exact ⟨by simp, counts_stay fun _ ↦ readNested_append (takes_unmarked hword)⟩
  | [_], happ, _ =>
    -- a mark that opens a comment
    simp only [commentRules, List.cons_append, List.nil_append, List.cons.injEq] at happ
    obtain ⟨-, rfl, -⟩ := happ
    rw [hcs, takes_mark.1 hword]
    exact ⟨by simp, counts_open rest⟩
  | [_, _], happ, _ =>
    -- a mark that closes a comment
    simp only [commentRules, List.cons_append, List.nil_append, List.cons.injEq] at happ
    obtain ⟨-, -, rfl, -⟩ := happ
    rw [hcs, takes_mark.1 hword]
    exact ⟨by simp, counts_close rest⟩
  | [_, _, _], happ, hnot =>
    -- a slash or a star, and the marks have been tried
    simp only [commentRules, List.cons_append, List.nil_append, List.cons.injEq] at happ
    obtain ⟨-, rfl, rfl, rfl, -⟩ := happ
    have hopen : ∀ cs', cs ≠ '/' :: '*' :: cs' := fun cs' hcs' ↦
      hnot (mark '/' '*', .push comment) (by simp) ['/', '*'] cs' hcs' (takes_mark.2 rfl)
    have hclose : ∀ cs', cs ≠ '*' :: '/' :: cs' := fun cs' hcs' ↦
      hnot (mark '*' '/', .pop) (by simp) ['*', '/'] cs' hcs' (takes_mark.2 rfl)
    obtain ⟨c, rfl⟩ : ∃ c, cs = c :: rest := by
      rcases takes_slashOrStar.1 hword with rfl | rfl
      · exact ⟨'/', hcs⟩
      · exact ⟨'*', hcs⟩
    exact ⟨by simp, counts_stay fun _ ↦ readNested_pass hopen hclose⟩
  | _ :: _ :: _ :: _ :: _, happ, _ => simp [commentRules] at happ

/-- What a scan has done that was within comments all the time: it has added tokens for comments,
which tile what it has passed. -/
structure ReadsOn (line : List Char) (p p' : Progress) : Prop where
  floor : p'.floor = p.floor
  zeroWidthSteps : p.zeroWidthSteps = 0 → p'.zeroWidthSteps = 0
  tokens : ∃ new : List Token, p'.tokens = new.reverse ++ p.tokens ∧
    (∀ k ∈ new, k.cls = "comment") ∧ Tiles line p.cursor (new.map (·.span)) p'.cursor

/-- A scan that has done nothing has read on. -/
theorem ReadsOn.refl (line : List Char) (p : Progress) : ReadsOn line p p :=
  ⟨rfl, id, [], rfl, by simp, rfl⟩

/-- Two scans that have read on, one after the other, have read on together. -/
theorem ReadsOn.trans {line : List Char} {p p' p'' : Progress} (h : ReadsOn line p p')
    (h' : ReadsOn line p' p'') : ReadsOn line p p'' := by
  obtain ⟨new, htokens, hnew, htiles⟩ := h.tokens
  obtain ⟨new', htokens', hnew', htiles'⟩ := h'.tokens
  refine ⟨h'.floor.trans h.floor, h'.zeroWidthSteps ∘ h.zeroWidthSteps, new ++ new', ?_, ?_, ?_⟩
  · rw [htokens', htokens, List.reverse_append, List.append_assoc]
  · exact List.forall_mem_append.2 ⟨hnew, hnew'⟩
  · rw [List.map_append]
    exact htiles.append htiles'

namespace Outline

variable {t : RuleTable} {number : Nat} {line : List Char} {p : Progress}

/-- Within a comment a rule is found for whatever comes. -/
theorem exists_firstMatch?_of_comment (ht : Outline t) (hactive : p.stack.active = comment)
    (hrest : p.rest ≠ []) : ∃ r m, p.firstMatch? t = some (r, m) := by
  obtain ⟨c, cs, hcons⟩ := List.exists_cons_of_ne_nil hrest
  obtain ⟨hrules, hform⟩ := ht.readsComments
  obtain ⟨e, he, htakes⟩ : ∃ e ∈ commentRules, e.1.Takes none [c] cs := by
    by_cases hslash : c = '/'
    · exact ⟨(slashOrStar, .stay), by decide, takes_slashOrStar.2 (.inl (by rw [hslash]))⟩
    by_cases hstar : c = '*'
    · exact ⟨(slashOrStar, .stay), by decide, takes_slashOrStar.2 (.inr (by rw [hstar]))⟩
    exact ⟨(unmarked, .stay), by decide, takes_unmarked_char hslash hstar cs⟩
  obtain ⟨hplain, hconsumes⟩ := plain_of_mem_commentRules e he
  obtain ⟨r, hr, rfl⟩ := List.mem_map.1 (hrules ▸ he)
  obtain ⟨hanchored, hstart, -⟩ := hform r hr
  exact Progress.exists_firstMatch?_of_takes (hactive ▸ hr) hanchored hstart hplain hconsumes hcons
    htakes

/-- The rule that is chosen within a comment takes something and counts like the reader. -/
theorem counts_of_firstMatch? (ht : Outline t) (hactive : p.stack.active = comment) {r : Rule}
    {m : PatternMatch} (hmatch : p.firstMatch? t = some (r, m)) :
    r.action ≠ .rematch ∧ r.emission = .whole "comment" ∧
      ∃ word ≠ [], ∃ rest', p.rest = word ++ rest' ∧
        m.span = ⟨p.cursor, p.cursor + byteLength word⟩ ∧ p.restAt m.span.stop = rest' ∧
        Counts r.action p.rest rest' := by
  obtain ⟨hrules, hform⟩ := ht.readsComments
  obtain ⟨before, after, happ, hunusable⟩ := Progress.exists_append_of_firstMatch? hmatch
  rw [hactive] at happ
  rw [happ] at hrules hform
  obtain ⟨hanchored, -, hemission⟩ := hform r (by simp)
  obtain ⟨word, rest', hrest, hword, hspan, hrestAt⟩ :=
    Progress.exists_word_of_firstMatch? hmatch hanchored
  -- the rules before it take nothing here
  have hnot : ∀ e ∈ before, ∀ word' rest'', p.rest = word' ++ rest'' →
      ¬e.pattern.regex.program.Takes none word' rest'' := by
    intro e he word' rest'' hrest'
    obtain ⟨hplain, hconsumes⟩ := plain_of_mem_commentRules
      (e.pattern.regex.program, e.action) (hrules ▸ List.mem_map_of_mem (by simp [he]))
    obtain ⟨hanchored', hstart', -⟩ := hform e (by simp [he])
    exact Progress.not_takes_of_unusable hanchored' hstart' hplain hconsumes (hunusable e he) hrest'
  have hconsumes := (plain_of_mem_commentRules (r.pattern.regex.program, r.action)
    (hrules ▸ List.mem_map_of_mem (by simp))).2
  rw [List.map_append, List.map_cons] at hrules
  obtain ⟨hne, hcounts⟩ := counts_of_takes hrules.symm hrest hword
    (List.forall_mem_map.2 hnot)
  exact ⟨hne, hemission, word, Program.ne_nil_of_takes hconsumes hword, rest', hrest, hspan,
    hrestAt, hcounts⟩

/-- One step within comments: what is left gets shorter, and the stack follows the reader. -/
theorem next_of_withComments (ht : Outline t) (number : Nat) (hp : p.InLine line) {s : ModeStack}
    {depth : Nat} (hstack : p.stack = withComments s (depth + 1)) (hrest : p.rest ≠ []) :
    ReadsOn line p (p.next t number line) ∧
      (p.next t number line).rest.length < p.rest.length ∧
      ∃ depth', (p.next t number line).stack = withComments s depth' ∧
        readNested (depth + 1) p.rest = readNested depth' (p.next t number line).rest := by
  have hactive : p.stack.active = comment := by
    rw [hstack]
    rfl
  obtain ⟨r, m, hmatch⟩ := ht.exists_firstMatch?_of_comment hactive hrest
  obtain ⟨hne, hemission, word, hword, rest', hcs, hspan, hrestAt, hcounts⟩ :=
    ht.counts_of_firstMatch? hactive hmatch
  obtain ⟨depth', happly, hread⟩ := hcounts s depth
  have hin : (p.next t number line).InLine line := hp.step (Progress.step_next hrest)
  have hnext : p.next t number line = p.applyRule t number r m :=
    Progress.next_of_firstMatch? hrest hmatch hne
  have hpos : 0 < byteLength word :=
    Nat.pos_of_ne_zero fun hzero ↦ hword (byteLength_eq_zero_iff.1 hzero)
  have hempty : m.span.isEmpty = false := by
    simp only [hspan, Span.isEmpty, decide_eq_false_iff_not]
    omega
  have hstop : (p.next t number line).cursor = p.cursor + byteLength word := by
    rw [hnext]
    exact congrArg Span.stop hspan
  refine ⟨⟨by rw [hnext]; rfl, fun _ ↦ by rw [hnext]; simp [Progress.applyRule, hempty],
    [⟨"comment", number, m.span⟩], ?_, by simp, ?_⟩, ?_, depth', ?_, ?_⟩
  · rw [hnext]
    simp [Progress.applyRule, Layout.ofMatch, hempty, hemission]
  · rw [hstop, List.map_singleton, hspan]
    exact tiles_singleton (by omega) (hstop ▸ hin.isBoundary)
  · rw [hnext]
    show (p.restAt m.span.stop).length < _
    rw [hrestAt, hcs, List.length_append]
    have := List.length_pos_iff.2 hword
    omega
  · rw [hnext, ← happly, ← hstack]
    rfl
  · rw [hnext, hread, ← hrestAt]
    rfl

/-! ### The comments of a line -/

/-- A scan within comments comes to stand where the reader stops, with as many comments on the stack
as the reader counts. -/
theorem exists_iterate_withComments (ht : Outline t) (number : Nat) (hp : p.InLine line)
    {s : ModeStack} {depth depth' : Nat} {left : List Char}
    (hstack : p.stack = withComments s depth) (hread : readNested depth p.rest = (depth', left)) :
    ∃ n, ReadsOn line p ((Progress.next t number line)^[n] p) ∧
      ((Progress.next t number line)^[n] p).stack = withComments s depth' ∧
      ((Progress.next t number line)^[n] p).rest = left := by
  -- every step leaves less of the line
  induction hlen : p.rest.length using Nat.strongRecOn generalizing p depth with
  | ind len ih =>
    cases depth with
    | zero =>
      rw [readNested] at hread
      obtain ⟨rfl, rfl⟩ := Prod.mk.inj hread
      exact ⟨0, .refl line p, hstack, rfl⟩
    | succ depth =>
      by_cases hrest : p.rest = []
      · rw [hrest, readNested] at hread
        obtain ⟨rfl, rfl⟩ := Prod.mk.inj hread
        exact ⟨0, .refl line p, hstack, hrest⟩
      · obtain ⟨hreads, hless, depth'', hstack', hread'⟩ :=
          ht.next_of_withComments number hp hstack hrest
        have hp' : (p.next t number line).InLine line := hp.step (Progress.step_next hrest)
        obtain ⟨n, hn, hend⟩ := ih _ (hlen ▸ hless) hp' hstack' (hread' ▸ hread) rfl
        exact ⟨n + 1, hreads.trans hn, hend⟩

/-! ### What follows the comments -/

/-- Behind the start of a line it is not started again. -/
theorem restarts_eq_false (ht : Outline t) (hcursor : 0 < p.cursor) : p.restarts t = false := by
  rw [← Bool.not_eq_true, Progress.restarts_iff]
  rintro ⟨-, r, m, hmatch, hrematch, -⟩
  obtain ⟨hmem, hat, -⟩ := Progress.matchRest_of_firstMatch? hmatch
  have hzero := Pattern.eq_zero_of_matchRest (ht.lineStartOnly_of_mem hmem hrematch) hat
  omega

/-- Behind the start of a line tokens stay, and later ones begin behind them. -/
theorem exists_tokens_iterate (ht : Outline t) (number : Nat) (hp : p.InLine line)
    (hcursor : 0 < p.cursor) (n : Nat) :
    ∃ new, ((Progress.next t number line)^[n] p).tokens = new ++ p.tokens ∧
      ∀ k ∈ new, p.cursor ≤ k.span.start := by
  induction n generalizing p with
  | zero => exact ⟨[], rfl, by simp⟩
  | succ n ih =>
    obtain ⟨hle, new, htokens, hnew⟩ :=
      Progress.exists_tokens_next number hp (ht.restarts_eq_false hcursor)
    have hp' : (p.next t number line).InLine line := by
      by_cases hrest : p.rest = []
      · rwa [Progress.next_of_rest_eq_nil hrest]
      · exact hp.step (Progress.step_next hrest)
    obtain ⟨new', htokens', hnew'⟩ := ih hp' (Nat.lt_of_lt_of_le hcursor hle)
    refine ⟨new' ++ new, ?_, List.forall_mem_append.2 ⟨fun k hk ↦ ?_, hnew⟩⟩
    · rw [Function.iterate_succ_apply, htokens', htokens, List.append_assoc]
    · exact Nat.le_trans hle (hnew' k hk)

/-! ### Lines -/

/-- A line on which the reader comes to its end is all comments. -/
theorem scanLine_of_readNested_succ (ht : Outline t) {s : ModeStack} {depth opened : Nat}
    (cursor number : Nat) {line : String} {left : List Char}
    (hread : readNested (depth + 1) line.toList = (opened + 1, left)) :
    (∀ k ∈ (t.scanLine ⟨withComments s (depth + 1), cursor⟩ number line).tokens,
      k.cls = "comment") ∧
    (t.scanLine ⟨withComments s (depth + 1), cursor⟩ number line).state.stack =
      withComments s (opened + 1) := by
  obtain ⟨n, hreads, hstack, hrest⟩ := ht.exists_iterate_withComments number
    (Progress.inLine_start (withComments s (depth + 1)) line.toList) rfl hread
  obtain ⟨new, htokens, hnew, -⟩ := hreads.tokens
  have hend : (t.stage number (withComments s (depth + 1)) line.toList n).rest = [] :=
    hrest.trans (eq_nil_of_readNested hread)
  rw [RuleTable.scanLine_eq_result hend]
  refine ⟨?_, hstack⟩
  show ∀ k ∈ (t.stage number (withComments s (depth + 1)) line.toList n).tokens.reverse, _
  rw [RuleTable.stage, htokens]
  simpa [Progress.start] using hnew

/-- A line on which the reader counts down to none is comments up to there, and what follows is
scanned with the stack beneath them. -/
theorem scanLine_of_readNested_zero (ht : Outline t) {s : ModeStack} {depth : Nat}
    (cursor number : Nat) {line : String} {left : List Char}
    (hread : readNested (depth + 1) line.toList = (0, left)) :
    ∃ front back before,
      (t.scanLine ⟨withComments s (depth + 1), cursor⟩ number line).tokens = front ++ back ∧
      line.toList = before ++ left ∧ (∀ k ∈ front, k.cls = "comment") ∧
      Tiles line.toList 0 (front.map (·.span)) (byteLength before) ∧
      (∀ k ∈ back, byteLength before ≤ k.span.start) ∧
      ∃ n notices, t.stage number (withComments s (depth + 1)) line.toList n =
        { Progress.start s left with
          cursor := byteLength before, tokens := front.reverse, notices } := by
  obtain ⟨n, hreads, hstack, hrest⟩ := ht.exists_iterate_withComments number
    (Progress.inLine_start (withComments s (depth + 1)) line.toList) rfl hread
  obtain ⟨new, htokens, hnew, htiles⟩ := hreads.tokens
  have hin : (t.stage number (withComments s (depth + 1)) line.toList n).InLine line.toList :=
    RuleTable.inLine_stage n
  obtain ⟨before, happ, hlen⟩ := id hin
  rw [← RuleTable.stage] at hreads hstack hrest htokens htiles
  rw [hrest] at happ
  have hpos : 0 < (t.stage number (withComments s (depth + 1)) line.toList n).cursor := by
    rw [← hlen]
    refine Nat.pos_of_ne_zero fun hzero ↦ ?_
    have hlt := length_lt_of_readNested hread
    rw [← happ, byteLength_eq_zero_iff.1 hzero] at hlt
    exact Nat.lt_irrefl _ hlt
  -- from here on the scan goes on to the end of the line
  obtain ⟨k, hend, -⟩ := Progress.exists_iterate_rest_eq_nil t number line.toList
    (t.stage number (withComments s (depth + 1)) line.toList n)
  obtain ⟨later, hlater, hbehind⟩ := ht.exists_tokens_iterate number hin hpos k
  rw [← RuleTable.stage_add] at hend hlater
  refine ⟨new, later.reverse, before, ?_, happ.symm, hnew, hlen ▸ htiles, ?_, n,
    (t.stage number (withComments s (depth + 1)) line.toList n).notices, ?_⟩
  · rw [RuleTable.scanLine_eq_result hend, Progress.result, hlater, htokens]
    simp [Progress.start]
  · simpa [hlen] using hbehind
  · have hfloor := hreads.floor
    have hsteps := hreads.zeroWidthSteps rfl
    generalize t.stage number (withComments s (depth + 1)) line.toList n = p at *
    obtain ⟨stack, cursor, rest, floor, steps, tokens, notices⟩ := p
    obtain rfl : stack = s := hstack
    obtain rfl : rest = left := hrest
    obtain rfl : floor = none := hfloor
    obtain rfl : steps = 0 := hsteps
    obtain rfl : tokens = new.reverse := by simpa [Progress.start] using htokens
    obtain rfl : byteLength before = cursor := hlen
    rfl

end Outline

/-- **Comments are counted.** From within some comments on any stack, a line is scanned as the
reader reads it. If some comments are open in the end, all tokens of the line are comments, and
these comments are left on the stack. Otherwise the tokens for what the reader has read are comments
and tile it, and at some stage the scan stands behind it, with what is left of the line and the
stack beneath the comments; whatever else it yields begins there or later. -/
theorem nested_comments_counted :
    ∃ t, RuleTable.build definition = .ok t ∧
      [root, rest, comment].map t.nameOf = ["root", "rest", "comment"] ∧
      ∀ (s : ModeStack) (depth cursor number : Nat) (line : String),
        let scan := t.scanLine ⟨withComments s (depth + 1), cursor⟩ number line
        match readNested (depth + 1) line.toList with
        | (opened + 1, _) =>
          (∀ k ∈ scan.tokens, k.cls = "comment") ∧
            scan.state.stack = withComments s (opened + 1)
        | (0, left) =>
          ∃ front back before, scan.tokens = front ++ back ∧ line.toList = before ++ left ∧
            (∀ k ∈ front, k.cls = "comment") ∧
            Tiles line.toList 0 (front.map (·.span)) (byteLength before) ∧
            (∀ k ∈ back, byteLength before ≤ k.span.start) ∧
            ∃ n notices, t.stage number (withComments s (depth + 1)) line.toList n =
              { Progress.start s left with
                cursor := byteLength before, tokens := front.reverse, notices } := by
  obtain ⟨t, hbuild, ht⟩ := exists_outline
  refine ⟨t, hbuild, ?_, fun s depth cursor number line ↦ ?_⟩
  · have hname : ∀ e ∈ modeNames, t.nameOf e.1 = e.2 := ht.nameOf_eq
    simp only [modeNames, List.forall_mem_cons] at hname
    simp [hname]
  · show match readNested (depth + 1) line.toList with
      | (opened + 1, _) => _
      | (0, left) => _
    split
    · next opened left hread => exact ht.scanLine_of_readNested_succ cursor number hread
    · next left hread => exact ht.scanLine_of_readNested_zero cursor number hread

/-- Marks that share a character: `/*/` opens a comment and does not close it, and `**/` closes
one. -/
theorem interlocked_marks_counted :
    ∃ t, RuleTable.build definition = .ok t ∧
      (t.scanLine ⟨withComments ⟨root, [rest]⟩ 1, 0⟩ 7 "/*/ **/ /*/").state.stack =
        withComments ⟨root, [rest]⟩ 2 ∧
      ∃ n notices front, t.stage 7 (withComments ⟨root, [rest]⟩ 1) "/*/ **/ **/x".toList n =
        { Progress.start ⟨root, [rest]⟩ ['x'] with
          cursor := 11, tokens := front, notices } := by
  obtain ⟨t, hbuild, -, hscan⟩ := nested_comments_counted
  obtain ⟨-, hopen⟩ := hscan ⟨root, [rest]⟩ 0 0 7 "/*/ **/ /*/"
  obtain ⟨front, -, before, -, hline, -, -, -, n, notices, hstage⟩ :=
    hscan ⟨root, [rest]⟩ 0 0 7 "/*/ **/ **/x"
  obtain rfl : before = "/*/ **/ **/".toList := List.append_cancel_right hline.symm
  exact ⟨t, hbuild, hopen, n, notices, front.reverse, hstage⟩

end ModeLexer.Asm
