import Mathlib.Data.List.Chain
import ModeLexer.Proofs.Document.Lines
import ModeLexer.Proofs.Scanner.Run

/-!
# The tokens of a line cover it

The tokens of a scan cut the line into pieces, in order and with nothing left out. `Text.Tiles` says
so of spans from one offset to another, and `Token.Covers` of the tokens of a whole line, spelled
out. The argument goes from the inside out: laid-out groups tile the span of their match, whatever
their order (`Layout.groups_tiles`); a step adds tokens that tile what it passes, or starts with
none again (`Progress.Tiled.step`); and the tokens of a stage tile the line up to its cursor.

All this asks of a table is that its patterns match at the cursor. Where one matches further on,
what lies between is passed without a token.
-/

namespace ModeLexer

open Text

namespace Text

/-! ### Tilings -/

/-- Whether spans follow on each other from `lo` to `hi`, each of them with something in it and
ending at a boundary. -/
def Tiles (line : List Char) : Nat → List Span → Nat → Prop
  | lo, [], hi => lo = hi
  | lo, s :: ss, hi =>
    s.start = lo ∧ s.start < s.stop ∧ IsBoundary line s.stop ∧ Tiles line s.stop ss hi

/-- Spans that go on where others have ended tile the whole. -/
theorem Tiles.append {line : List Char} {lo mid hi : Nat} {as bs : List Span}
    (ha : Tiles line lo as mid) (hb : Tiles line mid bs hi) : Tiles line lo (as ++ bs) hi := by
  induction as generalizing lo with
  | nil =>
    obtain rfl : lo = mid := ha
    exact hb
  | cons s ss ih =>
    obtain ⟨hstart, hpos, hstop, hrest⟩ := ha
    exact ⟨hstart, hpos, hstop, ih hrest⟩

/-- A span with something in it tiles itself. -/
theorem tiles_singleton {line : List Char} {lo hi : Nat} (hlt : lo < hi)
    (hhi : IsBoundary line hi) : Tiles line lo [⟨lo, hi⟩] hi :=
  ⟨rfl, hlt, hhi, rfl⟩

/-- No part of a tiling begins before it. -/
theorem Tiles.le_start {line : List Char} {lo hi : Nat} {ss : List Span}
    (h : Tiles line lo ss hi) : ∀ s ∈ ss, lo ≤ s.start := by
  induction ss generalizing lo with
  | nil => simp
  | cons s ss ih =>
    obtain ⟨rfl, hpos, -, hrest⟩ := h
    exact List.forall_mem_cons.2
      ⟨Nat.le_refl _, fun s' hs' ↦ Nat.le_trans (Nat.le_of_lt hpos) (ih hrest s' hs')⟩

end Text

namespace Layout

variable {line : List Char} {default : String}

/-! ### Laid-out groups -/

/-- A gap is tiled by the span that fills it, or is none. -/
theorem gap_tiles {start stop : Nat} (hle : start ≤ stop) (hstop : IsBoundary line stop) :
    Tiles line start ((gap default start stop).map (·.2)) stop := by
  unfold gap
  split
  · next hlt => exact tiles_singleton hlt hstop
  · exact Nat.le_antisymm hle (by omega)

/-- Groups in any order are laid out to tile what is left of their match. -/
theorem groups_tiles {stop covered : Nat} {gs : List (Option String × Option Span)}
    (hgs : ∀ cls g, (cls, some g) ∈ gs → g.Fits line) (hle : covered ≤ stop)
    (hstop : IsBoundary line stop) :
    Tiles line covered ((groups default stop covered gs).map (·.2)) stop := by
  induction gs generalizing covered with
  | nil => exact gap_tiles hle hstop
  | cons x gs ih =>
    have hgs' : ∀ cls g, (cls, some g) ∈ gs → g.Fits line := fun cls g h ↦
      hgs cls g (List.mem_cons_of_mem _ h)
    match x with
    | (some cls, some g) =>
      rw [groups]
      split
      · exact ih hgs' hle
      · next hlaid =>
        simp only [not_or, Span.isEmpty, decide_eq_true_eq, Nat.not_le, Nat.not_lt] at hlaid
        obtain ⟨hpos, hcovered, hinside⟩ := hlaid
        have hg := hgs (some cls) g (List.mem_cons_self ..)
        have hgap : Tiles line covered ((gap default covered g.start).map (·.2)) g.start :=
          gap_tiles hcovered hg.start
        rw [List.map_append, List.map_cons]
        exact hgap.append ⟨rfl, hpos, hg.stop, ih hgs' hinside⟩
    | (some _, none) | (none, some _) | (none, none) => exact ih hgs' hle

/-- A group that is paired with a label is one of the groups. -/
theorem mem_of_mem_pairGroups {cs : List (Option String)} {gs : List (Option Span)}
    {cls : Option String} {g : Span} (h : (cls, some g) ∈ pairGroups cs gs) : some g ∈ gs := by
  induction cs generalizing gs with
  | nil => simp [pairGroups] at h
  | cons c cs ih =>
    cases gs with
    | nil =>
      simp only [pairGroups, List.mem_cons, Prod.mk.injEq, reduceCtorEq, and_false, false_or] at h
      simpa using ih h
    | cons g' gs =>
      simp only [pairGroups, List.mem_cons, Prod.mk.injEq] at h
      rcases h with ⟨-, rfl⟩ | h
      · exact List.mem_cons_self ..
      · exact List.mem_cons_of_mem _ (ih h)

/-- The tokens of a match tile it. -/
theorem ofMatch_tiles {e : Emission} {m : PatternMatch} (hspan : m.span.Fits line)
    (hgroups : ∀ g, some g ∈ m.groups → g.Fits line) :
    Tiles line m.span.start ((ofMatch default e m).map (·.2)) m.span.stop := by
  unfold ofMatch
  split
  · next hempty =>
    rw [Span.isEmpty, decide_eq_true_eq] at hempty
    exact Nat.le_antisymm hspan.start_le_stop hempty
  · next hempty =>
    cases e with
    | whole cls =>
      rw [Span.isEmpty, decide_eq_true_eq, Nat.not_le] at hempty
      exact tiles_singleton hempty hspan.stop
    | groups classes =>
      exact groups_tiles (fun cls g h ↦ hgroups g (mem_of_mem_pairGroups h))
        hspan.start_le_stop hspan.stop

end Layout

namespace RuleTable

/-- Whether no pattern of a table matches anywhere but at the cursor. -/
def MatchesAtCursor (t : RuleTable) : Prop :=
  ∀ mode ∈ t.modes, ∀ r ∈ mode.rules, r.pattern.MatchesAtCursor

theorem MatchesAtCursor.of_mem_rulesOf {t : RuleTable} (ht : t.MatchesAtCursor) {id : ModeId}
    {r : Rule} (h : r ∈ t.rulesOf id) : r.pattern.MatchesAtCursor := by
  unfold rulesOf at h
  split at h
  · next mode hmode => exact ht mode (List.mem_of_getElem? hmode) r h
  · simp at h

/-- A table without lookaheads all of whose expressions are anchored as a whole matches at the
cursor. -/
theorem matchesAtCursor_of_startsAtTextStart {t : RuleTable}
    (h : ∀ mode ∈ t.modes, ∀ r ∈ mode.rules,
      r.pattern.regex.program.startsAtTextStart ∧ r.pattern.hasLookahead = false) :
    t.MatchesAtCursor := fun mode hmode r hr ↦
  Pattern.matchesAtCursor_of_startsAtTextStart (h mode hmode r hr).1 (h mode hmode r hr).2

end RuleTable

namespace Progress

variable {t : RuleTable} {number : Nat} {line : List Char} {p p' : Progress}

/-! ### Stages -/

/-- Whether the tokens of a stage tile the line up to its cursor. -/
structure Tiled (line : List Char) (p : Progress) : Prop where
  inLine : p.InLine line
  tiles : Tiles line 0 (p.tokens.reverse.map (·.span)) p.cursor

/-- Before the first step there is nothing to tile. -/
theorem tiled_start (stack : ModeStack) (line : List Char) : (start stack line).Tiled line :=
  ⟨inLine_start stack line, rfl⟩

/-- Every step keeps the tiling. -/
theorem Tiled.step (ht : t.MatchesAtCursor) (h : p.Tiled line)
    (hstep : Step t number line p p') : p'.Tiled line := by
  refine ⟨h.inLine.step hstep, ?_⟩
  cases hstep with
  | @pass c rest hrest hnone =>
    have hpass : (p.passCharacter t number c rest).InLine line :=
      h.inLine.step (.pass hrest hnone)
    rw [passCharacter, List.reverse_cons, List.map_append]
    exact h.tiles.append
      (tiles_singleton (Nat.lt_add_of_pos_right c.utf8Size_pos) hpass.isBoundary)
  | restart => exact rfl
  | @apply r m hrest hmatch hnot =>
    obtain ⟨hspan, hgroups⟩ := h.inLine.fits hmatch
    have hstart : m.span.start = p.cursor := by
      obtain ⟨hmem, hat, -⟩ := matchRest_of_firstMatch? hmatch
      obtain ⟨before, -, hlen⟩ := h.inLine
      rw [← hlen] at hat ⊢
      exact (ht.of_mem_rulesOf hmem).start_eq hat
    have hmatched : Tiles line p.cursor
        ((Layout.ofMatch t.defaultToken r.emission m).map (·.2)) m.span.stop :=
      hstart ▸ Layout.ofMatch_tiles hspan hgroups
    rw [applyRule, List.reverse_append, List.reverse_reverse, List.map_append, List.map_map]
    exact h.tiles.append hmatched

/-! ### Where tokens begin -/

/-- A step that does not start the line again adds tokens that begin at the cursor or behind it. -/
theorem exists_tokens_next (number : Nat) (hp : p.InLine line) (h : p.restarts t = false) :
    p.cursor ≤ (p.next t number line).cursor ∧
      ∃ new, (p.next t number line).tokens = new ++ p.tokens ∧
        ∀ k ∈ new, p.cursor ≤ k.span.start := by
  cases hrest : p.rest with
  | nil =>
    rw [next_of_rest_eq_nil hrest]
    exact ⟨Nat.le_refl _, [], rfl, by simp⟩
  | cons c rest =>
    rw [next_of_not_restarts h hrest]
    cases hmatch : p.firstMatch? t with
    | none => exact ⟨Nat.le_add_right _ _, [_], rfl, by simp⟩
    | some found =>
      obtain ⟨r, m⟩ := found
      obtain ⟨hspan, hgroups⟩ := hp.fits hmatch
      have hstart := (usable_of_firstMatch? hmatch).2
      refine ⟨Nat.le_trans hstart hspan.start_le_stop, _, rfl, fun k hk ↦ ?_⟩
      rw [List.mem_reverse, List.mem_map] at hk
      obtain ⟨⟨cls, s⟩, hs, rfl⟩ := hk
      exact Nat.le_trans hstart ((Layout.ofMatch_tiles hspan hgroups).le_start s
        (List.mem_map_of_mem hs))

end Progress

/-! ### Lines -/

/-- Whether tokens cover a line: all of them hold something, the first begins where the line does,
each begins where the one before it ends, and the last ends where the line does; they cut the line
between characters only, and their texts put together are the line. -/
structure Token.Covers (line : List Char) (ks : List Token) : Prop where
  nonempty : ∀ k ∈ ks, k.span.start < k.span.stop
  start : ∀ k ∈ ks.head?, k.span.start = 0
  adjacent : ks.IsChain fun a b ↦ a.span.stop = b.span.start
  stop : (ks.getLast?.map (·.span.stop)).getD 0 = byteLength line
  boundary : ∀ k ∈ ks, IsBoundary line k.span.start ∧ IsBoundary line k.span.stop
  texts : ∃ pieces, ks.mapM (·.text? line) = some pieces ∧ pieces.flatten = line

namespace Text.Tiles

variable {line : List Char} {lo hi : Nat} {ks : List Token}

/-- A tile has something in it. -/
theorem nonempty (h : Tiles line lo (ks.map (·.span)) hi) :
    ∀ k ∈ ks, k.span.start < k.span.stop := by
  induction ks generalizing lo with
  | nil => simp
  | cons k ks ih =>
    obtain ⟨-, hpos, -, hrest⟩ := h
    exact List.forall_mem_cons.2 ⟨hpos, ih hrest⟩

/-- The first tile begins where the tiling does. -/
theorem start_eq (h : Tiles line lo (ks.map (·.span)) hi) :
    ∀ k ∈ ks.head?, k.span.start = lo := by
  cases ks with
  | nil => simp
  | cons k ks => simpa using h.1

/-- Every tile ends where the next one begins. -/
theorem adjacent (h : Tiles line lo (ks.map (·.span)) hi) :
    ks.IsChain fun a b ↦ a.span.stop = b.span.start := by
  induction ks generalizing lo with
  | nil => exact .nil
  | cons k ks ih =>
    obtain ⟨-, -, -, hrest⟩ := h
    exact (ih hrest).cons fun b hb ↦ (start_eq hrest b hb).symm

/-- The last tile ends where the tiling does. -/
theorem stop_eq (h : Tiles line lo (ks.map (·.span)) hi) :
    (ks.getLast?.map (·.span.stop)).getD lo = hi := by
  induction ks generalizing lo with
  | nil => exact h
  | cons k ks ih =>
    obtain ⟨-, -, -, hrest⟩ := h
    rw [← ih hrest, List.getLast?_cons]
    cases ks.getLast? <;> rfl

/-- Tiles begin and end between characters, if the tiling begins there. -/
theorem boundary (hlo : IsBoundary line lo) (h : Tiles line lo (ks.map (·.span)) hi) :
    ∀ k ∈ ks, IsBoundary line k.span.start ∧ IsBoundary line k.span.stop := by
  induction ks generalizing lo with
  | nil => simp
  | cons k ks ih =>
    obtain ⟨hstart, -, hstop, hrest⟩ := h
    exact List.forall_mem_cons.2 ⟨⟨hstart ▸ hlo, hstop⟩, ih hstop hrest⟩

/-- The texts of a tiling up to the end are what stands behind its start. -/
theorem texts {before rest : List Char}
    (h : Tiles (before ++ rest) (byteLength before) (ks.map (·.span))
      (byteLength (before ++ rest))) :
    ∃ pieces, ks.mapM (·.text? (before ++ rest)) = some pieces ∧ pieces.flatten = rest := by
  induction ks generalizing before rest with
  | nil =>
    have hrest : rest = [] := by
      refine byteLength_eq_zero_iff.1 ?_
      have hlen : byteLength before = byteLength (before ++ rest) := h
      rw [byteLength_append] at hlen
      omega
    exact ⟨[], rfl, hrest.symm⟩
  | cons k ks ih =>
    obtain ⟨hstart, hpos, ⟨before', rest', happ, hlen⟩, hrest⟩ := h
    -- the first token cuts a piece off the rest
    obtain ⟨piece, rfl, rfl⟩ := exists_middle happ.symm (by omega)
    have hspan : k.span = ⟨byteLength before, byteLength before + byteLength piece⟩ := by
      rw [← byteLength_append, hlen, ← hstart]
    have htext : k.text? (before ++ (piece ++ rest')) = some piece := by
      rw [Token.text?, hspan, slice?_append]
    rw [← hlen, ← List.append_assoc] at hrest
    obtain ⟨pieces, hpieces, hflat⟩ := ih hrest
    rw [List.append_assoc] at hpieces
    exact ⟨piece :: pieces, by simp [List.mapM_cons, htext, hpieces], by simp [hflat]⟩

/-- Tokens whose spans tile a line cover it. -/
theorem covers (h : Tiles line 0 (ks.map (·.span)) (byteLength line)) : Token.Covers line ks where
  nonempty := h.nonempty
  start := h.start_eq
  adjacent := h.adjacent
  stop := h.stop_eq
  boundary := h.boundary (isBoundary_zero line)
  texts := texts (show Tiles ([] ++ line) (byteLength []) _ _ from h)

end Text.Tiles

namespace RuleTable

/-- A scan leaves the cursor at the end of the line, with tokens that cover the line. -/
theorem covers_scanChars {t : RuleTable} (ht : t.MatchesAtCursor) (number : Nat)
    (stack : ModeStack) (line : List Char) :
    Token.Covers line (t.scanChars number stack line).tokens ∧
      (t.scanChars number stack line).state.cursor = byteLength line := by
  obtain ⟨n, hn, -⟩ := t.exists_stage_rest_eq_nil number stack line
  have htiled : (t.stage number stack line n).Tiled line :=
    stage_invariant (Progress.tiled_start stack line) (Progress.Tiled.step ht) n
  have hcursor := htiled.inLine.rest_eq_nil_iff.1 hn
  rw [scanChars_eq_result hn]
  exact ⟨Text.Tiles.covers (hcursor ▸ htiled.tiles), hcursor⟩

/-- **Coverage.** Where all patterns match at the cursor, the tokens of a scan cover the line,
whatever the stack is that it begins with, and so do the tokens of every line of a document. -/
theorem covers_scanLine_and_tokenize (t : RuleTable) (ht : t.MatchesAtCursor) :
    (∀ (s : ScanState) (number : Nat) (line : String),
      Token.Covers line.toList (t.scanLine s number line).tokens ∧
        (t.scanLine s number line).state.cursor = byteLength line.toList) ∧
    ∀ (d : Document) (i : Nat) (line : String), d.line? i = some line →
      Token.Covers line.toList ((t.tokenize d).line i) := by
  refine ⟨fun s number line ↦ covers_scanChars ht number s.stack line.toList, fun d i line h ↦ ?_⟩
  obtain ⟨s, hs⟩ := t.exists_line_tokenizeLines h
  rw [tokenize, hs]
  exact (covers_scanChars ht i s.stack line.toList).1

/-- A table with one rule, `(a)é(b)?`, that labels its two groups. -/
def accents : RuleTable where
  language := "accents"
  modes := [⟨"root", [{
    pattern := {
      source := "(a)é(b)?"
      regex := ⟨.seq (.look .textStart) (.seq (.capture 1 (.set (.range 'a' 'a')))
        (.seq (.set (.range 'é' 'é'))
          (.choice none (.capture 2 (.set (.range 'b' 'b'))) .empty))), 2⟩
      lineStartOnly := false
      hasLookahead := false }
    emission := .groups [some "letter", some "tail"]
    action := .stay }]⟩]
  base := 0
  defaultToken := "other"

/-- Groups, the gap between them and a character that no rule matches cover a line. -/
theorem accents_covered : accents.MatchesAtCursor ∧
    Token.Covers "aéb€".toList (accents.scanLine accents.initialState 0 "aéb€").tokens ∧
    Token.Covers "aé".toList ((accents.tokenize ⟨["aéb€", "aé"]⟩).line 1) := by
  have ht : accents.MatchesAtCursor := matchesAtCursor_of_startsAtTextStart (by decide)
  exact ⟨ht, ((covers_scanLine_and_tokenize accents ht).1 accents.initialState 0 "aéb€").1,
    (covers_scanLine_and_tokenize accents ht).2 ⟨["aéb€", "aé"]⟩ 1 "aé" rfl⟩

example : (accents.scanLine accents.initialState 0 "aéb€").tokens.map (·.span) =
    [⟨0, 1⟩, ⟨1, 3⟩, ⟨3, 4⟩, ⟨4, 7⟩] := by cbv

end RuleTable

end ModeLexer
