import ModeLexer.Proofs.Pattern.MatchSpan
import ModeLexer.Proofs.Regex.Numbering

/-!
# Anchored patterns

A pattern is matched at the cursor because the expression that is compiled for it begins with a
caret. Behind the caret stand the text of the pattern, in a group of its own, and the text of its
lookahead, in another. These texts are put there as they are, so the caret is in front of all of
the expression only if neither of them closes the group around it. If both are expressions of their
own, what is compiled is the concatenation of the caret and the two groups (`parse_anchoredText`,
`parse_anchoredText_ahead`), and a match begins at the cursor (`matchesAtCursor_of_compile`).
-/

namespace ModeLexer

open Text

namespace Regex

/-! ### Programs that begin with a test for the start -/

/-- A program behind a test for the start of the text; a change of flags in front of the test leaves
an empty program. -/
def Program.anchored (ignoreCase : Bool) (p : Program) : Program :=
  if ignoreCase then .seq .empty (.seq (.look .textStart) p) else .seq (.look .textStart) p

theorem Program.run_anchored {α : Type} (ignoreCase : Bool) (p : Program) (k : Continuation α)
    (s : MatchState) :
    (anchored ignoreCase p).run k s = if s.before.isNone then p.run k s else none := by
  cases ignoreCase <;> rfl

/-- Behind a character nothing is found that has to begin at the start. -/
theorem search_anchored (ignoreCase : Bool) (p : Program) (c : Char) (offset : Nat)
    (cs : List Char) : search (.anchored ignoreCase p) (some c) offset cs = none := by
  induction cs generalizing c offset with
  | nil => simp [search, Program.match?, Program.run_anchored]
  | cons d cs ih => simp [search, Program.match?, Program.run_anchored, ih]

/-- What has to begin at the start is found there or not at all. -/
theorem find?_eq_map_match? {r : Regex} {ignoreCase : Bool} {p : Program}
    (hr : r.program = .anchored ignoreCase p) (cs : List Char) :
    r.find? cs = (p.match? (.start cs)).map fun s ↦ ⟨⟨0, s.offset⟩, s.groups⟩ := by
  have hmatch : (Program.anchored ignoreCase p).match? (.start cs) = p.match? (.start cs) :=
    Program.run_anchored ignoreCase p some (.start cs)
  rw [find?, hr, search.eq_def, ← MatchState.start, hmatch]
  cases p.match? (.start cs) with
  | some s => rfl
  | none => cases cs <;> simp [search_anchored]

theorem exists_match?_of_find? {r : Regex} {ignoreCase : Bool} {p : Program}
    (hr : r.program = .anchored ignoreCase p) {cs : List Char} {m : Match}
    (h : r.find? cs = some m) :
    ∃ s, p.match? (.start cs) = some s ∧ m = ⟨⟨0, s.offset⟩, s.groups⟩ := by
  rw [find?_eq_map_match? hr] at h
  obtain ⟨s, hs, rfl⟩ := Option.map_eq_some_iff.1 h
  exact ⟨s, hs, rfl⟩

/-- A group that a program begins with is the last one of its number, if no other one has it. -/
theorem group?_of_match? {index : Nat} {p q : Program} (hq : index ∉ q.groups)
    {s s' : MatchState} (h : (Program.seq (.capture index p) q).match? s = some s') :
    ∃ stop, s'.groups.lookup index = some ⟨s.offset, stop⟩ := by
  rw [Program.match?, Program.run, Program.run] at h
  obtain ⟨s₁, -, hk⟩ := Program.exists_of_run (MatchState.allowsMoves_records _) h
  obtain ⟨s₂, hrecords, hk⟩ := Program.exists_of_run (MatchState.allowsMoves_records _) hk
  obtain rfl := Option.some.inj hk
  refine ⟨s₁.offset, ?_⟩
  rw [hrecords.lookup_eq hq, MatchState.record, List.lookup_cons_self]

/-! ### Terms that begin with a caret -/

/-- The items that the text before the groups of a pattern reads as, the last one first. -/
def anchorItems (ignoreCase : Bool) : List Term :=
  .atom (.anchor .lineStart) :: if ignoreCase then [.setFlags [(.ignoreCase, true)]] else []

/-- A term behind a caret, and behind the change of flags that makes case not matter. -/
def Term.anchored (ignoreCase : Bool) (t : Term) : Term :=
  if ignoreCase then
    .concat (.setFlags [(.ignoreCase, true)]) (.concat (.atom (.anchor .lineStart)) t)
  else .concat (.atom (.anchor .lineStart)) t

theorem Term.concats_anchorItems (ignoreCase : Bool) (ts : List Term) (hts : ts ≠ []) :
    concats (ts ++ anchorItems ignoreCase).reverse = anchored ignoreCase (concats ts.reverse) := by
  rw [List.reverse_append]
  cases hreverse : ts.reverse with
  | nil => exact absurd (List.reverse_eq_nil_iff.1 hreverse) hts
  | cons t ts' => cases ignoreCase <;> rfl

/-- The concatenation behind the caret and the groups in it are two levels around what the groups
contain. -/
theorem Term.depth_anchored (ignoreCase : Bool) (index : Nat) (t u : Term) :
    (anchored ignoreCase (.concat (.capture index t) (.group [] u))).depth =
      max t.depth u.depth + 2 := by
  cases ignoreCase <;> simp only [anchored, depth, isConcat, if_true, if_neg, Bool.false_eq_true,
    not_false_eq_true] <;> omega

/-- An expression behind the test that a caret is. -/
def Expr.anchored (ignoreCase : Bool) (e : Expr) : Expr :=
  if ignoreCase then .concat .empty (.concat (.look .textStart) e) else .concat (.look .textStart) e

theorem Term.resolve_anchored (ignoreCase : Bool) (t : Term) :
    (anchored ignoreCase t).resolve {} =
      (t.resolve { ignoreCase }).map fun (e, f) ↦ (.anchored ignoreCase e, f) := by
  cases ignoreCase with
  | false =>
    show (do let (e, f) ← t.resolve {}; return (Expr.concat (.look .textStart) e, f)) = _
    cases t.resolve {} <;> rfl
  | true =>
    show (do
      let (e, f) ← (do
        let (e, f) ← t.resolve { ignoreCase := true }
        return (Expr.concat (.look .textStart) e, f))
      return (Expr.concat .empty e, f)) = _
    cases t.resolve { ignoreCase := true } <;> rfl

theorem Expr.compile_anchored (ignoreCase : Bool) (e : Expr) :
    ((anchored ignoreCase e).compile false 0).1 = .anchored ignoreCase (e.compile false 0).1 := by
  cases ignoreCase <;> rfl

theorem exists_of_compile_anchored [SizeLimit] {cs : List Char} {ignoreCase : Bool} {t : Term}
    {r : Regex} (hparse : Term.parse cs = .ok (.anchored ignoreCase t)) 
    (h : compile cs = .ok r) :
    ∃ e f, t.resolve { ignoreCase } = .ok (e, f) ∧
      r.program = .anchored ignoreCase (e.compile false 0).1 := by
  obtain ⟨t', e', f', ht', hresolve, rfl⟩ := exists_term_of_compile h
  obtain rfl := Except.ok.inj (hparse.symm.trans ht')
  rw [Term.resolve_anchored] at hresolve
  obtain ⟨⟨e, f⟩, ht, heq⟩ := map_eq_ok.1 hresolve
  obtain ⟨rfl, rfl⟩ := Prod.mk.inj heq
  exact ⟨e, f, ht, Expr.compile_anchored ignoreCase e⟩

end Regex

namespace Pattern

open Regex

/-- The groups of the expression that is compiled for a body and a lookahead. -/
def groupsText (body : List Char) : Option (List Char) → List Char
  | some ahead => ['('] ++ body ++ [')', '(', '?', ':'] ++ ahead ++ [')']
  | none => ['(', '?', ':'] ++ body ++ [')']

theorem anchoredText_eq (ignoreCase : Bool) (body : List Char) (ahead : Option (List Char)) :
    anchoredText ignoreCase body ahead =
      (if ignoreCase then ['(', '?', 'i', ')'] else []) ++ '^' :: groupsText body ahead := by
  cases ahead <;> rfl

theorem lt_length_groupsText (body : List Char) (ahead : Option (List Char)) :
    body.length + (ahead.getD []).length + 3 < (groupsText body ahead).length := by
  cases ahead with
  | none => simp [groupsText]
  | some ahead =>
    simp only [groupsText, Option.getD_some, List.length_append, List.length_cons,
      List.length_nil]
    omega

theorem readBranches_caret (n : Nat) (items : List Term) (cs : List Char) :
    readBranches (n + 1) items [] ⟨'^' :: cs, false, 0, []⟩ =
      readBranches n (.atom (.anchor .lineStart) :: items) [] ⟨cs, false, 0, []⟩ := by
  rw [readBranches_succ]
  rfl

theorem readBranches_ignoreCase (n : Nat) (items : List Term) (cs : List Char) :
    readBranches (n + 1) items [] ⟨['(', '?', 'i', ')'] ++ cs, false, 0, []⟩ =
      readBranches n (.setFlags [(.ignoreCase, true)] :: items) [] ⟨cs, false, 0, []⟩ := by
  rw [readBranches_succ]
  rfl

/-- Reading comes to the groups with more steps to go than their texts are long. -/
theorem exists_readBranches_anchoredText (ignoreCase : Bool) (body : List Char)
    (ahead : Option (List Char)) :
    ∃ m, body.length + (ahead.getD []).length < m ∧
      readBranches ((anchoredText ignoreCase body ahead).length + 1) [] []
          ⟨anchoredText ignoreCase body ahead, false, 0, []⟩ =
        readBranches (m + 2) (anchorItems ignoreCase) [] ⟨groupsText body ahead, false, 0, []⟩ := by
  have hlen := lt_length_groupsText body ahead
  obtain ⟨m, hm⟩ : ∃ m, (groupsText body ahead).length = m + 2 :=
    ⟨(groupsText body ahead).length - 2, by omega⟩
  rw [anchoredText_eq]
  cases ignoreCase with
  | false =>
    refine ⟨m + 1, by omega, ?_⟩
    rw [if_neg Bool.false_ne_true, List.nil_append, readBranches_caret, List.length_cons, hm]
    rfl
  | true =>
    refine ⟨m + 4, by omega, ?_⟩
    have hsteps : (['(', '?', 'i', ')'] ++ '^' :: groupsText body ahead).length = m + 6 + 1 := by
      simp only [List.length_append, List.length_cons, List.length_nil, hm]
      omega
    rw [if_pos rfl, readBranches_ignoreCase, hsteps, readBranches_caret]
    rfl

/-- What is read where nothing is left. -/
theorem readBranches_nil (n : Nat) (items : List Term) (captures : Nat)
    (names : List (List Char)) :
    readBranches (n + 1) items [] ⟨[], false, captures, names⟩ =
      .ok (.concats items.reverse, ⟨[], false, captures, names⟩) :=
  rfl

/-- A text that is read to its end is an expression. -/
theorem parse_eq_ok {cs : List Char} {t : Term} {captures : Nat} {names : List (List Char)}
    (h : readBranches (cs.length + 1) [] [] ⟨cs, false, 0, []⟩ =
      .ok (t, ⟨[], false, captures, names⟩)) : Term.parse cs = .ok t := by
  rw [Term.parse, h]
  rfl

theorem parse_anchoredText (ignoreCase : Bool) {body : List Char} {t : Term} {captures : Nat}
    {names : List (List Char)} (hbody : StandsFor body t captures names) :
    Term.parse (anchoredText ignoreCase body none) =
      .ok (.anchored ignoreCase (.group [] (t.shift 0))) := by
  obtain ⟨m, hm, hbegin⟩ := exists_readBranches_anchoredText ignoreCase body none
  have hlen : body.length < m + 1 := Nat.lt_succ_of_lt hm
  have hgroup := (hbody.readBranches_plain hlen (anchorItems ignoreCase) [] [] 0 []).resolve_right
    fun herror ↦ herror.2 (List.disjoint_nil_right names)
  have hitems := Term.concats_anchorItems ignoreCase [.group [] (t.shift 0)] (List.cons_ne_nil _ _)
  rw [readBranches_nil] at hgroup
  exact (parse_eq_ok (hbegin.trans hgroup)).trans (congrArg Except.ok hitems)

theorem parse_anchoredText_ahead (ignoreCase : Bool) {body ahead : List Char} {t u : Term}
    {captures captures' : Nat} {names names' : List (List Char)}
    (hbody : StandsFor body t captures names) (hahead : StandsFor ahead u captures' names') :
    Term.parse (anchoredText ignoreCase body (some ahead)) =
        .ok (.anchored ignoreCase
          (.concat (.capture 1 (t.shift 1)) (.group [] (u.shift (captures + 1))))) ∨
      Term.parse (anchoredText ignoreCase body (some ahead)) = .error .invalidGroupName ∧
        ¬ names'.Disjoint names := by
  obtain ⟨m, hm, hbegin⟩ := exists_readBranches_anchoredText ignoreCase body (some ahead)
  obtain ⟨m, rfl⟩ := Nat.exists_eq_add_of_lt hm
  have hlen : body.length < body.length + ahead.length + m + 1 + 1 := by omega
  have hlen' : ahead.length < body.length + ahead.length + m + 1 := by omega
  have htext : groupsText body (some ahead) =
      '(' :: body ++ ')' :: (['(', '?', ':'] ++ ahead ++ [')']) := by
    simp [groupsText]
  have hfirst := (hbody.readBranches_capture hlen (anchorItems ignoreCase) []
    (['(', '?', ':'] ++ ahead ++ [')']) 0 []).resolve_right
    fun herror ↦ herror.2 (List.disjoint_nil_right names)
  rw [← htext] at hfirst
  rcases hahead.readBranches_plain hlen' (.capture 1 (t.shift 1) :: anchorItems ignoreCase) [] []
    (captures + 1) (names ++ []) with hok | ⟨herror, hmeet⟩
  · have hitems := Term.concats_anchorItems ignoreCase
      [.group [] (u.shift (captures + 1)), .capture 1 (t.shift 1)] (List.cons_ne_nil _ _)
    rw [readBranches_nil] at hok
    exact .inl ((parse_eq_ok (hbegin.trans (hfirst.trans hok))).trans (congrArg Except.ok hitems))
  · rw [List.append_nil] at hmeet
    refine .inr ⟨?_, hmeet⟩
    rw [Term.parse, hbegin.trans (hfirst.trans herror)]
    rfl

/-- If what is read compiles, no name of a group is given twice. -/
theorem parse_anchoredText_ahead_of_compile [SizeLimit] {ignoreCase : Bool} {body ahead : List Char}
    {t u : Term} {captures captures' : Nat} {names names' : List (List Char)}
    (hbody : StandsFor body t captures names) (hahead : StandsFor ahead u captures' names')
    {r : Regex} (h : Regex.compile (anchoredText ignoreCase body (some ahead)) = .ok r) :
    Term.parse (anchoredText ignoreCase body (some ahead)) =
      .ok (.anchored ignoreCase
        (.concat (.capture 1 (t.shift 1)) (.group [] (u.shift (captures + 1))))) := by
  refine (parse_anchoredText_ahead ignoreCase hbody hahead).resolve_right ?_
  rintro ⟨herror, -⟩
  obtain ⟨t', -, -, ht', -⟩ := exists_term_of_compile h
  simp [herror] at ht'

/-- Behind the group around the first part no group has its number. -/
theorem exists_seq_of_resolve {t u : Term} {captures : Nat} (hu : ∀ i ∈ u.groups, 0 < i)
    {f f' : Flags} {e : Expr}
    (h : (Term.concat (.capture 1 t) (.group [] (u.shift (captures + 1)))).resolve f =
      .ok (e, f')) :
    ∃ p q, (e.compile false 0).1 = .seq (.capture 1 p) q ∧ 1 ∉ q.groups := by
  obtain ⟨⟨a, f₁⟩, ha, h⟩ := bind_eq_ok.1 h
  obtain ⟨⟨b, f₂⟩, hb, h⟩ := bind_eq_ok.1 h
  obtain ⟨rfl, -⟩ := Prod.mk.inj (pure_eq_ok.1 h)
  obtain ⟨⟨a', f₃⟩, -, ha⟩ := bind_eq_ok.1 ha
  obtain ⟨rfl, -⟩ := Prod.mk.inj (pure_eq_ok.1 ha)
  refine ⟨_, _, rfl, fun hmem ↦ ?_⟩
  have hgroup := Expr.groups_subset_of_resolve hb (Expr.groups_compile_subset b false _ hmem)
  rw [Term.groups, Term.groups_shift] at hgroup
  obtain ⟨i, hi, heq⟩ := List.mem_map.1 hgroup
  have hpos := hu i hi
  omega

/-! ### Patterns made of expressions of their own -/

/-- The parts of a pattern that are expressions: what it takes, and its lookahead if it has one. -/
def parts (source : String) : List (List Char) :=
  let split := splitLookahead (stripLineStart source.toList).2
  split.1 :: split.2.toList

section

variable [SizeLimit] {source : String} {ignoreCase : Bool} {p : Pattern}

/-- What a compiled pattern is made of. -/
theorem compile_eq_ok (h : compile source ignoreCase = .ok p) :
    Regex.compile (anchoredText ignoreCase
        (splitLookahead (stripLineStart source.toList).2).1
        (splitLookahead (stripLineStart source.toList).2).2) = .ok p.regex ∧
      p.hasLookahead = (splitLookahead (stripLineStart source.toList).2).2.isSome := by
  obtain ⟨regex, hregex, h⟩ := bind_eq_ok.1 h
  obtain rfl := pure_eq_ok.1 h
  exact ⟨hregex, rfl⟩

/-- If each part of a pattern is an expression of its own, the span of a match begins at the start
of the text that was searched. -/
theorem start_eq_zero_of_find? (h : compile source ignoreCase = .ok p)
    (hparts : ∀ part ∈ parts source, StandsAlone part) {cs : List Char} {m : Regex.Match}
    (hm : p.regex.find? cs = some m) :
    (if p.hasLookahead then (m.group? 1).getD m.span else m.span).start = 0 := by
  obtain ⟨hregex, hlook⟩ := compile_eq_ok h
  obtain ⟨t, captures, names, hbody⟩ := hparts _ (List.mem_cons_self ..)
  cases hsplit : (splitLookahead (stripLineStart source.toList).2).2 with
  | none =>
    rw [hsplit] at hregex hlook
    obtain ⟨e, f, -, hprogram⟩ := exists_of_compile_anchored (parse_anchoredText _ hbody) hregex
    obtain ⟨s, -, rfl⟩ := exists_match?_of_find? hprogram hm
    simp [hlook]
  | some ahead =>
    rw [hsplit] at hregex hlook
    obtain ⟨u, captures', names', hahead⟩ := hparts ahead (by simp [parts, hsplit])
    obtain ⟨e, f, he, hprogram⟩ := exists_of_compile_anchored
      (parse_anchoredText_ahead_of_compile hbody hahead hregex) hregex
    have hpos : ∀ i ∈ u.groups, 0 < i := by
      intro i hi
      rw [hahead.groups_eq, List.mem_range'_1] at hi
      exact hi.1
    obtain ⟨q, q', hseq, hq'⟩ := exists_seq_of_resolve hpos he
    rw [hseq] at hprogram
    obtain ⟨s, hs, rfl⟩ := exists_match?_of_find? hprogram hm
    obtain ⟨stop, hgroup⟩ := group?_of_match? hq' hs
    rw [hlook]
    simp only [Option.isSome_some, if_true, Match.group?, hgroup]
    rfl

/-- A match of a pattern whose parts are expressions of their own begins at the cursor. -/
theorem matchesAtCursor_of_compile (h : compile source ignoreCase = .ok p)
    (hparts : ∀ part ∈ parts source, StandsAlone part) : p.MatchesAtCursor := by
  intro line offset m hmatch
  obtain ⟨rest, -, hmatch⟩ := Option.bind_eq_some_iff.1 hmatch
  obtain ⟨found, hfind, rfl⟩ := exists_find?_of_matchRest hmatch
  have hstart := start_eq_zero_of_find? h hparts hfind
  show (if p.hasLookahead then _ else _ : Span).start + offset = offset
  rw [hstart, Nat.zero_add]

end

/-- A pattern with groups, alternatives, a class with a parenthesis in it and a lookahead. -/
theorem names_match_at_cursor :
    ∃ p, compile "\\b(a|[b-d]+)(?=[;)]|$)" true = .ok p ∧
      p.matchAt [' ', 'b', 'D', ';'] 0 = none ∧
      p.matchAt [' ', 'b', 'D', ';'] 1 = some ⟨⟨1, 3⟩, [some ⟨1, 3⟩]⟩ ∧ p.MatchesAtCursor := by
  obtain ⟨p, hp, hnone, hsome⟩ : ∃ p, compile "\\b(a|[b-d]+)(?=[;)]|$)" true = .ok p ∧
      p.matchAt [' ', 'b', 'D', ';'] 0 = none ∧
      p.matchAt [' ', 'b', 'D', ';'] 1 = some ⟨⟨1, 3⟩, [some ⟨1, 3⟩]⟩ :=
    ⟨_, rfl, by decide +kernel, by decide +kernel⟩
  exact ⟨p, hp, hnone, hsome, matchesAtCursor_of_compile hp (by decide)⟩

/-- A pattern that closes the group around it can match behind the cursor. -/
theorem unbalanced_matches_behind_cursor :
    ∃ p, compile "a)|(?:b" false = .ok p ∧ p.matchAt ['x', 'b'] 0 = some ⟨⟨1, 2⟩, []⟩ ∧
      ¬ p.MatchesAtCursor := by
  obtain ⟨p, hp, hmatch⟩ : ∃ p, compile "a)|(?:b" false = .ok p ∧
    p.matchAt ['x', 'b'] 0 = some ⟨⟨1, 2⟩, []⟩ := ⟨_, rfl, by decide⟩
  refine ⟨p, hp, hmatch, fun hcursor ↦ ?_⟩
  have hstart := hcursor _ _ _ hmatch
  simp at hstart

end Pattern

end ModeLexer
