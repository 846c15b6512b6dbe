import ModeLexer.Pattern.Library
import ModeLexer.Proofs.Pattern.Groups
import ModeLexer.Proofs.Regex.Places

/-!
# Groups of a pattern with references

In the text that is compiled for a pattern, each character is written in the pattern, or comes with
a reference, or is put around the parts of the pattern (`Origin`). The groups written in the pattern
are those that its own parentheses open. References are replaced by groups that capture nothing, but
what stands in these may open groups that capture, and they are numbered with all others. So the
`i`-th group of the pattern is reported under the number `i` and as many more as groups have been
brought by references before it (`Pattern.own_group_reported`). It is reported under the number `i`
where no group has been brought, and in general only there (`Pattern.brought_group_reported`).
-/

namespace ModeLexer

open Text

/-- Where a character of the text that is compiled for a pattern comes from. -/
inductive Origin where
  /-- It is written in the pattern. -/
  | own
  /-- It comes with a reference. -/
  | brought
  /-- It is put around the parts of the pattern. -/
  | added
  deriving DecidableEq, Repr

namespace Origin

/-- A text whose characters all come from the same place. -/
def mark (o : Origin) (cs : List Char) : List (Char × Origin) := cs.map (·, o)

@[simp] theorem map_fst_mark (o : Origin) (cs : List Char) : (o.mark cs).map Prod.fst = cs := by
  rw [mark, List.map_map]
  exact List.map_id' cs

end Origin

/-! ### Traced texts -/

/-- The text that a pattern comes to when its references are replaced, with the origin of each
character. -/
def PatternLibrary.trace (l : PatternLibrary) : List Pattern.Piece → List (Char × Origin)
  | [] => []
  | .char c :: ps => (c, .own) :: l.trace ps
  | .reference name :: ps =>
    Origin.brought.mark (Pattern.grouped ((l.get? (String.ofList name)).getD "").toList) ++
      l.trace ps

namespace PatternLibrary

/-- Without its origins a trace is the text that the references of a pattern are replaced in. -/
theorem map_trace_of_substitute {l : PatternLibrary} {ε : Type}
    {resolve : String → Except ε (List Char)}
    (hresolve : ∀ name inner, resolve name = .ok inner →
      ((l.get? name).getD "").toList = inner)
    {ps : List Pattern.Piece} {cs : List Char} (h : Pattern.substitute resolve ps = .ok cs) :
    (l.trace ps).map Prod.fst = cs := by
  induction ps generalizing cs with
  | nil =>
    obtain rfl := Except.ok.inj h
    rfl
  | cons p ps ih =>
    cases p with
    | char c =>
      obtain ⟨rest, hrest, h⟩ := bind_eq_ok.1 h
      obtain rfl := pure_eq_ok.1 h
      rw [trace, List.map_cons, ih hrest]
    | reference name =>
      obtain ⟨inner, hinner, h⟩ := bind_eq_ok.1 h
      obtain ⟨rest, hrest, h⟩ := bind_eq_ok.1 h
      obtain rfl := pure_eq_ok.1 h
      rw [trace, List.map_append, Origin.map_fst_mark, ih hrest, hresolve _ _ hinner]

/-- Without the origins this is the text that the pattern comes to. -/
theorem map_trace {l : PatternLibrary} {source text : String} {site : PatternSite}
    (h : l.expand source site = .ok text) :
    (l.trace (Pattern.Piece.ofChars source.toList)).map Prod.fst = text.toList := by
  obtain ⟨cs, hcs, h⟩ := bind_eq_ok.1 h
  obtain rfl := pure_eq_ok.1 h
  rw [String.toList_ofList]
  refine map_trace_of_substitute (fun name inner hinner ↦ ?_) hcs
  cases hget : l.get? name with
  | none => simp [PatternLibrary.lookup, hget] at hinner
  | some text => simpa [PatternLibrary.lookup, hget] using hinner

/-- Nothing in a trace has been put around the pattern. -/
theorem origin_ne_added (l : PatternLibrary) (ps : List Pattern.Piece) :
    ∀ t ∈ l.trace ps, t.2 ≠ .added := by
  induction ps with
  | nil => simp [trace]
  | cons p ps ih =>
    cases p with
    | char c => exact List.forall_mem_cons.2 ⟨nofun, ih⟩
    | reference name =>
      refine List.forall_mem_append.2 ⟨fun t ht ↦ ?_, ih⟩
      obtain ⟨c, -, rfl⟩ := List.mem_map.1 ht
      exact nofun

end PatternLibrary

namespace Pattern

open Regex

/-- What is put before the parts of a pattern, up to the parenthesis of the first group. -/
def anchorText (ignoreCase : Bool) : List Char :=
  (if ignoreCase then ['(', '?', 'i', ')'] else []) ++ ['^']

/-- The text that is compiled for a pattern, with the origin of each character. -/
def traceAnchored (ignoreCase : Bool) (ts : List (Char × Origin)) : List (Char × Origin) :=
  let whole := if (stripLineStart (ts.map Prod.fst)).1 then ts.tail else ts
  match lookaheadStart? {} 0 (whole.map Prod.fst) with
  | some start =>
    Origin.added.mark (anchorText ignoreCase ++ ['(']) ++
      (whole.take start ++ (Origin.added.mark [')', '(', '?', ':'] ++
        ((whole.drop (start + 3)).dropLast ++ Origin.added.mark [')'])))
  | none =>
    Origin.added.mark (anchorText ignoreCase ++ ['(', '?', ':']) ++
      (whole ++ Origin.added.mark [')'])

/-- Without its origins a traced text is what is compiled for the pattern. -/
theorem map_traceAnchored (ignoreCase : Bool) (ts : List (Char × Origin)) :
    (traceAnchored ignoreCase ts).map Prod.fst =
      anchoredText ignoreCase (splitLookahead (stripLineStart (ts.map Prod.fst)).2).1
        (splitLookahead (stripLineStart (ts.map Prod.fst)).2).2 := by
  have hwhole : (if (stripLineStart (ts.map Prod.fst)).1 then ts.tail else ts).map Prod.fst =
      (stripLineStart (ts.map Prod.fst)).2 := by
    unfold stripLineStart
    split <;> simp_all
  unfold traceAnchored
  simp only [hwhole]
  unfold splitLookahead
  cases lookaheadStart? {} 0 (stripLineStart (ts.map Prod.fst)).2 with
  | none =>
    simp [hwhole, anchoredText, anchorText]
  | some start =>
    simp [hwhole, anchoredText, anchorText]

/-- The origin of the character at a place. -/
def originAt? (ts : List (Char × Origin)) (x : Nat) : Option Origin := ts[x]?.map Prod.snd

/-- The places of the groups written in a pattern, in increasing order. -/
def ownPlaces (ts : List (Char × Origin)) : List Nat :=
  (groupPlaces (ts.map Prod.fst)).filter fun x ↦ originAt? ts x = some .own

/-- The number of groups of an origin that are opened before a place. -/
def openedBefore (ts : List (Char × Origin)) (o : Origin) (x : Nat) : Nat :=
  (groupPlaces (ts.map Prod.fst)).countP fun y ↦ y < x ∧ originAt? ts y = some o

/-! ### What is put around the parts opens no group -/

/-- Whether a text begins with no parenthesis, or with one of those that are put around the parts of
a pattern and open no group that captures. -/
def opensNothing : List Char → Bool
  | '(' :: '?' :: c :: _ => c = ':' || c = 'i'
  | '(' :: _ => false
  | _ => true

/-- A parenthesis that is put around the parts has a question mark behind it, and no name. -/
theorem exists_of_opensNothing {r : List Char} (h : opensNothing ('(' :: r)) :
    ∃ c r', r = '?' :: c :: r' ∧ c ∉ ['=', '!', '<', 'P'] := by
  unfold opensNothing at h
  split at h
  · next c r' heq =>
    obtain ⟨-, rfl⟩ := List.cons.inj heq
    refine ⟨c, r', rfl, ?_⟩
    rw [Bool.or_eq_true, decide_eq_true_eq, decide_eq_true_eq] at h
    rcases h with rfl | rfl <;> decide
  · simp at h
  · next hnot => exact absurd rfl (hnot r)

/-- Flags do not make a group capture. -/
theorem part_ne_of_flagsHead {found : FlagChange × List Char} {head : GroupHead}
    {rest : List Char} (h : flagsHead found = .ok (head, rest)) (name : Option (List Char)) :
    head.part ≠ .opening (.capture name) := by
  unfold flagsHead at h
  split at h
  · obtain ⟨rfl, -⟩ := Prod.mk.inj (Except.ok.inj h)
    simp [GroupHead.part]
  · split at h
    · simp at h
    · obtain ⟨rfl, -⟩ := Prod.mk.inj (Except.ok.inj h)
      simp [GroupHead.part]
  · simp at h

/-- A parenthesis with a question mark and no name behind it opens no group that captures. -/
theorem not_opensGroup_of_opensNothing {text : List Char} {x : Nat}
    (h : opensNothing (text.drop x)) : ¬OpensGroup text x := by
  rintro ⟨verbose, r, rest, head, name, hdrop, hread, hhead⟩
  rw [hdrop] at h
  obtain ⟨c, r', rfl, hc⟩ := exists_of_opensNothing h
  have hskip : skip verbose ('?' :: c :: r') = '?' :: c :: r' := by cases verbose <;> rfl
  rw [readGroupHead_flags hskip hc] at hread
  obtain ⟨found, -, hflags⟩ := bind_eq_ok.1 hread
  exact part_ne_of_flagsHead hflags name hhead

/-- Whether no character that is put around the parts of a pattern begins a group that captures. -/
def AddsNoGroup : List (Char × Origin) → Prop
  | [] => True
  | t :: ts => (t.2 = .added → opensNothing ((t :: ts).map Prod.fst)) ∧ AddsNoGroup ts

/-- Characters that come from the pattern may stand in front of it all. -/
theorem AddsNoGroup.append {us ts : List (Char × Origin)} (hus : ∀ t ∈ us, t.2 ≠ .added)
    (h : AddsNoGroup ts) : AddsNoGroup (us ++ ts) := by
  induction us with
  | nil => exact h
  | cons u us ih =>
    obtain ⟨hu, hus⟩ := List.forall_mem_cons.1 hus
    exact ⟨fun heq ↦ absurd heq hu, ih hus⟩

/-- At a character that has been put there no group is opened. -/
theorem AddsNoGroup.opensNothing_drop {ts : List (Char × Origin)} (h : AddsNoGroup ts) {x : Nat}
    (hx : originAt? ts x = some .added) : opensNothing ((ts.map Prod.fst).drop x) := by
  induction ts generalizing x with
  | nil => simp [originAt?] at hx
  | cons t ts ih =>
    obtain ⟨ht, hts⟩ := h
    cases x with
    | zero => exact ht (by simpa [originAt?] using hx)
    | succ x => exact ih hts hx

section

variable (ignoreCase : Bool) {ts : List (Char × Origin)} {x : Nat}

/-- What is put around the parts of a pattern begins with one parenthesis that may open a group; all
others open none. -/
theorem exists_traceAnchored_eq (hts : ∀ t ∈ ts, t.2 ≠ .added) :
    ∃ tail, traceAnchored ignoreCase ts =
      Origin.added.mark (anchorText ignoreCase) ++ ('(', .added) :: tail ∧ AddsNoGroup tail := by
  unfold traceAnchored
  simp only
  generalize hwhole : (if (stripLineStart (ts.map Prod.fst)).1 then ts.tail else ts) = whole
  have hwhole' : ∀ t ∈ whole, t.2 ≠ .added := by
    subst hwhole
    intro t ht
    split at ht
    · exact hts t (List.mem_of_mem_tail ht)
    · exact hts t ht
  have hclose : AddsNoGroup (Origin.added.mark [')']) := ⟨fun _ ↦ rfl, trivial⟩
  split
  · next start _ =>
    have hahead : AddsNoGroup ((whole.drop (start + 3)).dropLast ++ Origin.added.mark [')']) :=
      .append (fun t ht ↦ hwhole' t (List.mem_of_mem_drop (List.dropLast_subset _ ht))) hclose
    refine ⟨whole.take start ++ (Origin.added.mark [')', '(', '?', ':'] ++
      ((whole.drop (start + 3)).dropLast ++ Origin.added.mark [')'])), by simp [Origin.mark], ?_⟩
    exact .append (fun t ht ↦ hwhole' t (List.mem_of_mem_take ht))
      ⟨fun _ ↦ rfl, fun _ ↦ rfl, fun _ ↦ rfl, fun _ ↦ rfl, hahead⟩
  · have hbody : AddsNoGroup (whole ++ Origin.added.mark [')']) := .append hwhole' hclose
    refine ⟨Origin.added.mark ['?', ':'] ++ (whole ++ Origin.added.mark [')']), by
      simp [Origin.mark], ?_⟩
    exact ⟨fun _ ↦ rfl, fun _ ↦ rfl, hbody⟩

/-- In what is put before the parts no group is opened. -/
theorem opensNothing_anchorText (more : List Char) (hx : x < (anchorText ignoreCase).length) :
    opensNothing ((anchorText ignoreCase ++ more).drop x) := by
  cases ignoreCase with
  | false =>
    obtain rfl : x = 0 := Nat.lt_one_iff.1 hx
    rfl
  | true =>
    have hlt : x < 5 := hx
    match x, hlt with
    | 0, _ | 1, _ | 2, _ | 3, _ | 4, _ => rfl

/-- The only group opened by what is put around the parts is the first one. -/
theorem eq_of_originAt?_added (hts : ∀ t ∈ ts, t.2 ≠ .added)
    (hx : originAt? (traceAnchored ignoreCase ts) x = some .added)
    (hopens : OpensGroup ((traceAnchored ignoreCase ts).map Prod.fst) x) :
    x = (anchorText ignoreCase).length := by
  obtain ⟨tail, htrace, htail⟩ := exists_traceAnchored_eq ignoreCase hts
  by_contra hne
  refine not_opensGroup_of_opensNothing ?_ hopens
  rw [htrace] at hx ⊢
  rw [List.map_append, Origin.map_fst_mark, List.map_cons]
  rcases Nat.lt_or_gt_of_ne hne with hlt | hgt
  · exact opensNothing_anchorText ignoreCase _ hlt
  · obtain ⟨y, rfl⟩ : ∃ y, x = (anchorText ignoreCase).length + (y + 1) :=
      ⟨x - (anchorText ignoreCase).length - 1, by omega⟩
    rw [originAt?, List.getElem?_append_right (by simp [Origin.mark])] at hx
    rw [← List.drop_drop, List.drop_left, List.drop_succ_cons]
    exact htail.opensNothing_drop (by simpa [originAt?, Origin.mark] using hx)

/-- The characters of a pattern stand behind what is put before its parts. -/
theorem lt_of_originAt?_own (hts : ∀ t ∈ ts, t.2 ≠ .added)
    (hx : originAt? (traceAnchored ignoreCase ts) x = some .own) :
    (anchorText ignoreCase).length < x := by
  obtain ⟨tail, htrace, -⟩ := exists_traceAnchored_eq ignoreCase hts
  by_contra hle
  have hsplit : Origin.added.mark (anchorText ignoreCase) ++ ('(', .added) :: tail =
      Origin.added.mark (anchorText ignoreCase ++ ['(']) ++ tail := by
    simp [Origin.mark]
  have hlt : x < (Origin.added.mark (anchorText ignoreCase ++ ['('])).length := by
    simp only [Origin.mark, List.length_map, List.length_append, List.length_singleton]
    omega
  rw [htrace, hsplit, originAt?, List.getElem?_append_left hlt, Origin.mark,
    List.getElem?_map] at hx
  cases hget : (anchorText ignoreCase ++ ['('])[x]? <;> simp [hget] at hx

end

/-! ### The group around what a pattern takes -/

/-- What is put before the parts of a pattern is read without a group being opened in it that
captures. -/
theorem exists_readLabelled_anchorText (label : ParserState → Nat) (ignoreCase : Bool)
    (cs : List Char) :
    ∃ n items, readLabelled label ((anchorText ignoreCase ++ cs).length + 1) [] []
        ⟨anchorText ignoreCase ++ cs, false, 0, []⟩ =
      readLabelled label n items [] ⟨cs, false, 0, []⟩ := by
  cases ignoreCase with
  | false => exact ⟨cs.length + 1, [.atom (.anchor .lineStart)], rfl⟩
  | true =>
    exact ⟨cs.length + 4, [.atom (.anchor .lineStart), .setFlags [(.ignoreCase, true)]], rfl⟩

/-- A parenthesis right behind the caret opens a group, unless a question mark follows. -/
theorem mem_groupPlaces [SizeLimit] {ignoreCase : Bool} {cs : List Char}
    (hhead : cs.head? ≠ some '?') {r : Regex}
    (h : Regex.compile (anchorText ignoreCase ++ '(' :: cs) = .ok r) :
    (anchorText ignoreCase).length ∈ groupPlaces (anchorText ignoreCase ++ '(' :: cs) := by
  obtain ⟨t, s, hrun, hplaces⟩ := exists_readLabelled_of_compile h
  obtain ⟨n, items, hanchor⟩ := exists_readLabelled_anchorText
    (ParserState.place (anchorText ignoreCase ++ '(' :: cs).length) ignoreCase ('(' :: cs)
  rw [hanchor] at hrun
  have hmem := place_mem_groups hrun (List.suffix_append _ _) (readPart_capture_of_head?_ne hhead)
  rw [hplaces]
  have hplace : ParserState.place (anchorText ignoreCase ++ '(' :: cs).length
      ⟨'(' :: cs, false, 0, []⟩ = (anchorText ignoreCase).length := by
    simp [ParserState.place, skip]
  rwa [hplace] at hmem

/-- A group that begins with a question mark does not capture. -/
theorem not_mem_groupPlaces [SizeLimit] {ignoreCase : Bool} {cs : List Char} {r : Regex}
    (h : Regex.compile (anchorText ignoreCase ++ '(' :: '?' :: ':' :: cs) = .ok r) :
    (anchorText ignoreCase).length ∉
      groupPlaces (anchorText ignoreCase ++ '(' :: '?' :: ':' :: cs) := by
  intro hmem
  refine not_opensGroup_of_opensNothing ?_ ((exists_placed h).1.opens _ hmem)
  rw [List.drop_left]
  rfl

/-! ### Counting -/

/-- The places before a given one are counted by the origins of the characters at them. -/
theorem countP_lt_eq {ts : List (Char × Origin)} {places : List Nat}
    (h : ∀ y ∈ places, y < ts.length) (x : Nat) :
    places.countP (· < x) = places.countP (fun y ↦ y < x ∧ originAt? ts y = some .own) +
      places.countP (fun y ↦ y < x ∧ originAt? ts y = some .brought) +
      places.countP (fun y ↦ y < x ∧ originAt? ts y = some .added) := by
  induction places with
  | nil => rfl
  | cons y places ih =>
    obtain ⟨hy, hplaces⟩ := List.forall_mem_cons.1 h
    have horigin : originAt? ts y = some ts[y].2 := by simp [originAt?, hy]
    simp only [List.countP_cons, ih hplaces, horigin]
    cases ts[y].2 <;> simp <;> omega

/-! ### Matches -/

/-- The text that is compiled for a pattern whose references are looked up in a library, with the
origin of each character. -/
def compiledTrace (l : PatternLibrary) (source : String) (ignoreCase : Bool) :
    List (Char × Origin) :=
  traceAnchored ignoreCase (l.trace (Piece.ofChars source.toList))

section

variable [SizeLimit] {l : PatternLibrary} {source text : String} {site : PatternSite}
  {ignoreCase : Bool} {p : Pattern}

/-- The traced text of a pattern is the one that is compiled. -/
theorem compile_compiledTrace (hexpand : l.expand source site = .ok text)
    (h : compile text ignoreCase = .ok p) :
    Regex.compile ((compiledTrace l source ignoreCase).map Prod.fst) = .ok p.regex := by
  rw [compiledTrace, map_traceAnchored, PatternLibrary.map_trace hexpand]
  exact (compile_eq_ok h).1

/-- The group around what a pattern takes is opened if there is a lookahead. -/
theorem mem_groupPlaces_iff (h : compile text ignoreCase = .ok p)
    (hhead : ∀ body ahead, parts text = [body, ahead] → body.head? ≠ some '?') :
    (anchorText ignoreCase).length ∈ groupPlaces (anchoredText ignoreCase
        (splitLookahead (stripLineStart text.toList).2).1
        (splitLookahead (stripLineStart text.toList).2).2) ↔ p.hasLookahead := by
  obtain ⟨hregex, hlook⟩ := compile_eq_ok h
  cases hsplit : splitLookahead (stripLineStart text.toList).2 with
  | mk body ahead? =>
    rw [hsplit] at hregex hlook
    rw [hlook]
    cases ahead? with
    | none =>
      have htext : anchoredText ignoreCase body none =
          anchorText ignoreCase ++ '(' :: '?' :: ':' :: (body ++ [')']) := by
        simp [anchoredText, anchorText]
      rw [htext] at hregex ⊢
      simpa using not_mem_groupPlaces hregex
    | some ahead =>
      have htext : anchoredText ignoreCase body (some ahead) =
          anchorText ignoreCase ++ '(' :: (body ++ ')' :: (['(', '?', ':'] ++ ahead ++ [')'])) := by
        simp [anchoredText, anchorText]
      have hbody := hhead body ahead (by simp [parts, hsplit])
      rw [htext] at hregex ⊢
      simpa using mem_groupPlaces (head?_append_close_ne hbody _) hregex

/-- Before a place of the pattern itself there is one group that has been put there, if there is a
lookahead, and otherwise none. -/
theorem openedBefore_added (hexpand : l.expand source site = .ok text)
    (h : compile text ignoreCase = .ok p)
    (hhead : ∀ body ahead, parts text = [body, ahead] → body.head? ≠ some '?') {x : Nat}
    (hx : originAt? (compiledTrace l source ignoreCase) x = some .own) :
    openedBefore (compiledTrace l source ignoreCase) .added x = p.groupOffset := by
  have hadded := l.origin_ne_added (Piece.ofChars source.toList)
  have hbetween := (exists_placed (compile_compiledTrace hexpand h)).1
  have hnodup : (groupPlaces ((compiledTrace l source ignoreCase).map Prod.fst)).Nodup :=
    hbetween.sorted.imp Nat.ne_of_lt
  have hlt := lt_of_originAt?_own ignoreCase hadded hx
  have hfirst : originAt? (compiledTrace l source ignoreCase) (anchorText ignoreCase).length =
      some .added := by
    obtain ⟨tail, htrace, -⟩ := exists_traceAnchored_eq ignoreCase hadded
    rw [compiledTrace, htrace, originAt?, List.getElem?_append_right (by simp [Origin.mark])]
    simp [Origin.mark]
  have hcount : openedBefore (compiledTrace l source ignoreCase) .added x =
      (groupPlaces ((compiledTrace l source ignoreCase).map Prod.fst)).count
        (anchorText ignoreCase).length := by
    refine List.countP_congr fun y hy ↦ ?_
    simp only [decide_eq_true_eq, beq_iff_eq]
    constructor
    · rintro ⟨-, horigin⟩
      exact eq_of_originAt?_added ignoreCase hadded horigin (hbetween.opens y hy)
    · rintro rfl
      exact ⟨hlt, hfirst⟩
  have hmem := mem_groupPlaces_iff h hhead
  rw [hcount, hnodup.count, compiledTrace, map_traceAnchored, PatternLibrary.map_trace hexpand,
    groupOffset]
  simp only [hmem]

/-- **Numbers of groups.** The groups that a match reports are the groups written in the pattern, in
their order, but each one has as many numbers more as groups have been opened before it by what
references have brought. -/
theorem own_group_reported (hexpand : l.expand source site = .ok text)
    (h : compile text ignoreCase = .ok p)
    (hhead : ∀ body ahead, parts text = [body, ahead] → body.head? ≠ some '?')
    {line rest : List Char} {pos : Nat} {m : PatternMatch}
    (hrest : sliceFrom? line pos = some rest) (hm : p.matchAt line pos = some m) {i x : Nat}
    (hx : (ownPlaces (compiledTrace l source ignoreCase))[i]? = some x) :
    m.group? (i + 1 + openedBefore (compiledTrace l source ignoreCase) .brought x) =
      (capturedAt? ((compiledTrace l source ignoreCase).map Prod.fst) rest x).map
        (·.shift pos) := by
  have hregex := compile_compiledTrace hexpand h
  have hbetween := (exists_placed hregex).1
  obtain ⟨hplace, hown⟩ := List.mem_filter.1 (List.mem_of_getElem? hx)
  rw [decide_eq_true_eq] at hown
  rw [matchAt, hrest, Option.bind_some] at hm
  obtain ⟨found, hfound, rfl⟩ := exists_find?_of_matchRest hm
  -- the group's number counts the places before its own, which are of three kinds
  have hindex : openedBefore (compiledTrace l source ignoreCase) .own x = i := by
    have hsorted : (ownPlaces (compiledTrace l source ignoreCase)).Pairwise (· < ·) :=
      hbetween.sorted.filter _
    rw [← countP_lt_of_getElem? hsorted hx, ownPlaces, List.countP_filter, openedBefore]
    refine List.countP_congr fun y _ ↦ ?_
    simp
  have hnumber : numberAt (groupPlaces ((compiledTrace l source ignoreCase).map Prod.fst)) x =
      i + openedBefore (compiledTrace l source ignoreCase) .brought x + 1 + p.groupOffset := by
    have hlt : ∀ y ∈ groupPlaces ((compiledTrace l source ignoreCase).map Prod.fst),
        y < (compiledTrace l source ignoreCase).length := fun y hy ↦ by
      simpa using (hbetween.bounds y hy).2
    rw [numberAt, countP_lt_eq hlt, ← hindex, ← openedBefore_added hexpand h hhead hown]
    unfold openedBefore
    omega
  have hi : i + 1 + openedBefore (compiledTrace l source ignoreCase) .brought x =
      i + openedBefore (compiledTrace l source ignoreCase) .brought x + 1 := by omega
  rw [hi, group?_ofMatch h hfound, ← hnumber, group?_numberAt hregex hfound hplace]

end

/-- A library with one pattern, which captures. -/
def capturingLibrary : PatternLibrary := ⟨.ofList [("p", "(a)")]⟩

/-- The group of `@p(b)` is reported behind the one that comes with the reference. -/
theorem group_behind_brought_reported :
    capturingLibrary.expand "@p(b)" .library = .ok "(?:(a))(b)" ∧
      ∃ p m, compile "(?:(a))(b)" false = .ok p ∧ p.matchAt ['a', 'b'] 0 = some m ∧
        m.group? 2 = some ⟨1, 2⟩ := by
  have hexpand : capturingLibrary.expand "@p(b)" .library = .ok "(?:(a))(b)" := rfl
  obtain ⟨p, m, h, hm⟩ : ∃ p m, compile "(?:(a))(b)" false = .ok p ∧
      p.matchAt ['a', 'b'] 0 = some m := ⟨_, _, rfl, rfl⟩
  have hparts : (parts "(?:(a))(b)").length = 1 := by decide +kernel
  have hx : (ownPlaces (compiledTrace capturingLibrary "@p(b)" false))[0]? = some 11 := by
    decide +kernel
  have hbrought : openedBefore (compiledTrace capturingLibrary "@p(b)" false) .brought 11 = 1 := by
    decide +kernel
  have hreported := own_group_reported hexpand h
    (fun body ahead heq ↦ by simp [heq] at hparts) rfl hm hx
  rw [hbrought] at hreported
  refine ⟨hexpand, p, m, h, hm, hreported.trans ?_⟩
  decide +kernel

/-- The first group that a match of `@p(b)` reports is not the one written in the pattern. -/
theorem brought_group_reported :
    capturingLibrary.expand "@p(b)" .library = .ok "(?:(a))(b)" ∧
      ∃ p m x, compile "(?:(a))(b)" false = .ok p ∧ p.matchAt ['a', 'b'] 0 = some m ∧
        (ownPlaces (compiledTrace capturingLibrary "@p(b)" false))[0]? = some x ∧
        capturedAt? ((compiledTrace capturingLibrary "@p(b)" false).map Prod.fst) ['a', 'b'] x =
          some ⟨1, 2⟩ ∧
        m.group? 1 = some ⟨0, 1⟩ :=
  ⟨rfl, _, _, 11, rfl, rfl, by decide +kernel, by decide +kernel, rfl⟩

end Pattern

end ModeLexer
