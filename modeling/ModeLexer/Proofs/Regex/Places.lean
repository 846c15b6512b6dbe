import Mathlib.Data.Nat.Pairing
import ModeLexer.Proofs.Regex.Renumbering
import ModeLexer.Proofs.Regex.Suffixes

/-!
# Where groups are opened

What a group has captured is asked for by its number. Here groups are known by the place in the text
at which they are opened (`Term.parsePlaced`), and nothing else about the expression is different.
The number of a group is one more than the number of places before its own (`exists_parsePlaced`),
and what it captures is what the group that is opened at its place captures (`group?_numberAt`).
-/

namespace ModeLexer.Regex

open Text

variable {f : Nat → Nat}

/-! ### Renumbered terms -/

namespace Term

theorem groups_renumber (t : Term) : (t.renumber f).groups = t.groups.map f := by
  induction t with
  | empty | atom | bracket | setFlags => rfl
  | capture i t ih => exact congrArg (List.cons (f i)) ih
  | group _ t ih | repetition _ _ _ t ih => exact ih
  | concat a b iha ihb | alternate a b iha ihb =>
    rw [renumber, groups, groups, List.map_append, iha, ihb]

theorem renumber_renumber (g : Nat → Nat) (t : Term) :
    (t.renumber f).renumber g = t.renumber (g ∘ f) := by
  induction t with
  | empty | atom | bracket | setFlags => rfl
  | capture _ _ ih | group _ _ ih | repetition _ _ _ _ ih =>
    simp only [renumber, ih, Function.comp_apply]
  | concat _ _ iha ihb | alternate _ _ iha ihb => simp only [renumber, iha, ihb]

/-- Only the numbers of groups that are there matter. -/
theorem renumber_congr {g : Nat → Nat} {t : Term} (h : ∀ i ∈ t.groups, f i = g i) :
    t.renumber f = t.renumber g := by
  induction t with
  | empty | atom | bracket | setFlags => rfl
  | capture i t ih =>
    obtain ⟨hi, ht⟩ := List.forall_mem_cons.1 h
    rw [renumber, renumber, hi, ih ht]
  | group _ t ih | repetition _ _ _ t ih => rw [renumber, renumber, ih h]
  | concat a b iha ihb | alternate a b iha ihb =>
    obtain ⟨ha, hb⟩ := List.forall_mem_append.1 h
    rw [renumber, renumber, iha ha, ihb hb]

end Term

/-! ### Groups under any numbers -/

/-- Reads branches as `readBranches` does, with the numbers of groups given by `label`. -/
def readLabelled (label : ParserState → Nat) :
    Nat → List Term → List Term → ParserState → Except Error (Term × ParserState)
  | 0, _, _, _ => .error .unexpectedEnd
  | n + 1, items, branches, s => do
    let (part, rest) ← readPart s.verbose s.rest
    match part with
    | .stop => .ok (.alternates (.concats items.reverse :: branches).reverse, { s with rest })
    | .bar => readLabelled label n [] (.concats items.reverse :: branches) { s with rest }
    | .repetition min max greedy => do
      let items ← repeatLast min max greedy items
      readLabelled label n items branches { s with rest }
    | .atom a => readLabelled label n (.atom a :: items) branches { s with rest }
    | .bracket b => readLabelled label n (.bracket b :: items) branches { s with rest }
    | .setFlags fc =>
      readLabelled label n (.setFlags fc :: items) branches
        { s with rest, verbose := fc.verbose s.verbose }
    | .opening o =>
      if o.clashes s.names then .error .invalidGroupName
      else do
        let (t, after) ← readLabelled label n [] [] (o.enter s rest)
        match after.rest with
        | ')' :: rest =>
          readLabelled label n (o.wrap (label s) t :: items) branches
            { after with rest, verbose := s.verbose }
        | _ => .error .unexpectedEnd

/-- The reader of expressions takes the next number for each group. -/
theorem readLabelled_captures (n : Nat) (items branches : List Term) (s : ParserState) :
    readLabelled (·.captures + 1) n items branches s = readBranches n items branches s := by
  induction n generalizing items branches s with
  | zero => rfl
  | succ n ih =>
    rw [readLabelled, readBranches_succ]
    refine bind_congr fun (part, rest) ↦ ?_
    cases part with
    | stop => rfl
    | bar | atom | bracket | setFlags => exact ih _ _ _
    | repetition min max greedy => exact bind_congr fun items ↦ ih _ _ _
    | opening o =>
      have hreads : readLabelled (·.captures + 1) n = readBranches n :=
        funext₃ fun items branches s ↦ ih items branches s
      rw [hreads]
      rfl

/-- A group that is read has contents up to its closing parenthesis, and is followed by the rest. -/
theorem exists_of_readLabelled_opening {label : ParserState → Nat} {n : Nat}
    {items branches : List Term} {s s' : ParserState} {t : Term} {o : Opening} {rest : List Char}
    (hpart : readPart s.verbose s.rest = .ok (.opening o, rest))
    (h : readLabelled label (n + 1) items branches s = .ok (t, s')) :
    ∃ u after rest', readLabelled label n [] [] (o.enter s rest) = .ok (u, after) ∧
      after.rest = ')' :: rest' ∧
      readLabelled label n (o.wrap (label s) u :: items) branches
        { after with rest := rest', verbose := s.verbose } = .ok (t, s') := by
  rw [readLabelled, hpart] at h
  change (if _ then _ else _) = _ at h
  split at h
  · simp at h
  · obtain ⟨⟨u, after⟩, hinner, h⟩ := bind_eq_ok.1 h
    simp only at h
    split at h
    · next rest' hclose => exact ⟨u, after, rest', hinner, hclose, h⟩
    · simp at h

/-- Other numbers make no other difference. -/
theorem readLabelled_renumber (f : Nat → Nat) (label : ParserState → Nat) (n : Nat)
    (items branches : List Term) (s : ParserState) :
    readLabelled (f ∘ label) n (items.map (Term.renumber f)) (branches.map (Term.renumber f)) s =
      (readLabelled label n items branches s).map fun r ↦ (r.1.renumber f, r.2) := by
  induction n generalizing items branches s with
  | zero => rfl
  | succ n ih =>
    rw [readLabelled, readLabelled]
    cases readPart s.verbose s.rest with
    | error e => rfl
    | ok found =>
      obtain ⟨part, rest⟩ := found
      simp only [bind, Except.bind]
      cases part with
      | stop =>
        simp [Except.map, Term.renumber_alternates, Term.renumber_concats, List.map_reverse]
      | bar =>
        have hbranch := Term.renumber_concats (f := f) items.reverse
        rw [List.map_reverse] at hbranch
        have hnext := ih [] (.concats items.reverse :: branches) { s with rest }
        rwa [List.map_cons, hbranch] at hnext
      | atom a => exact ih (.atom a :: items) branches _
      | bracket b => exact ih (.bracket b :: items) branches _
      | setFlags fc => exact ih (.setFlags fc :: items) branches _
      | repetition min max greedy =>
        simp only [repeatLast_map_renumber]
        cases repeatLast min max greedy items with
        | error e => rfl
        | ok items' => exact ih items' branches _
      | opening o =>
        by_cases hclash : o.clashes s.names
        · simp only [hclash, if_true]
          rfl
        · have hinner := ih [] [] (o.enter s rest)
          rw [List.map_nil] at hinner
          simp only [hclash, Bool.false_eq_true, if_false, hinner]
          cases readLabelled label n [] [] (o.enter s rest) with
          | error e => rfl
          | ok r =>
            obtain ⟨t, rest', verbose, captures, names⟩ := r
            cases rest' with
            | nil => rfl
            | cons c rest' =>
              by_cases hc : c = ')'
              · subst hc
                have hnext := ih (o.wrap (label s) t :: items) branches
                rw [List.map_cons, o.wrap_renumber] at hnext
                exact hnext _
              · simp [Except.map, hc]

/-! ### Places -/

/-- The place in a text, given its length, at which the next part is read. -/
def ParserState.place (length : Nat) (s : ParserState) : Nat :=
  length - (skip s.verbose s.rest).length

/-- Whether the head of a group at a place of a text is one that makes it capture. -/
def OpensGroup (text : List Char) (place : Nat) : Prop :=
  ∃ verbose r rest head name, text.drop place = '(' :: r ∧
    readGroupHead verbose r = .ok (head, rest) ∧ head.part = .opening (.capture name)

/-- Whether places at which groups are opened lie, in increasing order, between two suffixes of a
text. -/
structure PlacesBetween (text before after : List Char) (places : List Nat) : Prop where
  suffix : after <:+ before
  sorted : places.Pairwise (· < ·)
  bounds : ∀ x ∈ places, text.length - before.length ≤ x ∧ x < text.length - after.length
  opens : ∀ x ∈ places, OpensGroup text x

namespace PlacesBetween

variable {text before middle after : List Char} {places places' : List Nat}

theorem nil (h : after <:+ before) : PlacesBetween text before after [] :=
  ⟨h, .nil, nofun, nofun⟩

theorem append (h : PlacesBetween text before middle places)
    (h' : PlacesBetween text middle after places') :
    PlacesBetween text before after (places ++ places') where
  suffix := h'.suffix.trans h.suffix
  sorted := List.pairwise_append.2 ⟨h.sorted, h'.sorted, fun x hx y hy ↦
    Nat.lt_of_lt_of_le (h.bounds x hx).2 (h'.bounds y hy).1⟩
  bounds := by
    have hle := h.suffix.length_le
    have hle' := h'.suffix.length_le
    intro x hx
    rcases List.mem_append.1 hx with hx | hx
    · have hx := h.bounds x hx
      omega
    · have hx := h'.bounds x hx
      omega
  opens x hx := (List.mem_append.1 hx).elim (h.opens x) (h'.opens x)

/-- The place of a parenthesis. -/
theorem singleton {c : Char} {r : List Char} (htext : before <:+ text) (hmiddle : c :: r <:+ before)
    (hafter : after <:+ r) (hopens : OpensGroup text (text.length - (c :: r).length)) :
    PlacesBetween text before after [text.length - (c :: r).length] where
  suffix := hafter.trans ((List.suffix_cons c r).trans hmiddle)
  sorted := List.pairwise_singleton _ _
  bounds := by
    have hle := htext.length_le
    have hle' := hmiddle.length_le
    have hlt := hafter.length_le
    rw [List.length_cons] at hle' ⊢
    simp only [List.mem_singleton, forall_eq]
    omega
  opens x hx := List.mem_singleton.1 hx ▸ hopens

end PlacesBetween

theorem Opening.groups_wrap (o : Opening) (index : Nat) (t : Term) :
    ∃ is, (o.wrap index t).groups = is ++ t.groups ∧
      (is = [] ∨ is = [index] ∧ ∃ name, o = .capture name) := by
  cases o with
  | plain fc => exact ⟨[], rfl, .inl rfl⟩
  | capture name => exact ⟨[index], rfl, .inr ⟨rfl, name, rfl⟩⟩

/-- What a group with contents opens itself. -/
theorem exists_place_of_readPart {text : List Char} {s : ParserState} {o : Opening}
    {rest : List Char} (hpart : readPart s.verbose s.rest = .ok (.opening o, rest))
    (hs : s.rest <:+ text) (t : Term) :
    ∃ places, (o.wrap (s.place text.length) t).groups = places ++ t.groups ∧
      PlacesBetween text s.rest rest places := by
  obtain ⟨places, hgroups, rfl | ⟨rfl, name, rfl⟩⟩ := o.groups_wrap (s.place text.length) t
  · exact ⟨[], hgroups, .nil (readPart_suffix hpart)⟩
  · obtain ⟨r, head, hskip, hhead, hcapture⟩ := exists_readGroupHead_of_readPart hpart
    have hsuffix := skip_suffix s.verbose s.rest
    rw [ParserState.place, hskip] at hgroups ⊢
    rw [hskip] at hsuffix
    refine ⟨_, hgroups, .singleton hs hsuffix (readGroupHead_suffix hhead) ?_⟩
    exact ⟨s.verbose, r, rest, head, name, (List.suffix_iff_eq_drop.1 (hsuffix.trans hs)).symm,
      hhead, hcapture⟩

/-- The places of the groups that are read, in the order in which they are opened. -/
theorem placesBetween_of_readLabelled {text : List Char} {n : Nat} {items branches : List Term}
    {s s' : ParserState} {t : Term}
    (h : readLabelled (ParserState.place text.length) n items branches s = .ok (t, s'))
    (hs : s.rest <:+ text) :
    ∃ places, t.groups = groupsRead items branches ++ places ∧
      PlacesBetween text s.rest s'.rest places := by
  induction n generalizing items branches s t s' with
  | zero => simp [readLabelled] at h
  | succ n ih =>
    have hrun := h
    obtain ⟨⟨part, rest⟩, hpart, h⟩ := bind_eq_ok.1 h
    have hrest := readPart_suffix hpart
    have hskip : PlacesBetween text s.rest rest [] := .nil hrest
    cases part with
    | stop =>
      obtain ⟨rfl, rfl⟩ := Prod.mk.inj (Except.ok.inj h)
      refine ⟨[], ?_, hskip⟩
      rw [Term.groups_alternates]
      simp [groupsRead, Term.groups_concats]
    | bar =>
      obtain ⟨places, hgroups, hplaces⟩ := ih h (hrest.trans hs)
      rw [groupsRead_branch] at hgroups
      exact ⟨places, hgroups, hskip.append hplaces⟩
    | repetition min max greedy =>
      obtain ⟨items', hitems, h⟩ := bind_eq_ok.1 h
      obtain ⟨places, hgroups, hplaces⟩ := ih h (hrest.trans hs)
      rw [groupsRead_repeatLast hitems] at hgroups
      exact ⟨places, hgroups, hskip.append hplaces⟩
    | atom | bracket | setFlags =>
      obtain ⟨places, hgroups, hplaces⟩ := ih h (hrest.trans hs)
      rw [groupsRead_cons, Term.groups, List.append_nil] at hgroups
      exact ⟨places, hgroups, hskip.append hplaces⟩
    | opening o =>
      obtain ⟨u, after, rest', hinner, hclose, hnext⟩ := exists_of_readLabelled_opening hpart hrun
      have henter : (o.enter s rest).rest = rest := by cases o <;> rfl
      obtain ⟨inner, hgroups, hplaces⟩ := ih hinner (by rw [henter]; exact hrest.trans hs)
      rw [henter, hclose] at hplaces
      obtain ⟨own, hown, hplacesOwn⟩ := exists_place_of_readPart hpart hs u
      have hrest' : rest' <:+ rest := (List.suffix_cons _ _).trans hplaces.suffix
      obtain ⟨next, hnext, hplacesNext⟩ := ih hnext (hrest'.trans (hrest.trans hs))
      have hclosed : PlacesBetween text (')' :: rest') rest' [] := .nil (List.suffix_cons _ _)
      refine ⟨own ++ inner ++ next, ?_, (hplacesOwn.append hplaces).append
        (hclosed.append hplacesNext)⟩
      rw [hnext, groupsRead_cons, hown, hgroups]
      simp [groupsRead]

/-- The place of a group that is read next is one of those read. -/
theorem place_mem_groups {text : List Char} {n : Nat} {items branches : List Term}
    {s s' : ParserState} {t : Term}
    (h : readLabelled (ParserState.place text.length) n items branches s = .ok (t, s'))
    (hs : s.rest <:+ text) {name : Option (List Char)} {rest : List Char}
    (hpart : readPart s.verbose s.rest = .ok (.opening (.capture name), rest)) :
    s.place text.length ∈ t.groups := by
  cases n with
  | zero => simp [readLabelled] at h
  | succ n =>
    obtain ⟨u, after, rest', hinner, hclose, hnext⟩ := exists_of_readLabelled_opening hpart h
    have henter : ((Opening.capture name).enter s rest).rest = rest := rfl
    have hrest := (readPart_suffix hpart).trans hs
    obtain ⟨inner, -, hbetween⟩ := placesBetween_of_readLabelled hinner (henter ▸ hrest)
    have hsuffix := hbetween.suffix
    rw [hclose, henter] at hsuffix
    have hrest' : rest' <:+ rest := (List.suffix_cons _ _).trans hsuffix
    obtain ⟨places, hgroups, -⟩ := placesBetween_of_readLabelled hnext (hrest'.trans hrest)
    rw [hgroups, groupsRead_cons]
    simp [Opening.wrap, Term.groups]

/-! ### Expressions -/

/-- Reads an expression with the place at which each group is opened for its number. -/
def Term.parsePlaced (cs : List Char) : Except Error Term := do
  let (t, s) ← readLabelled (ParserState.place cs.length) (cs.length + 1) [] [] ⟨cs, false, 0, []⟩
  if s.rest.isEmpty then return t else .error .unopenedGroup

/-- The number of a group that is opened at a place, given the places of all groups. -/
def numberAt (places : List Nat) (x : Nat) : Nat := places.countP (· < x) + 1

theorem countP_lt_of_getElem? {places : List Nat} (hsorted : places.Pairwise (· < ·)) {i x : Nat}
    (h : places[i]? = some x) : places.countP (· < x) = i := by
  induction places generalizing i with
  | nil => simp at h
  | cons y places ih =>
    obtain ⟨hy, hsorted⟩ := List.pairwise_cons.1 hsorted
    cases i with
    | zero =>
      obtain rfl : y = x := by simpa using h
      rw [List.countP_cons_of_neg (by simp), List.countP_eq_zero]
      exact fun z hz ↦ by simpa using Nat.le_of_lt (hy z hz)
    | succ i =>
      rw [List.getElem?_cons_succ] at h
      have hlt := hy x (List.mem_of_getElem? h)
      rw [List.countP_cons_of_pos (by simpa using hlt), ih hsorted h]

/-- Places have different numbers. -/
theorem PlacesBetween.eq_of_numberAt_eq {text before after : List Char} {places : List Nat}
    (h : PlacesBetween text before after places) {x y : Nat} (hx : x ∈ places) (hy : y ∈ places)
    (heq : numberAt places x = numberAt places y) : x = y := by
  obtain ⟨i, hi⟩ := List.getElem?_of_mem hx
  obtain ⟨j, hj⟩ := List.getElem?_of_mem hy
  rw [numberAt, numberAt, countP_lt_of_getElem? h.sorted hi,
    countP_lt_of_getElem? h.sorted hj] at heq
  obtain rfl := Nat.succ.inj heq
  exact Option.some.inj (hi.symm.trans hj)

/-- A run is the same with places for numbers; the number of a group counts the places up to its
own. -/
theorem exists_readLabelled_place {text : List Char} {n : Nat} {s s' : ParserState} {t : Term}
    (h : readBranches n [] [] s = .ok (t, s')) (hs : s.rest <:+ text) (hcaptures : s.captures = 0) :
    ∃ t', readLabelled (ParserState.place text.length) n [] [] s = .ok (t', s') ∧
      PlacesBetween text s.rest s'.rest t'.groups ∧ t = t'.renumber (numberAt t'.groups) := by
  -- one run whose numbers tell both the place and the number of a group
  let both (s : ParserState) : Nat := Nat.pair (s.place text.length) (s.captures + 1)
  have hnumber := readLabelled_renumber (fun c ↦ c.unpair.2) both n [] [] s
  have hplace := readLabelled_renumber (fun c ↦ c.unpair.1) both n [] [] s
  have hnumbers : (fun c ↦ c.unpair.2) ∘ both = (·.captures + 1) := funext fun s ↦ by simp [both]
  have hplaces : (fun c ↦ c.unpair.1) ∘ both = ParserState.place text.length :=
    funext fun s ↦ by simp [both]
  rw [hnumbers, List.map_nil, readLabelled_captures, h, eq_comm] at hnumber
  obtain ⟨⟨t₂, s₂⟩, hboth, heq⟩ := map_eq_ok.1 hnumber
  obtain ⟨rfl, rfl⟩ := Prod.mk.inj heq
  rw [hplaces, List.map_nil, hboth] at hplace
  obtain ⟨places, hgroups, hbetween⟩ := placesBetween_of_readLabelled hplace hs
  obtain rfl : _ = places := hgroups
  refine ⟨_, hplace, hbetween, ?_⟩
  obtain ⟨d, -, hrange⟩ := (reads_of_readBranches h).groups_eq
  rw [Term.renumber_renumber]
  refine Term.renumber_congr fun c hc ↦ ?_
  obtain ⟨i, hi⟩ := List.getElem?_of_mem hc
  have hsecond : (List.range' 1 d)[i]? = some c.unpair.2 := by
    have hget := congrArg (·[i]?) hrange
    simpa [Term.groups_renumber, groupsRead, hcaptures, hi] using hget.symm
  have hfirst : (t₂.renumber fun c ↦ c.unpair.1).groups[i]? = some c.unpair.1 := by
    rw [Term.groups_renumber, List.getElem?_map, hi]
    rfl
  rw [Function.comp_apply, numberAt, countP_lt_of_getElem? hbetween.sorted hfirst]
  obtain ⟨hlt, hvalue⟩ := List.getElem?_eq_some_iff.1 hsecond
  rw [← hvalue, List.getElem_range', Nat.one_mul, Nat.add_comm]

theorem exists_parsePlaced {cs : List Char} {t : Term} (h : Term.parse cs = .ok t) :
    ∃ t', Term.parsePlaced cs = .ok t' ∧ PlacesBetween cs cs [] t'.groups ∧
      t = t'.renumber (numberAt t'.groups) := by
  obtain ⟨⟨t₁, s⟩, hread, h⟩ := bind_eq_ok.1 h
  simp only at h
  split at h
  · next hempty =>
    obtain rfl := pure_eq_ok.1 h
    obtain ⟨t', hplaced, hbetween, ht⟩ :=
      exists_readLabelled_place hread (List.suffix_refl cs) rfl
    rw [List.isEmpty_iff.1 hempty] at hbetween
    refine ⟨t', ?_, hbetween, ht⟩
    rw [Term.parsePlaced, hplaced]
    exact if_pos hempty
  · simp at h

/-! ### Matches -/

namespace Program

@[simp] theorem startsAtTextStart_renumber (g : Nat → Nat) (p : Program) :
    (p.renumber f g).startsAtTextStart = p.startsAtTextStart := by
  induction p with
  | empty | set | look | star => rfl
  | capture _ _ ih | plus _ _ _ ih => exact ih
  | seq _ _ ih _ => exact ih
  | choice _ _ _ ihp ihq => rw [renumber, startsAtTextStart, startsAtTextStart, ihp, ihq]

/-- A renumbered program has the same match, with its groups renumbered. -/
theorem match?_renumber (p : Program) {s : MatchState} (hs : s.groups = []) :
    ((p.renumber f id).match? s).map (fun s' ↦ (s'.offset, s'.groups)) =
      (p.match? s).map fun s' ↦ (s'.offset, s'.groups.map fun x ↦ (f x.1, x.2)) := by
  have hstart : MatchState.Renumbered f id [] s s :=
    ⟨rfl, rfl, rfl, by simp [hs], fun _ ↦ Iff.rfl⟩
  have hall := forall₂_outcomes Function.injective_id p hstart
  rw [match?_eq_head?, match?_eq_head?]
  refine (head?_map_eq_of_forall₂ (fun s₁ s₂ h ↦ ?_) hall).symm
  rw [h.offset, h.groups, List.append_nil]

end Program

/-- A match with its groups under other numbers. -/
def Match.renumber (f : Nat → Nat) (m : Match) : Match where
  span := m.span
  groups := m.groups.map fun x ↦ (f x.1, x.2)

theorem search_renumber (p : Program) (before : Option Char) (offset : Nat) (cs : List Char) :
    search (p.renumber f id) before offset cs =
      (search p before offset cs).map (Match.renumber f) := by
  induction cs generalizing before offset with
  | nil =>
    have hmatch := p.match?_renumber (f := f) (s := ⟨before, [], offset, [], []⟩) rfl
    rw [search, search]
    cases hp : p.match? ⟨before, [], offset, [], []⟩ <;>
      cases hp' : (p.renumber f id).match? ⟨before, [], offset, [], []⟩ <;>
      simp [hp, hp'] at hmatch ⊢
    simp [Match.renumber, hmatch]
  | cons c cs ih =>
    have hmatch := p.match?_renumber (f := f) (s := ⟨before, c :: cs, offset, [], []⟩) rfl
    rw [search, search]
    cases hp : p.match? ⟨before, c :: cs, offset, [], []⟩ <;>
      cases hp' : (p.renumber f id).match? ⟨before, c :: cs, offset, [], []⟩ <;>
      simp [hp, hp'] at hmatch ⊢
    · split
      · rfl
      · exact ih _ _
    · simp [Match.renumber, hmatch]

/-- The program of an expression with the place at which each group is opened for its number. -/
def placedProgram (cs : List Char) : Except Error Program := do
  let (e, _) ← (← Term.parsePlaced cs).resolve {}
  return (e.compile false 0).1

/-- The places at which the groups of an expression are opened, in increasing order. -/
def groupPlaces (cs : List Char) : List Nat :=
  match Term.parsePlaced cs with
  | .ok t => t.groups
  | .error _ => []

/-- What the group that is opened at a place of an expression captures in the first match in a
text. -/
def capturedAt? (cs : List Char) (text : List Char) (x : Nat) : Option Span :=
  match placedProgram cs with
  | .ok p => (search p none 0 text).bind (·.group? x)
  | .error _ => none

variable [SizeLimit]

/-- The places of an expression that compiles are those that a run over all of it reads. -/
theorem exists_readLabelled_of_compile {cs : List Char} {r : Regex} (h : compile cs = .ok r) :
    ∃ t s, readLabelled (ParserState.place cs.length) (cs.length + 1) [] [] ⟨cs, false, 0, []⟩ =
      .ok (t, s) ∧ groupPlaces cs = t.groups := by
  obtain ⟨t, -, -, ht, -⟩ := exists_term_of_compile h
  obtain ⟨t', hplaced, -⟩ := exists_parsePlaced ht
  have hplaces : groupPlaces cs = t'.groups := by rw [groupPlaces, hplaced]
  obtain ⟨⟨t₁, s⟩, hrun, hplaced⟩ := bind_eq_ok.1 hplaced
  simp only at hplaced
  split at hplaced
  · obtain rfl := pure_eq_ok.1 hplaced
    exact ⟨t₁, s, hrun, hplaces⟩
  · simp at hplaced

/-- What is known of the places of an expression that compiles. -/
theorem exists_placed {cs : List Char} {r : Regex} (h : compile cs = .ok r) :
    PlacesBetween cs cs [] (groupPlaces cs) ∧ ∃ p, placedProgram cs = .ok p ∧
      p.groups ⊆ groupPlaces cs ∧ r.program = p.renumber (numberAt (groupPlaces cs)) id := by
  obtain ⟨t, e', f, ht, hresolve, rfl⟩ := exists_term_of_compile h
  obtain ⟨t', hplaced, hbetween, rfl⟩ := exists_parsePlaced ht
  have hplaces : groupPlaces cs = t'.groups := by rw [groupPlaces, hplaced]
  rw [Term.resolve_renumber] at hresolve
  obtain ⟨⟨e, f'⟩, hresolved, heq⟩ := map_eq_ok.1 hresolve
  obtain ⟨rfl, -⟩ := Prod.mk.inj heq
  rw [hplaces]
  refine ⟨hbetween, (e.compile false 0).1, ?_, ?_, ?_⟩
  · rw [placedProgram, hplaced]
    simp only [bind, Except.bind, hresolved]
    rfl
  · exact List.Subset.trans (e.groups_compile_subset false 0)
      (Expr.groups_subset_of_resolve hresolved)
  · exact congrArg Prod.fst (e.renumbers_compile (f := numberAt t'.groups) 0 false 0)

/-- A group captures what is captured by the group that is opened at its place. -/
theorem group?_numberAt {cs : List Char} {r : Regex} (h : compile cs = .ok r) {text : List Char}
    {m : Match} (hm : r.find? text = some m) {x : Nat} (hx : x ∈ groupPlaces cs) :
    m.group? (numberAt (groupPlaces cs) x) = capturedAt? cs text x := by
  obtain ⟨hbetween, p, hp, hgroups, hprogram⟩ := exists_placed h
  rw [find?, hprogram, search_renumber] at hm
  obtain ⟨m', hm', rfl⟩ := Option.map_eq_some_iff.1 hm
  rw [capturedAt?, hp]
  simp only [hm', Option.bind_some]
  refine lookup_renumber fun g hg heq ↦ ?_
  exact hbetween.eq_of_numberAt_eq (hgroups (mem_groups_of_search hm' g hg)) hx heq

end ModeLexer.Regex
