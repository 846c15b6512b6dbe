import ModeLexer.Proofs.Regex.Reading

/-!
# Expressions within groups

A text that is an expression of its own is the same expression between the parentheses of a group
(`StandsFor.readBranches_group`). Two things depend on what stands before it: its groups get higher
numbers (`Term.shift`), and the name of a group may be taken, in which case nothing is read. What is
asked for is that the text is read to its end and that its end is not in verbose mode, where a
comment could go on over the parenthesis (`StandsAlone`).
-/

namespace ModeLexer.Regex

/-! ### Numbers of groups -/

section

variable {f : Nat → Nat}

namespace Term

/-- A term with its groups under other numbers. -/
def renumber (f : Nat → Nat) : Term → Term
  | empty => empty
  | atom a => atom a
  | bracket b => bracket b
  | setFlags fc => setFlags fc
  | capture i t => capture (f i) (t.renumber f)
  | group fc t => group fc (t.renumber f)
  | repetition min max greedy t => repetition min max greedy (t.renumber f)
  | concat a b => concat (a.renumber f) (b.renumber f)
  | alternate a b => alternate (a.renumber f) (b.renumber f)

/-- A concatenation is renumbered term by term. -/
theorem renumber_concats (ts : List Term) :
    (concats ts).renumber f = concats (ts.map (renumber f)) := by
  induction ts with
  | nil => rfl
  | cons t ts ih =>
    cases ts with
    | nil => rfl
    | cons t' ts => exact congrArg (concat (t.renumber f)) ih

/-- An alternation is renumbered branch by branch. -/
theorem renumber_alternates (ts : List Term) :
    (alternates ts).renumber f = alternates (ts.map (renumber f)) := by
  induction ts with
  | nil => rfl
  | cons t ts ih =>
    cases ts with
    | nil => rfl
    | cons t' ts => exact congrArg (alternate (t.renumber f)) ih

@[simp] theorem isConcat_renumber (t : Term) : (t.renumber f).isConcat = t.isConcat := by
  cases t <;> rfl

@[simp] theorem isAlternation_renumber (t : Term) :
    (t.renumber f).isAlternation = t.isAlternation := by
  cases t <;> rfl

/-- The depth of a term has nothing to do with the numbers of its groups. -/
@[simp] theorem depth_renumber (t : Term) : (t.renumber f).depth = t.depth := by
  induction t with
  | empty | atom | bracket | setFlags => rfl
  | capture _ _ ih | group _ _ ih | repetition _ _ _ _ ih => simp only [renumber, depth, ih]
  | concat _ _ iha ihb => simp only [renumber, depth, isConcat_renumber, iha, ihb]
  | alternate _ _ iha ihb => simp only [renumber, depth, isAlternation_renumber, iha, ihb]

-- repetition, group, alternation, class, list of members, class within the class
example : (Term.parse "([ab[c]]|d)*".toList).map depth = .ok 6 := by decide

/-- A term with its groups numbered `k` higher. -/
def shift (k : Nat) : Term → Term
  | empty => empty
  | atom a => atom a
  | bracket b => bracket b
  | setFlags fc => setFlags fc
  | capture i t => capture (i + k) (t.shift k)
  | group fc t => group fc (t.shift k)
  | repetition min max greedy t => repetition min max greedy (t.shift k)
  | concat a b => concat (a.shift k) (b.shift k)
  | alternate a b => alternate (a.shift k) (b.shift k)

/-- Numbering groups higher is a way to renumber them. -/
theorem shift_eq_renumber (k : Nat) : shift k = renumber (· + k) := by
  funext t
  induction t with
  | empty | atom | bracket | setFlags => rfl
  | capture _ _ ih | group _ _ ih | repetition _ _ _ _ ih => rw [shift, ih, renumber]
  | concat _ _ iha ihb | alternate _ _ iha ihb => rw [shift, iha, ihb, renumber]

end Term

/-- Repeating the last item goes together with renumbering. -/
theorem repeatLast_map_renumber (min : Nat) (max : Option Nat) (greedy : Bool)
    (items : List Term) :
    repeatLast min max greedy (items.map (Term.renumber f)) =
      (repeatLast min max greedy items).map (List.map (Term.renumber f)) := by
  match items with
  | [] => rfl
  | t :: ts => cases t <;> rfl

/-- A group is renumbered with its own number and with its contents. -/
theorem Opening.wrap_renumber (o : Opening) (index : Nat) (t : Term) :
    (o.wrap index t).renumber f = o.wrap (f index) (t.renumber f) := by
  cases o <;> rfl

end

/-! ### States within a group -/

namespace ParserState

/-- The state behind `k` groups more, of which some have names, and in front of `)` and more. -/
def nested (s : ParserState) (k : Nat) (names : List (List Char)) (more : List Char) :
    ParserState where
  rest := s.rest ++ ')' :: more
  verbose := s.verbose
  captures := s.captures + k
  names := s.names ++ names

end ParserState

/-- A group is entered within another one as it is entered outside of it. -/
theorem Opening.enter_nested (o : Opening) (s : ParserState) (rest : List Char) (k : Nat)
    (names : List (List Char)) (more : List Char) :
    o.enter (s.nested k names more) (rest ++ ')' :: more) =
      (o.enter s rest).nested k names more := by
  cases o with
  | plain fc => rfl
  | capture name =>
    simp [enter, ParserState.nested, Nat.add_right_comm]

/-- The name of a group that is only taken by names given elsewhere is one of these. -/
theorem Opening.exists_of_clashes (o : Opening) {names names' : List (List Char)}
    (hfree : o.clashes names = false) (hclash : o.clashes (names ++ names')) :
    ∃ name ∈ names', ∀ s rest, name ∈ (o.enter s rest).names := by
  cases o with
  | plain fc => simp [clashes] at hclash
  | capture name =>
    cases name with
    | none => simp [clashes] at hclash
    | some name =>
      refine ⟨name, ?_, fun s rest ↦ List.mem_cons_self ..⟩
      simp_all [clashes]

/-- Names of groups are never forgotten. -/
theorem Reads.names_subset {n : Nat} {items branches : List Term} {s s' : ParserState} {t : Term}
    (h : Reads n items branches s t s') : s.names ⊆ s'.names := by
  induction h with
  | stop => exact fun _ hname ↦ hname
  | bar _ _ ih | repetition _ _ _ ih | atom _ _ ih | bracket _ _ ih | setFlags _ _ ih => exact ih
  | @group _ _ _ s _ _ _ _ rest _ o _ _ _ _ _ ihinner ih =>
    have henter : s.names ⊆ (o.enter s rest).names := by
      cases o with
      | plain fc => exact fun _ hname ↦ hname
      | capture name => exact fun _ hname ↦ List.mem_append_right _ hname
    exact fun _ hname ↦ ih (ihinner (henter hname))

/-- A step in front of a closing parenthesis, with more steps to go than are needed. -/
theorem exists_act_nested {s : ParserState} {part : Part} {rest : List Char}
    (hpart : readPart s.verbose s.rest = .ok (part, rest))
    (hrest : IsClear (part.mode s.verbose) rest) {n m : Nat} (hm : n + 1 ≤ m) (k : Nat)
    (names : List (List Char)) (more : List Char) :
    ∃ m', n ≤ m' ∧ ∀ items branches,
      readBranches m items branches (s.nested k names more) =
        part.act m' items branches (s.nested k names more) (rest ++ ')' :: more) := by
  obtain ⟨m', rfl⟩ := Nat.exists_eq_add_of_le' hm
  refine ⟨m' + n, Nat.le_add_left n m', fun items branches ↦ ?_⟩
  have hmore : readPart (s.nested k names more).verbose (s.nested k names more).rest =
      .ok (part, rest ++ ')' :: more) := readPart_append hpart hrest (.inr rfl) (fun _ _ ↦ rfl) more
  rw [← Nat.add_assoc, readBranches_succ, hmore]
  rfl

/-- The same run with a text behind it and groups before it, unless a name is given twice. -/
theorem Reads.nested {n : Nat} {items branches : List Term} {s s' : ParserState} {t : Term}
    (h : Reads n items branches s t s') (hclear : IsClear s'.verbose s'.rest) {m : Nat}
    (hm : n ≤ m) (k : Nat) (names : List (List Char)) (more : List Char) :
    readBranches m (items.map (Term.shift k)) (branches.map (Term.shift k))
        (s.nested k names more) = .ok (t.shift k, s'.nested k names more) ∨
      readBranches m (items.map (Term.shift k)) (branches.map (Term.shift k))
        (s.nested k names more) = .error .invalidGroupName ∧ ¬ s'.names.Disjoint names := by
  rw [Term.shift_eq_renumber]
  induction h generalizing m with
  | stop hpart =>
    obtain ⟨m, -, hact⟩ := exists_act_nested hpart hclear hm k names more
    refine .inl ?_
    rw [hact, Part.act, Term.renumber_alternates, List.map_reverse, List.map_cons,
      Term.renumber_concats, List.map_reverse]
    rfl
  | bar hpart hnext ih =>
    obtain ⟨m, hm, hact⟩ := exists_act_nested hpart (hnext.isClear hclear) hm k names more
    have ih := ih hclear hm
    rw [List.map_cons, Term.renumber_concats, List.map_reverse] at ih
    rw [hact]
    exact ih
  | repetition hpart hitems hnext ih =>
    obtain ⟨m, hm, hact⟩ := exists_act_nested hpart (hnext.isClear hclear) hm k names more
    rw [hact, Part.act, repeatLast_map_renumber, hitems]
    exact ih hclear hm
  | atom hpart hnext ih | bracket hpart hnext ih | setFlags hpart hnext ih =>
    obtain ⟨m, hm, hact⟩ := exists_act_nested hpart (hnext.isClear hclear) hm k names more
    rw [hact]
    exact ih hclear hm
  | @group n items branches s after s' t u rest rest' o hpart hname hinner hclose hnext ihinner
      ih =>
    -- the contents end at a parenthesis of their own, so nothing is asked of their mode
    have hafter : IsClear after.verbose after.rest := .inr (by simp [hclose])
    have hrest : IsClear ((Part.opening o).mode s.verbose) rest := by
      have henter := hinner.isClear hafter
      cases o <;> exact henter
    obtain ⟨m, hm, hact⟩ := exists_act_nested hpart hrest hm k names more
    rw [hact, Part.act, o.enter_nested]
    split
    · next hclash =>
      obtain ⟨name, hname, hmem⟩ := o.exists_of_clashes hname hclash
      refine .inr ⟨rfl, fun hdisjoint ↦ ?_⟩
      exact hdisjoint (hnext.names_subset (hinner.names_subset (hmem s rest))) hname
    · rcases ihinner hafter hm with hok | ⟨herror, hmeet⟩
      · have hclose' : (after.nested k names more).rest = ')' :: (rest' ++ ')' :: more) := by
          rw [ParserState.nested, hclose, List.cons_append]
        have ih := ih hclear hm
        rw [List.map_cons, o.wrap_renumber, Nat.add_right_comm] at ih
        rw [List.map_nil] at hok
        rw [hok]
        simp only [bind, Except.bind, hclose']
        exact ih
      · -- a name that is taken within the contents is taken by the whole
        rw [List.map_nil] at herror
        refine .inr ⟨?_, fun hdisjoint ↦ hmeet ?_⟩
        · rw [herror]
          rfl
        · exact List.disjoint_of_subset_left hnext.names_subset hdisjoint

/-! ### Expressions of their own -/

/-- Whether a text reads as a term, with a number of groups and their names, and ends outside of
the verbose mode. -/
def StandsFor (cs : List Char) (t : Term) (captures : Nat) (names : List (List Char)) : Prop :=
  readBranches (cs.length + 1) [] [] ⟨cs, false, 0, []⟩ = .ok (t, ⟨[], false, captures, names⟩)

/-- Whether a text is an expression of its own. -/
def StandsAlone (cs : List Char) : Prop := ∃ t captures names, StandsFor cs t captures names

/-- Whether reading came to the end of the text and outside of the verbose mode. -/
def endsPlain : Except Error (Term × ParserState) → Bool
  | .ok (_, s) => s.rest.isEmpty && !s.verbose
  | .error _ => false

/-- Whether a text is an expression of its own can be found out by reading it. -/
theorem standsAlone_iff {cs : List Char} :
    StandsAlone cs ↔ endsPlain (readBranches (cs.length + 1) [] [] ⟨cs, false, 0, []⟩) := by
  constructor
  · rintro ⟨t, captures, names, h⟩
    rw [h]
    rfl
  · intro h
    unfold endsPlain at h
    split at h
    · next t s hread =>
      obtain ⟨rest, verbose, captures, names⟩ := s
      obtain ⟨rfl, rfl⟩ : rest = [] ∧ verbose = false := by simpa using h
      exact ⟨t, captures, names, hread⟩
    · simp at h

instance (cs : List Char) : Decidable (StandsAlone cs) :=
  decidable_of_iff _ standsAlone_iff.symm

section

variable {cs : List Char} {t : Term} {captures : Nat} {names : List (List Char)}

/-- No expression begins with a question mark, since there is nothing before it to be repeated. -/
theorem StandsFor.head?_ne (h : StandsFor cs t captures names) : cs.head? ≠ some '?' := by
  intro hhead
  obtain ⟨r, rfl⟩ : ∃ r, cs = '?' :: r := by
    cases cs with
    | nil => simp at hhead
    | cons c r => exact ⟨r, by rw [Option.some.inj hhead]⟩
  rw [StandsFor, readBranches_succ] at h
  simp [readPart, skip, repetitionPart, Part.act, repeatLast, bind, Except.bind] at h

/-- A group around an expression of its own is that expression, with its groups behind those before,
unless one of its names is taken. -/
theorem StandsFor.readBranches_group (h : StandsFor cs t captures names) {s : ParserState}
    {o : Opening} {more : List Char} {k : Nat}
    (hpart : readPart s.verbose s.rest = .ok (.opening o, cs ++ ')' :: more))
    (hname : o.clashes s.names = false)
    (henter : o.enter s (cs ++ ')' :: more) =
      (⟨cs, false, 0, []⟩ : ParserState).nested k s.names more)
    {m : Nat} (hm : cs.length < m) (items branches : List Term) :
    readBranches (m + 1) items branches s =
        readBranches m (o.wrap (s.captures + 1) (t.shift k) :: items) branches
          ⟨more, s.verbose, captures + k, names ++ s.names⟩ ∨
      readBranches (m + 1) items branches s = .error .invalidGroupName ∧
        ¬ names.Disjoint s.names := by
  rw [readBranches_succ, hpart]
  simp only [bind, Except.bind, Part.act, hname, henter, Bool.false_eq_true, if_false]
  rcases (reads_of_readBranches h).nested (.inl rfl) hm k s.names more with hok | ⟨herror, hmeet⟩
  · rw [List.map_nil] at hok
    rw [hok]
    exact .inl rfl
  · rw [List.map_nil] at herror
    rw [herror]
    exact .inr ⟨rfl, hmeet⟩

/-- A group that does not capture holds the expression with its groups numbered further on. Nothing
is read if one of its names has been given already. -/
theorem StandsFor.readBranches_plain (h : StandsFor cs t captures names) {m : Nat}
    (hm : cs.length < m) (items branches : List Term) (more : List Char) (k : Nat)
    (given : List (List Char)) :
    readBranches (m + 1) items branches
          ⟨['(', '?', ':'] ++ cs ++ ')' :: more, false, k, given⟩ =
        readBranches m (.group [] (t.shift k) :: items) branches
          ⟨more, false, captures + k, names ++ given⟩ ∨
      readBranches (m + 1) items branches
          ⟨['(', '?', ':'] ++ cs ++ ')' :: more, false, k, given⟩ = .error .invalidGroupName ∧
        ¬ names.Disjoint given := by
  refine h.readBranches_group (o := .plain []) rfl rfl ?_ hm items branches
  simp [Opening.enter, ParserState.nested, FlagChange.verbose, FlagChange.value?]

/-- What opens a group that is numbered is the parenthesis alone. -/
theorem readPart_capture_of_head?_ne {cs : List Char} (h : cs.head? ≠ some '?') :
    readPart false ('(' :: cs) = .ok (.opening (.capture none), cs) := by
  have hhead : readGroupHead false cs = .ok (.numbered, cs) := by
    cases cs with
    | nil => rfl
    | cons c cs =>
      have hc : c ≠ '?' := fun heq ↦ h (by rw [heq]; rfl)
      simp [readGroupHead, skip, hc]
  show (readGroupHead false cs).map _ = _
  rw [hhead]
  rfl

/-- What begins with no question mark does not begin with one in front of a parenthesis either. -/
theorem head?_append_close_ne {cs : List Char} (h : cs.head? ≠ some '?') (more : List Char) :
    (cs ++ ')' :: more).head? ≠ some '?' := by
  cases cs with
  | nil => simp
  | cons c cs => exact h

/-- A parenthesis in front of an expression that begins with no question mark opens a group with a
number. -/
theorem StandsFor.readPart_capture (h : StandsFor cs t captures names) (more : List Char) :
    readPart false ('(' :: cs ++ ')' :: more) =
      .ok (.opening (.capture none), cs ++ ')' :: more) :=
  readPart_capture_of_head?_ne (head?_append_close_ne h.head?_ne more)

/-- A group with a number holds the expression, whose groups are numbered behind it. -/
theorem StandsFor.readBranches_capture (h : StandsFor cs t captures names) {m : Nat}
    (hm : cs.length < m) (items branches : List Term) (more : List Char) (k : Nat)
    (given : List (List Char)) :
    readBranches (m + 1) items branches ⟨'(' :: cs ++ ')' :: more, false, k, given⟩ =
        readBranches m (.capture (k + 1) (t.shift (k + 1)) :: items) branches
          ⟨more, false, captures + (k + 1), names ++ given⟩ ∨
      readBranches (m + 1) items branches ⟨'(' :: cs ++ ')' :: more, false, k, given⟩ =
          .error .invalidGroupName ∧
        ¬ names.Disjoint given := by
  refine h.readBranches_group (o := .capture none) (h.readPart_capture more) rfl ?_ hm items
    branches
  simp [Opening.enter, ParserState.nested]

end

end ModeLexer.Regex
