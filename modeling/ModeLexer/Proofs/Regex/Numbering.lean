import ModeLexer.Proofs.Regex.Attempt
import ModeLexer.Proofs.Regex.Nesting

/-!
# Numbers of groups

Groups are numbered in the order of their opening parentheses, from one on (`Reads.groups_eq`).
Giving the flags their effect and making a program can repeat a group or drop it, but neither gives
a group another number (`Expr.groups_subset_of_resolve`, `Expr.groups_compile_subset`). What a run
records are groups of the program that is run (`MatchState.Records`), and what is found are groups
with numbers up to the largest one (`group?_eq_none`).
-/

namespace ModeLexer.Regex

/-! ### In terms -/

namespace Term

/-- The numbers of the groups of a term, in the order of their opening parentheses. -/
def groups : Term → List Nat
  | empty | atom _ | bracket _ | setFlags _ => []
  | capture i t => i :: t.groups
  | group _ t | repetition _ _ _ t => t.groups
  | concat a b | alternate a b => a.groups ++ b.groups

/-- The groups of a term that is read further on have higher numbers. -/
theorem groups_shift (k : Nat) (t : Term) : (t.shift k).groups = t.groups.map (· + k) := by
  induction t with
  | empty | atom | bracket | setFlags => rfl
  | capture i t ih => exact congrArg (List.cons (i + k)) ih
  | group _ t ih | repetition _ _ _ t ih => exact ih
  | concat a b iha ihb | alternate a b iha ihb =>
    rw [shift, groups, groups, List.map_append, iha, ihb]

/-- The groups of a concatenation are those of its terms, one after the other. -/
theorem groups_concats (ts : List Term) : (concats ts).groups = ts.flatMap groups := by
  induction ts with
  | nil => rfl
  | cons t ts ih =>
    rw [List.flatMap_cons, ← ih]
    cases ts with
    | nil => exact (List.append_nil _).symm
    | cons t' ts => rfl

/-- The groups of an alternation are those of its branches, one after the other. -/
theorem groups_alternates (ts : List Term) : (alternates ts).groups = ts.flatMap groups := by
  induction ts with
  | nil => rfl
  | cons t ts ih =>
    rw [List.flatMap_cons, ← ih]
    cases ts with
    | nil => exact (List.append_nil _).symm
    | cons t' ts => rfl

end Term

/-- The groups of what has been read so far, the last item and the last branch standing first. -/
def groupsRead (items branches : List Term) : List Nat :=
  branches.reverse.flatMap Term.groups ++ items.reverse.flatMap Term.groups

/-- The groups of an item that is read next come last. -/
theorem groupsRead_cons (t : Term) (items branches : List Term) :
    groupsRead (t :: items) branches = groupsRead items branches ++ t.groups := by
  simp [groupsRead]

/-- A bar only puts items together. -/
theorem groupsRead_branch (items branches : List Term) :
    groupsRead [] (.concats items.reverse :: branches) = groupsRead items branches := by
  simp [groupsRead, Term.groups_concats]

/-- A repetition of the last item has its groups. -/
theorem groupsRead_repeatLast {min : Nat} {max : Option Nat} {greedy : Bool}
    {items items' : List Term} (h : repeatLast min max greedy items = .ok items')
    (branches : List Term) : groupsRead items' branches = groupsRead items branches := by
  obtain ⟨t, ts, rfl, -, rfl⟩ := exists_of_repeatLast h
  rw [groupsRead_cons, groupsRead_cons]
  rfl

/-- A group takes the next number or none, and its contents come after it. -/
theorem Opening.exists_groups_wrap (o : Opening) (s : ParserState) (rest : List Char) (t : Term) :
    ∃ e, (o.enter s rest).captures = s.captures + e ∧
      (o.wrap (s.captures + 1) t).groups = List.range' (s.captures + 1) e ++ t.groups := by
  cases o with
  | plain fc => exact ⟨0, rfl, rfl⟩
  | capture name => exact ⟨1, rfl, rfl⟩

/-- The groups that a run reads get the next numbers, in the order in which they are opened. -/
theorem Reads.groups_eq {n : Nat} {items branches : List Term} {s s' : ParserState} {t : Term}
    (h : Reads n items branches s t s') :
    ∃ d, s'.captures = s.captures + d ∧
      t.groups = groupsRead items branches ++ List.range' (s.captures + 1) d := by
  induction h with
  | stop =>
    refine ⟨0, rfl, ?_⟩
    rw [Term.groups_alternates]
    simp [groupsRead, Term.groups_concats]
  | bar _ _ ih =>
    rw [groupsRead_branch] at ih
    exact ih
  | repetition _ hitems _ ih =>
    rw [groupsRead_repeatLast hitems] at ih
    exact ih
  | atom _ _ ih | bracket _ _ ih | setFlags _ _ ih =>
    rw [groupsRead_cons] at ih
    simpa [Term.groups] using ih
  | @group _ items branches s after s' _ u rest _ o _ _ _ _ _ ihinner ih =>
    obtain ⟨d, hafter, hu⟩ := ihinner
    obtain ⟨d', hs', ht⟩ := ih
    obtain ⟨e, henter, hwrap⟩ := o.exists_groups_wrap s rest u
    rw [henter] at hafter hu
    refine ⟨e + d + d', by rw [hs']; show after.captures + d' = _; omega, ?_⟩
    rw [ht, groupsRead_cons, hwrap, hu]
    show groupsRead items branches ++ (List.range' (s.captures + 1) e ++
      ([] ++ List.range' (s.captures + e + 1) d)) ++ List.range' (after.captures + 1) d' = _
    rw [hafter, List.nil_append, List.append_assoc, List.append_assoc]
    have hd : s.captures + 1 + e = s.captures + e + 1 := by omega
    have hd' : s.captures + 1 + (e + d) = s.captures + e + d + 1 := by omega
    rw [← List.range'_append_1, ← List.range'_append_1, hd, hd', List.append_assoc]

/-- The groups of an expression of its own are numbered from one on. -/
theorem StandsFor.groups_eq {cs : List Char} {t : Term} {captures : Nat}
    {names : List (List Char)} (h : StandsFor cs t captures names) :
    t.groups = List.range' 1 captures := by
  obtain ⟨d, hd, ht⟩ := (reads_of_readBranches h).groups_eq
  rw [Nat.zero_add] at hd
  rw [ht, ← hd]
  rfl

/-! ### In expressions -/

namespace Expr

/-- The numbers of the groups of an expression. -/
def groups : Expr → List Nat
  | empty | set _ | look _ => []
  | capture i e => i :: e.groups
  | repetition _ _ _ e => e.groups
  | concat a b | alternate a b => a.groups ++ b.groups

/-- A repetition that is simplified has no group that was not there before. -/
theorem groups_repeated_subset (min : Nat) (max : Option Nat) (greedy : Bool) (e : Expr) :
    (repeated min max greedy e).groups ⊆ e.groups := by
  unfold repeated
  simp only
  split
  · exact List.nil_subset _
  · exact List.Subset.refl _
  · exact List.Subset.refl _

/-- No atom captures anything. -/
theorem groups_eq_nil_of_resolve {f : Flags} {a : Atom} {e : Expr} (h : a.resolve f = .ok e) :
    e.groups = [] := by
  cases a with
  | anchor a =>
    obtain rfl := Except.ok.inj h
    rfl
  | literal c =>
    obtain rfl := Except.ok.inj h
    rfl
  | byte | dot | charClass | property =>
    obtain ⟨s, -, h⟩ := bind_eq_ok.1 h
    obtain rfl := pure_eq_ok.1 h
    rfl

/-- The expression of a term has no group that the term has not. -/
theorem groups_subset_of_resolve {f f' : Flags} {t : Term} {e : Expr}
    (h : t.resolve f = .ok (e, f')) : e.groups ⊆ t.groups := by
  induction t generalizing f f' e with
  | empty | setFlags =>
    obtain ⟨rfl, -⟩ := Prod.mk.inj (Except.ok.inj h)
    exact List.nil_subset _
  | atom a =>
    obtain ⟨e', he, h⟩ := bind_eq_ok.1 h
    obtain ⟨rfl, -⟩ := Prod.mk.inj (pure_eq_ok.1 h)
    rw [groups_eq_nil_of_resolve he]
    exact List.nil_subset _
  | bracket b =>
    obtain ⟨s, -, h⟩ := bind_eq_ok.1 h
    obtain ⟨rfl, -⟩ := Prod.mk.inj (pure_eq_ok.1 h)
    exact List.nil_subset _
  | capture i t ih =>
    obtain ⟨⟨e', f''⟩, he, h⟩ := bind_eq_ok.1 h
    obtain ⟨rfl, -⟩ := Prod.mk.inj (pure_eq_ok.1 h)
    exact List.cons_subset_cons i (ih he)
  | group fc t ih =>
    obtain ⟨⟨e', f''⟩, he, h⟩ := bind_eq_ok.1 h
    obtain ⟨rfl, -⟩ := Prod.mk.inj (pure_eq_ok.1 h)
    exact ih he
  | repetition min max greedy t ih =>
    obtain ⟨⟨e', f''⟩, he, h⟩ := bind_eq_ok.1 h
    obtain ⟨rfl, -⟩ := Prod.mk.inj (pure_eq_ok.1 h)
    exact List.Subset.trans (groups_repeated_subset ..) (ih he)
  | concat a b iha ihb | alternate a b iha ihb =>
    obtain ⟨⟨a', f₁⟩, ha, h⟩ := bind_eq_ok.1 h
    obtain ⟨⟨b', f₂⟩, hb, h⟩ := bind_eq_ok.1 h
    obtain ⟨rfl, -⟩ := Prod.mk.inj (pure_eq_ok.1 h)
    exact List.append_subset.2 ⟨List.subset_append_of_subset_left _ (iha ha),
      List.subset_append_of_subset_right _ (ihb hb)⟩

end Expr

/-! ### In programs -/

/-- A choice between a program and nothing has the groups of the program. -/
theorem Program.groups_prefer (guard : Option Nat) (greedy : Bool) (p : Program) :
    (prefer guard greedy p .empty).groups = p.groups := by
  cases greedy
  · rfl
  · exact List.append_nil _

namespace Compile

/-- Whether all that is made has groups of given numbers only. -/
def GroupsIn (is : List Nat) (make : Compile Program) : Prop := ∀ n, (make n).1.groups ⊆ is

/-- Copies of a program have its groups only. -/
theorem GroupsIn.copies {is : List Nat} {make last : Compile Program} (hmake : GroupsIn is make)
    (hlast : GroupsIn is last) (k : Nat) : GroupsIn is (copies make last k) := by
  induction k with
  | zero => exact hlast
  | succ k ih => exact fun n ↦ List.append_subset.2 ⟨hmake n, ih _⟩

/-- Optional copies of a program have its groups only. -/
theorem GroupsIn.optionalCopies {is : List Nat} {make : Compile Program} (hmake : GroupsIn is make)
    (needGuard greedy : Bool) (k : Nat) :
    GroupsIn is (optionalCopies needGuard greedy make k) := by
  induction k with
  | zero => exact fun n ↦ List.nil_subset _
  | succ k ih =>
    intro n
    show (Program.prefer _ greedy (.seq _ _) .empty).groups ⊆ is
    rw [Program.groups_prefer]
    exact List.append_subset.2 ⟨hmake _, ih _⟩

end Compile

namespace Expr

/-- The program of an expression has no group that the expression has not. There may be fewer,
because something may be repeated no times. -/
theorem groups_compile_subset (e : Expr) (inLoop : Bool) :
    Compile.GroupsIn e.groups (e.compile inLoop) := by
  induction e generalizing inLoop with
  | empty | set | look => exact fun n ↦ List.nil_subset _
  | capture i e ih => exact fun n ↦ List.cons_subset_cons i (ih inLoop n)
  | concat a b iha ihb | alternate a b iha ihb =>
    exact fun n ↦ List.append_subset.2 ⟨List.subset_append_of_subset_left _ (iha inLoop _),
      List.subset_append_of_subset_right _ (ihb inLoop _)⟩
  | repetition min max greedy e ih =>
    match max, min with
    | some max, min =>
      rw [compile]
      exact Compile.GroupsIn.copies (ih inLoop)
        (Compile.GroupsIn.optionalCopies (ih inLoop) inLoop greedy (max - min)) min
    | none, 0 =>
      intro n
      rw [compile]
      split
      · exact ih inLoop _
      · show (Program.prefer _ greedy (.plus _ greedy _) .empty).groups ⊆ e.groups
        rw [Program.groups_prefer]
        exact ih true _
    | none, min + 1 =>
      rw [compile]
      refine Compile.GroupsIn.copies (ih inLoop) (fun n ↦ ?_) min
      exact ih (inLoop || !e.consumes) _

end Expr

namespace MatchState

/-- Whether what has been recorded between two states are groups with given numbers. -/
def Records (is : List Nat) (s s' : MatchState) : Prop :=
  ∃ new, s'.groups = new ++ s.groups ∧ ∀ g ∈ new, g.1 ∈ is

/-- What a program records in one step is a group of its own. -/
theorem allowsMoves_records (is : List Nat) : AllowsMoves is (Records is) where
  refl s := ⟨[], rfl, nofun⟩
  trans := by
    rintro s s' s'' ⟨new, hnew, hmem⟩ ⟨new', hnew', hmem'⟩
    refine ⟨new' ++ new, by rw [hnew', hnew, List.append_assoc], fun g hg ↦ ?_⟩
    exact (List.mem_append.1 hg).elim (hmem' g) (hmem g)
  advance _ := ⟨[], rfl, nofun⟩
  pass hpass := ⟨[], (pass_eq hpass).2.2, nofun⟩
  record := by
    rintro s s' index hindex ⟨new, hnew, hmem⟩
    refine ⟨(index, ⟨s.offset, s'.offset⟩) :: new, by rw [record, hnew, List.cons_append], ?_⟩
    rintro g (_ | ⟨_, hg⟩)
    · exact hindex
    · exact hmem g hg

/-- What is recorded behind a group under other numbers leaves that group what it was. -/
theorem Records.lookup_eq {is : List Nat} {s s' : MatchState} (h : s.Records is s') {i : Nat}
    (hi : i ∉ is) : s'.groups.lookup i = s.groups.lookup i := by
  obtain ⟨new, hnew, hmem⟩ := h
  have hnone : new.lookup i = none := by
    rw [List.lookup_eq_none_iff]
    exact fun g hg ↦ by simpa using fun heq : i = g.1 ↦ hi (heq ▸ hmem g hg)
  rw [hnew, List.lookup_append, hnone, Option.none_or]

end MatchState

/-! ### In matches -/

/-- No group has a larger number than the largest. -/
theorem Expr.le_maxGroup {e : Expr} {i : Nat} (h : i ∈ e.groups) : i ≤ e.maxGroup := by
  induction e with
  | empty | set | look => simp [groups] at h
  | capture j e ih =>
    rcases List.mem_cons.1 h with rfl | h
    · exact Nat.le_max_left _ _
    · exact Nat.le_trans (ih h) (Nat.le_max_right _ _)
  | concat a b iha ihb | alternate a b iha ihb =>
    rcases List.mem_append.1 h with h | h
    · exact Nat.le_trans (iha h) (Nat.le_max_left _ _)
    · exact Nat.le_trans (ihb h) (Nat.le_max_right _ _)
  | repetition _ _ _ e ih => exact ih h

/-- An expression is read if its term is not nested too deep and can take its flags. -/
theorem Expr.parse_eq_ok {cs : List Char} {e : Expr} :
    Expr.parse cs = .ok e ↔
      ∃ t f, Term.parse cs = .ok t ∧ t.depth ≤ nestLimit ∧ t.resolve {} = .ok (e, f) := by
  rw [Expr.parse, bind_eq_ok]
  constructor
  · rintro ⟨t, ht, h⟩
    split at h
    · simp at h
    · next hdepth =>
      obtain ⟨⟨e, f⟩, hresolve, he⟩ := bind_eq_ok.1 h
      obtain rfl := pure_eq_ok.1 he
      exact ⟨t, f, ht, Nat.le_of_not_lt hdepth, hresolve⟩
  · rintro ⟨t, f, ht, hdepth, hresolve⟩
    refine ⟨t, ht, ?_⟩
    rw [if_neg (Nat.not_lt.2 hdepth)]
    exact bind_eq_ok.2 ⟨(e, f), hresolve, rfl⟩

-- one group more than there may be
example :
    Expr.parse (List.replicate 251 '(' ++ 'a' :: List.replicate 251 ')') = .error .tooDeep := by
  decide +kernel

section

variable [SizeLimit]

/-- An expression compiles if it is read and its program is not too large. -/
theorem compile_eq_ok {cs : List Char} {r : Regex} :
    compile cs = .ok r ↔
      ∃ e, Expr.parse cs = .ok e ∧ SizeLimit.fits cs ∧ r = ⟨(e.compile false 0).1, e.maxGroup⟩ := by
  rw [compile, bind_eq_ok]
  refine exists_congr fun e ↦ and_congr_right fun _ ↦ ?_
  split
  · next hfits => exact pure_eq_ok.trans (by simp [hfits, eq_comm])
  · next hfits => simp [hfits]

/-- What is compiled is the expression of a term. -/
theorem exists_term_of_compile {cs : List Char} {r : Regex} (h : compile cs = .ok r) :
    ∃ t e f, Term.parse cs = .ok t ∧ t.resolve {} = .ok (e, f) ∧
      r = ⟨(e.compile false 0).1, e.maxGroup⟩ := by
  obtain ⟨e, he, -, hr⟩ := compile_eq_ok.1 h
  obtain ⟨t, f, ht, -, hresolve⟩ := Expr.parse_eq_ok.1 he
  exact ⟨t, e, f, ht, hresolve, hr⟩

/-- A term that can take its flags compiles if it keeps to the limits. -/
theorem exists_compile_iff {cs : List Char} {t : Term} {e : Expr} {f : Flags}
    (hparse : Term.parse cs = .ok t) (ht : t.resolve {} = .ok (e, f)) :
    (∃ r, compile cs = .ok r) ↔ t.depth ≤ nestLimit ∧ SizeLimit.fits cs := by
  constructor
  · rintro ⟨r, hr⟩
    obtain ⟨e', he, hfits, -⟩ := compile_eq_ok.1 hr
    obtain ⟨t', f', ht', hdepth, -⟩ := Expr.parse_eq_ok.1 he
    obtain rfl := Except.ok.inj (hparse.symm.trans ht')
    exact ⟨hdepth, hfits⟩
  · rintro ⟨hdepth, hfits⟩
    exact ⟨_, compile_eq_ok.2 ⟨e, Expr.parse_eq_ok.2 ⟨t, f, hparse, hdepth, ht⟩, hfits, rfl⟩⟩

end

/-- What a search has recorded are groups of the program, wherever the match is found. -/
theorem mem_groups_of_search {p : Program} {m : Match} {cs : List Char} :
    ∀ {before : Option Char} {offset : Nat}, search p before offset cs = some m →
      ∀ g ∈ m.groups, g.1 ∈ p.groups := by
  have hmatch {s s' : MatchState} (hs : s.groups = []) (h : p.match? s = some s') :
      ∀ g ∈ s'.groups, g.1 ∈ p.groups := by
    obtain ⟨r, ⟨new, hnew, hmem⟩, hr⟩ :=
      Program.exists_of_run (MatchState.allowsMoves_records p.groups) h
    obtain rfl := Option.some.inj hr
    rwa [hnew, hs, List.append_nil]
  induction cs with
  | nil =>
    intro before offset h
    rw [search] at h
    split at h
    · next s hs =>
      obtain rfl := Option.some.inj h
      exact hmatch rfl hs
    · simp at h
  | cons c cs ih =>
    intro before offset h
    rw [search] at h
    split at h
    · next s hs =>
      obtain rfl := Option.some.inj h
      exact hmatch rfl hs
    · split at h
      · simp at h
      · exact ih h

/-- No group has a number beyond the largest one. -/
theorem group?_eq_none [SizeLimit] {cs : List Char} {r : Regex} (hr : compile cs = .ok r)
    {text : List Char} {m : Match} (h : r.find? text = some m) {i : Nat} (hi : r.groupCount < i) :
    m.group? i = none := by
  obtain ⟨e, -, -, rfl⟩ := compile_eq_ok.1 hr
  refine List.lookup_eq_none_iff.2 fun g hg ↦ ?_
  have hmem := e.groups_compile_subset false 0 (mem_groups_of_search h g hg)
  have hlt : g.1 < i := Nat.lt_of_le_of_lt (Expr.le_maxGroup hmem) hi
  simpa using Nat.ne_of_gt hlt

end ModeLexer.Regex
