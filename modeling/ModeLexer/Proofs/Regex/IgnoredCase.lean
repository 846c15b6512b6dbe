import ModeLexer.Proofs.Regex.Numbering
import ModeLexer.Proofs.Unicode.AsciiCase

/-!
# Expressions in which case does not matter

An expression that begins with `(?i)` and nowhere clears the flag again has case-blind sets only
(`caseBlind_of_compile`). The flag is in effect from the first item on, through all branches and
groups, and under it every literal, property and class is closed under changes of case before a
complement is taken of it. A class is closed as a whole, whatever operations it is made of: what is
read as a class is always one with its brackets around it (`Reads.bracketsNested`).
-/

namespace ModeLexer.Regex

open Unicode

/-! ### Sets under the flag -/

namespace Flags

variable {f : Flags}

/-- Under the flag a set is closed under changes of case. -/
theorem caseBlind_close (hf : f.ignoreCase) (s : CharSet) : (f.close s).CaseBlind := by
  rw [close, if_pos hf]
  split
  · exact CharSet.caseBlind_variants s
  · exact CharSet.caseBlind_asciiVariants s

/-- The complement of a case-blind set is case-blind. -/
theorem caseBlind_of_negate {negated : Bool} {s s' : CharSet} (hs : s.CaseBlind)
    (h : f.negate negated s = .ok s') : s'.CaseBlind := by
  unfold negate at h
  split at h
  · split at h
    · obtain rfl := Except.ok.inj h
      exact hs.compl
    · simp at h
  · obtain rfl := Except.ok.inj h
    exact hs

/-- The digits, blanks and word characters are case-blind, among all characters and among those of
ASCII. -/
theorem caseBlind_of_charClass {k : CharClass} {negated : Bool} {s : CharSet}
    (h : f.charClass k negated = .ok s) : s.CaseBlind := by
  refine caseBlind_of_negate ?_ h
  split
  · exact CharSet.caseBlind_charClass k
  · exact CharSet.caseBlind_asciiClass k

/-- A property is closed before a complement is taken of it. -/
theorem caseBlind_of_property (hf : f.ignoreCase) {s s' : CharSet} {negated : Bool}
    (h : f.property s negated = .ok s') : s'.CaseBlind := by
  unfold property at h
  split at h
  · exact caseBlind_of_negate (caseBlind_close hf s) h
  · simp at h

/-- The dot leaves out line breaks, which have no case. -/
theorem caseBlind_of_dot {s : CharSet} (h : f.dot = .ok s) : s.CaseBlind := by
  unfold dot at h
  split at h
  · simp at h
  · split at h
    · obtain rfl := Except.ok.inj h
      exact CharSet.caseBlind_all
    · split at h
      · obtain rfl := Except.ok.inj h
        exact ((CharSet.caseBlind_lineEnd (by decide)).union
          (CharSet.caseBlind_lineEnd (by decide))).compl
      · obtain rfl := Except.ok.inj h
        exact (CharSet.caseBlind_lineEnd (by decide)).compl

end Flags

/-- Whether a class has its brackets around it. -/
def Bracket.IsNested (b : Bracket) : Prop := ∃ negated inner, b = .nested negated inner

/-- A class with its brackets around it is closed as a whole. -/
theorem Bracket.IsNested.caseBlind {f : Flags} (hf : f.ignoreCase) {b : Bracket} (hb : b.IsNested)
    {s : CharSet} (h : b.resolve f = .ok s) : s.CaseBlind := by
  obtain ⟨negated, inner, rfl⟩ := hb
  obtain ⟨s', -, h⟩ := bind_eq_ok.1 h
  exact Flags.caseBlind_of_negate (Flags.caseBlind_close hf s') h

/-! ### Expressions -/

namespace Expr

/-- Whether all sets of an expression are case-blind. -/
def CaseBlind : Expr → Prop
  | empty | look _ => True
  | set s => s.CaseBlind
  | capture _ e | repetition _ _ _ e => e.CaseBlind
  | concat a b | alternate a b => a.CaseBlind ∧ b.CaseBlind

/-- A repetition has the sets of what it repeats. -/
theorem CaseBlind.repeated {e : Expr} (he : e.CaseBlind) (min : Nat) (max : Option Nat)
    (greedy : Bool) : (repeated min max greedy e).CaseBlind := by
  simp only [Expr.repeated]
  split
  · exact trivial
  · exact he
  · exact he

end Expr

/-- Every atom resolves to a case-blind set or to none at all. -/
theorem Atom.caseBlind {f : Flags} (hf : f.ignoreCase) {a : Atom} {e : Expr}
    (h : a.resolve f = .ok e) : e.CaseBlind := by
  cases a with
  | anchor a =>
    obtain rfl := Except.ok.inj h
    exact trivial
  | literal c =>
    obtain rfl := Except.ok.inj h
    exact Flags.caseBlind_close hf (.single c)
  | byte c =>
    obtain ⟨s, -, h⟩ := bind_eq_ok.1 h
    obtain rfl := pure_eq_ok.1 h
    exact Flags.caseBlind_close hf s
  | dot =>
    obtain ⟨s, hs, h⟩ := bind_eq_ok.1 h
    obtain rfl := pure_eq_ok.1 h
    exact Flags.caseBlind_of_dot hs
  | charClass k negated =>
    obtain ⟨s, hs, h⟩ := bind_eq_ok.1 h
    obtain rfl := pure_eq_ok.1 h
    exact Flags.caseBlind_of_charClass hs
  | property s negated =>
    obtain ⟨s', hs, h⟩ := bind_eq_ok.1 h
    obtain rfl := pure_eq_ok.1 h
    exact Flags.caseBlind_of_property hf hs

/-! ### Terms -/

namespace Term

/-- The changes of flags in a term, in their order. -/
def changes : Term → List FlagChange
  | empty | atom _ | bracket _ => []
  | setFlags fc => [fc]
  | capture _ t | repetition _ _ _ t => t.changes
  | group fc t => fc :: t.changes
  | concat a b | alternate a b => a.changes ++ b.changes

/-- Whether no change of flags in a term makes case matter. -/
def keepsIgnoringCase (t : Term) : Bool :=
  t.changes.all fun fc ↦ fc.value? .ignoreCase != some false

/-- Whether case does not matter from the first item of a term on. -/
def startsIgnoringCase : Term → Bool
  | setFlags fc => fc.value? .ignoreCase = some true
  | concat a _ | alternate a _ => a.startsIgnoringCase
  | _ => false

/-- Whether all classes in a term have their brackets around them. -/
def BracketsNested : Term → Prop
  | empty | atom _ | setFlags _ => True
  | bracket b => b.IsNested
  | capture _ t | group _ t | repetition _ _ _ t => t.BracketsNested
  | concat a b | alternate a b => a.BracketsNested ∧ b.BracketsNested

/-- A change of flags that does not clear the flag leaves it set. -/
theorem ignoreCase_apply {f : Flags} {fc : FlagChange} (hf : f.ignoreCase)
    (hfc : fc.value? .ignoreCase ≠ some false) : (f.apply fc).ignoreCase := by
  show (fc.value? .ignoreCase).getD f.ignoreCase = true
  cases hvalue : fc.value? .ignoreCase with
  | none => exact hf
  | some v =>
    cases v with
    | false => exact absurd hvalue hfc
    | true => rfl

/-- Where case does not matter, or does not from the first item on, the sets of a term are
case-blind, and behind the term case does not matter either. -/
theorem caseBlind_of_resolve {t : Term}
    (hkeeps : ∀ fc ∈ t.changes, fc.value? .ignoreCase ≠ some false)
    (hnested : t.BracketsNested) {f f' : Flags} (hf : f.ignoreCase ∨ t.startsIgnoringCase)
    {e : Expr} (h : t.resolve f = .ok (e, f')) : e.CaseBlind ∧ f'.ignoreCase := by
  induction t generalizing f f' e with
  | empty =>
    obtain ⟨rfl, rfl⟩ := Prod.mk.inj (Except.ok.inj h)
    exact ⟨trivial, hf.resolve_right Bool.false_ne_true⟩
  | atom a =>
    have hf := hf.resolve_right Bool.false_ne_true
    obtain ⟨e', he, h⟩ := bind_eq_ok.1 h
    obtain ⟨rfl, rfl⟩ := Prod.mk.inj (pure_eq_ok.1 h)
    exact ⟨Atom.caseBlind hf he, hf⟩
  | bracket b =>
    have hf := hf.resolve_right Bool.false_ne_true
    obtain ⟨s, hs, h⟩ := bind_eq_ok.1 h
    obtain ⟨rfl, rfl⟩ := Prod.mk.inj (pure_eq_ok.1 h)
    exact ⟨Bracket.IsNested.caseBlind hf hnested hs, hf⟩
  | setFlags fc =>
    obtain ⟨rfl, rfl⟩ := Prod.mk.inj (Except.ok.inj h)
    refine ⟨trivial, ?_⟩
    rcases hf with hf | hstart
    · exact ignoreCase_apply hf (hkeeps fc (List.mem_singleton_self fc))
    · show (fc.value? .ignoreCase).getD f.ignoreCase = true
      rw [of_decide_eq_true hstart, Option.getD_some]
  | capture i t ih =>
    have hf := hf.resolve_right Bool.false_ne_true
    obtain ⟨⟨e', f''⟩, he, h⟩ := bind_eq_ok.1 h
    obtain ⟨rfl, rfl⟩ := Prod.mk.inj (pure_eq_ok.1 h)
    exact ⟨(ih hkeeps hnested (.inl hf) he).1, hf⟩
  | group fc t ih =>
    have hf := hf.resolve_right Bool.false_ne_true
    obtain ⟨hfc, hkeeps⟩ := List.forall_mem_cons.1 hkeeps
    obtain ⟨⟨e', f''⟩, he, h⟩ := bind_eq_ok.1 h
    obtain ⟨rfl, rfl⟩ := Prod.mk.inj (pure_eq_ok.1 h)
    exact ⟨(ih hkeeps hnested (.inl (ignoreCase_apply hf hfc)) he).1, hf⟩
  | repetition min max greedy t ih =>
    have hf := hf.resolve_right Bool.false_ne_true
    obtain ⟨⟨e', f''⟩, he, h⟩ := bind_eq_ok.1 h
    obtain ⟨rfl, rfl⟩ := Prod.mk.inj (pure_eq_ok.1 h)
    obtain ⟨hblind, hf'⟩ := ih hkeeps hnested (.inl hf) he
    exact ⟨hblind.repeated .., hf'⟩
  | concat a b iha ihb | alternate a b iha ihb =>
    obtain ⟨hkeepsa, hkeepsb⟩ := List.forall_mem_append.1 hkeeps
    obtain ⟨⟨a', f₁⟩, ha, h⟩ := bind_eq_ok.1 h
    obtain ⟨⟨b', f₂⟩, hb, h⟩ := bind_eq_ok.1 h
    obtain ⟨rfl, rfl⟩ := Prod.mk.inj (pure_eq_ok.1 h)
    obtain ⟨hblinda, hf₁⟩ := iha hkeepsa hnested.1 hf ha
    obtain ⟨hblindb, hf₂⟩ := ihb hkeepsb hnested.2 (.inl hf₁) hb
    exact ⟨⟨hblinda, hblindb⟩, hf₂⟩

/-- The terms of a concatenation have their brackets around their classes, and so has the whole. -/
theorem bracketsNested_concats {ts : List Term} (h : ∀ t ∈ ts, t.BracketsNested) :
    (concats ts).BracketsNested := by
  induction ts with
  | nil => exact trivial
  | cons t ts ih =>
    obtain ⟨ht, hts⟩ := List.forall_mem_cons.1 h
    cases ts with
    | nil => exact ht
    | cons t' ts => exact ⟨ht, ih hts⟩

/-- The terms of an alternation have their brackets around their classes, and so has the whole. -/
theorem bracketsNested_alternates {ts : List Term} (h : ∀ t ∈ ts, t.BracketsNested) :
    (alternates ts).BracketsNested := by
  induction ts with
  | nil => exact trivial
  | cons t ts ih =>
    obtain ⟨ht, hts⟩ := List.forall_mem_cons.1 h
    cases ts with
    | nil => exact ht
    | cons t' ts => exact ⟨ht, ih hts⟩

/-- A concatenation begins with its first term. -/
theorem startsIgnoringCase_concats {t : Term} (h : t.startsIgnoringCase) (ts : List Term) :
    (concats (t :: ts)).startsIgnoringCase := by
  cases ts with
  | nil => exact h
  | cons t' ts => exact h

/-- An alternation begins with its first branch. -/
theorem startsIgnoringCase_alternates {t : Term} (h : t.startsIgnoringCase) (ts : List Term) :
    (alternates (t :: ts)).startsIgnoringCase := by
  cases ts with
  | nil => exact h
  | cons t' ts => exact h

end Term

/-! ### Terms that are read -/

/-- What the reader of classes gives has its brackets around it. -/
theorem isNested_of_readBracket {verbose : Bool} {cs rest : List Char} {b : Bracket}
    (h : readBracket verbose cs = .ok (b, rest)) : b.IsNested := by
  obtain ⟨⟨inner, rest'⟩, -, h⟩ := bind_eq_ok.1 h
  obtain ⟨rfl, -⟩ := Prod.mk.inj (pure_eq_ok.1 h)
  exact ⟨_, inner, rfl⟩

/-- A class that has been read as a part has its brackets around it. -/
theorem isNested_of_readPart {verbose : Bool} {cs rest : List Char} {b : Bracket}
    (h : readPart verbose cs = .ok (.bracket b, rest)) : b.IsNested := by
  rw [readPart_eq_ok] at h
  generalize skip verbose cs = cs at h
  cases h with
  | bracket h => exact isNested_of_readBracket h
  | @group _ _ head _ _ hpart => cases head <;> nomatch hpart

/-- What is read has brackets around all its classes. -/
theorem Reads.bracketsNested {n : Nat} {items branches : List Term} {s s' : ParserState} {t : Term}
    (h : Reads n items branches s t s') (hitems : ∀ u ∈ items, u.BracketsNested)
    (hbranches : ∀ u ∈ branches, u.BracketsNested) : t.BracketsNested := by
  have hbranch {items : List Term} (h : ∀ u ∈ items, u.BracketsNested) :
      (Term.concats items.reverse).BracketsNested :=
    Term.bracketsNested_concats fun u hu ↦ h u (List.mem_reverse.1 hu)
  induction h with
  | stop =>
    refine Term.bracketsNested_alternates fun u hu ↦ ?_
    exact List.forall_mem_cons.2 ⟨hbranch hitems, hbranches⟩ u (List.mem_reverse.1 hu)
  | bar _ _ ih =>
    exact ih (List.forall_mem_nil _) (List.forall_mem_cons.2 ⟨hbranch hitems, hbranches⟩)
  | repetition _ hrepeat _ ih =>
    obtain ⟨u, us, rfl, -, rfl⟩ := exists_of_repeatLast hrepeat
    obtain ⟨hu, hus⟩ := List.forall_mem_cons.1 hitems
    exact ih (List.forall_mem_cons.2 ⟨hu, hus⟩) hbranches
  | atom _ _ ih | setFlags _ _ ih => exact ih (List.forall_mem_cons.2 ⟨trivial, hitems⟩) hbranches
  | bracket hpart _ ih =>
    exact ih (List.forall_mem_cons.2 ⟨isNested_of_readPart hpart, hitems⟩) hbranches
  | @group _ _ _ _ _ _ _ _ _ _ o _ _ _ _ _ ihinner ih =>
    have hu := ihinner (List.forall_mem_nil _) (List.forall_mem_nil _)
    exact ih (List.forall_mem_cons.2 ⟨by cases o <;> exact hu, hitems⟩) hbranches

/-- Whether a change of flags is the first item of the first branch that has been read so far. -/
def BeginsWith (fc : FlagChange) (items branches : List Term) : Prop :=
  (branches = [] ∧ ∃ ts, items = ts ++ [.setFlags fc]) ∨
    ∃ bs ts, branches = bs ++ [.concats (.setFlags fc :: ts)]

/-- An item that is read later leaves the first one where it is. -/
theorem BeginsWith.cons {fc : FlagChange} {items branches : List Term}
    (h : BeginsWith fc items branches) (t : Term) : BeginsWith fc (t :: items) branches :=
  h.imp_left fun ⟨hbranches, ts, hitems⟩ ↦ ⟨hbranches, t :: ts, congrArg (t :: ·) hitems⟩

/-- A repetition takes the last item, and a change of flags cannot be repeated. -/
theorem BeginsWith.repeatLast {fc : FlagChange} {items items' branches : List Term} {min : Nat}
    {max : Option Nat} {greedy : Bool} (h : BeginsWith fc items branches)
    (hrepeat : repeatLast min max greedy items = .ok items') : BeginsWith fc items' branches := by
  obtain ⟨t, us, rfl, hne, rfl⟩ := exists_of_repeatLast hrepeat
  refine h.imp_left fun ⟨hbranches, ts, hitems⟩ ↦ ⟨hbranches, ?_⟩
  cases ts with
  | nil => exact absurd (List.cons.inj hitems).1 (hne fc)
  | cons t' ts => exact ⟨_ :: ts, congrArg (_ :: ·) (List.cons.inj hitems).2⟩

/-- At the end of a branch it is the first item of one of the branches, the first of them. -/
theorem BeginsWith.branch {fc : FlagChange} {items branches : List Term}
    (h : BeginsWith fc items branches) :
    ∃ bs ts, .concats items.reverse :: branches = bs ++ [.concats (.setFlags fc :: ts)] := by
  rcases h with ⟨rfl, ts, rfl⟩ | ⟨bs, ts, rfl⟩
  · exact ⟨[], ts.reverse, by rw [List.reverse_concat]; rfl⟩
  · exact ⟨_ :: bs, ts, rfl⟩

/-- What begins with a flag that makes case not matter does so when it has been read. -/
theorem Reads.startsIgnoringCase {n : Nat} {items branches : List Term} {s s' : ParserState}
    {t : Term} (h : Reads n items branches s t s') {fc : FlagChange}
    (hfc : fc.value? .ignoreCase = some true) (hbegins : BeginsWith fc items branches) :
    t.startsIgnoringCase := by
  induction h with
  | stop =>
    obtain ⟨bs, ts, heq⟩ := hbegins.branch
    have hfirst : (Term.setFlags fc).startsIgnoringCase := decide_eq_true hfc
    rw [heq, List.reverse_concat]
    exact Term.startsIgnoringCase_alternates (Term.startsIgnoringCase_concats hfirst ts) _
  | bar _ _ ih => exact ih (.inr hbegins.branch)
  | repetition _ hrepeat _ ih => exact ih (hbegins.repeatLast hrepeat)
  | atom _ _ ih | bracket _ _ ih | setFlags _ _ ih => exact ih (hbegins.cons _)
  | group _ _ _ _ _ _ ih => exact ih (hbegins.cons _)

/-! ### Programs -/

namespace Program

/-- Whether all sets of a program are case-blind. -/
def CaseBlind : Program → Prop
  | empty | look _ => True
  | set s => s.CaseBlind
  | capture _ p | star _ _ p | plus _ _ p => p.CaseBlind
  | seq p q | choice _ p q => p.CaseBlind ∧ q.CaseBlind

/-- A choice between a program and nothing has the sets of the program. -/
theorem CaseBlind.prefer {p : Program} (hp : p.CaseBlind) (guard : Option Nat) (greedy : Bool) :
    (prefer guard greedy p .empty).CaseBlind := by
  cases greedy
  · exact ⟨trivial, hp⟩
  · exact ⟨hp, trivial⟩

end Program

namespace Compile

/-- Whether all that is made is case-blind. -/
def CaseBlind (make : Compile Program) : Prop := ∀ n, (make n).1.CaseBlind

/-- Copies of a program have the sets of the program. -/
theorem CaseBlind.copies {make last : Compile Program} (hmake : CaseBlind make)
    (hlast : CaseBlind last) (k : Nat) : CaseBlind (copies make last k) := by
  induction k with
  | zero => exact hlast
  | succ k ih => exact fun n ↦ ⟨hmake n, ih _⟩

/-- Optional copies of a program have the sets of the program. -/
theorem CaseBlind.optionalCopies {make : Compile Program} (hmake : CaseBlind make)
    (needGuard greedy : Bool) (k : Nat) : CaseBlind (optionalCopies needGuard greedy make k) := by
  induction k with
  | zero => exact fun n ↦ trivial
  | succ k ih => exact fun n ↦ Program.CaseBlind.prefer (p := .seq _ _) ⟨hmake _, ih _⟩ _ _

end Compile

/-- Compiling makes no sets of its own. -/
theorem Expr.CaseBlind.compile {e : Expr} (he : e.CaseBlind) (inLoop : Bool) :
    Compile.CaseBlind (e.compile inLoop) := by
  induction e generalizing inLoop with
  | empty | look => exact fun n ↦ trivial
  | set s => exact fun n ↦ he
  | capture i e ih => exact fun n ↦ ih he inLoop n
  | concat a b iha ihb | alternate a b iha ihb =>
    exact fun n ↦ ⟨iha he.1 inLoop _, ihb he.2 inLoop _⟩
  | repetition min max greedy e ih =>
    match max, min with
    | some max, min =>
      rw [Expr.compile]
      exact Compile.CaseBlind.copies (ih he inLoop)
        (Compile.CaseBlind.optionalCopies (ih he inLoop) inLoop greedy (max - min)) min
    | none, 0 =>
      intro n
      rw [Expr.compile]
      split
      · exact ih he inLoop _
      · exact Program.CaseBlind.prefer (p := .plus _ greedy _) (ih he true _) _ _
    | none, min + 1 =>
      rw [Expr.compile]
      refine Compile.CaseBlind.copies (ih he inLoop) (fun n ↦ ?_) min
      exact ih he (inLoop || !e.consumes) _

end ModeLexer.Regex
