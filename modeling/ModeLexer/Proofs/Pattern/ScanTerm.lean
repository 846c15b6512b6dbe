import ModeLexer.Proofs.Pattern.ScanClass
import ModeLexer.Proofs.Regex.Nesting
import ModeLexer.Proofs.Regex.Suffixes

/-!
# The scan over expressions

The scan passes over an expression of its own and comes back to where it was
(`LookaheadScan.passes_of_standsFor`), with a bar outside of all groups if the expression is an
alternation. This holds of expressions that are not in verbose mode, where a parenthesis may stand
in a comment, that have no classes but those that are scanned (`Term.isScannable`), and in which no
name of a group has an opening bracket in it.
-/

namespace ModeLexer

namespace Regex

/-! ### Terms -/

namespace Term

/-- Whether the scan comes out of an expression as it came in: the verbose mode is not switched on,
and all classes are scanned. -/
def isScannable : Term → Bool
  | empty | atom _ => true
  | bracket b => b.isScannable
  | setFlags fc => !fc.verbose false
  | capture _ t | repetition _ _ _ t => t.isScannable
  | group fc t => !fc.verbose false && t.isScannable
  | concat a b | alternate a b => a.isScannable && b.isScannable

/-- A concatenation is scannable if its terms are. -/
theorem isScannable_concats (ts : List Term) :
    (concats ts).isScannable = ts.all isScannable := by
  induction ts with
  | nil => rfl
  | cons t ts ih =>
    cases ts with
    | nil => simp [concats]
    | cons t' ts => exact congrArg (t.isScannable && ·) ih

/-- An alternation is scannable if its branches are. -/
theorem isScannable_alternates (ts : List Term) :
    (alternates ts).isScannable = ts.all isScannable := by
  induction ts with
  | nil => rfl
  | cons t ts ih =>
    cases ts with
    | nil => simp [alternates]
    | cons t' ts => exact congrArg (t.isScannable && ·) ih

/-- A concatenation of terms without a bar outside of groups has none either. -/
theorem isAlternation_concats {ts : List Term} (h : ∀ t ∈ ts, t.isAlternation = false) :
    (concats ts).isAlternation = false := by
  match ts with
  | [] => rfl
  | [t] => exact h t (List.mem_singleton_self t)
  | _ :: _ :: _ => rfl

/-- Two branches make an alternation. -/
theorem isAlternation_of_two_le {ts : List Term} (h : 2 ≤ ts.length) :
    (alternates ts).isAlternation := by
  match ts with
  | [] | [_] => simp at h
  | _ :: _ :: _ => rfl

/-- A branch with others before it is one of an alternation. -/
theorem isAlternation_alternates {t : Term} (ht : t.isAlternation = false) (ts : List Term) :
    (alternates (t :: ts).reverse).isAlternation = !ts.isEmpty := by
  cases ts with
  | nil => exact ht
  | cons t' ts => exact isAlternation_of_two_le (by simp)

end Term

/-- Whether the name of a group has no opening bracket in it, which would open a class for the
scan. -/
def Opening.isScannable : Opening → Bool
  | plain _ => true
  | capture name => name.all ('[' ∉ ·)

/-- The name of a group is one of those that are taken once the group has been entered. -/
theorem Opening.isScannable_of_names (o : Opening) {s : ParserState} {rest : List Char}
    (h : ∀ name ∈ (o.enter s rest).names, '[' ∉ name) : o.isScannable := by
  cases o with
  | plain fc => rfl
  | capture name =>
    cases name with
    | none => rfl
    | some name => simpa [Opening.isScannable] using h name (List.mem_cons_self ..)

/-- The contents of a group that is scannable are scannable. -/
theorem Opening.isScannable_of_wrap {o : Opening} {index : Nat} {t : Term}
    (h : (o.wrap index t).isScannable) : t.isScannable := by
  cases o with
  | plain fc => exact (Bool.and_eq_true_iff.1 h).2
  | capture name => exact h

/-- All items and branches read before are parts of what is read. -/
theorem Reads.isScannable {n : Nat} {items branches : List Term} {s s' : ParserState} {t : Term}
    (h : Reads n items branches s t s') (ht : t.isScannable) :
    items.all Term.isScannable ∧ branches.all Term.isScannable := by
  induction h with
  | stop =>
    simpa [Term.isScannable_alternates, Term.isScannable_concats, and_comm] using ht
  | bar _ _ ih =>
    simpa [Term.isScannable_concats] using (ih ht).2
  | repetition _ hitems _ ih =>
    obtain ⟨u, us, rfl, -, rfl⟩ := exists_of_repeatLast hitems
    simpa [Term.isScannable] using ih ht
  | atom _ _ ih | bracket _ _ ih | setFlags _ _ ih | group _ _ _ _ _ _ ih =>
    exact (ih ht).imp_left fun hitems ↦ (Bool.and_eq_true_iff.1 hitems).2

end Regex

namespace Pattern.LookaheadScan

open Regex

/-! ### The texts of parts -/

/-- What the scan makes of the text of a part; that of a group goes up to its contents. -/
inductive PartText : Part → List Char → Prop
  | stop : PartText .stop []
  | bar : PartText .bar ['|']
  | repetition {min : Nat} {max : Option Nat} {greedy : Bool} {text : List Char}
      (h : Leads text .outside .outside) : PartText (.repetition min max greedy) text
  | atom {a : Atom} {text : List Char} (h : Leads text .outside .outside) : PartText (.atom a) text
  | bracket {b : Bracket} {text : List Char}
      (h : b.isScannable → Leads text .outside .outside) : PartText (.bracket b) text
  | setFlags {fc : FlagChange} {text : List Char} (h : Leads text .outside .outside) :
      PartText (.setFlags fc) ('(' :: (text ++ [')']))
  | opening {o : Opening} {text : List Char}
      (h : o.isScannable → Leads text .outside .outside) : PartText (.opening o) ('(' :: text)

/-- What is read as the head of a group is the text of a part that opens one, behind its
parenthesis. -/
theorem readGroupHead_text {cs rest : List Char} {head : GroupHead}
    (h : readGroupHead false cs = .ok (head, rest)) :
    ∃ text, '(' :: cs = text ++ rest ∧ PartText head.part text := by
  obtain ⟨text, rfl, htext⟩ := readGroupHead_taken h
  refine ⟨'(' :: text, rfl, ?_⟩
  cases htext with
  | numbered => exact .opening fun _ ↦ .nil _
  | plain htext => exact .opening fun _ ↦ .of_isPlain htext rfl
  | setFlags htext => exact .setFlags (.of_isPlain htext rfl)
  | @named name start hstart hname =>
    refine .opening fun hopen ↦ (Leads.of_isPlain hstart rfl).append ?_
    have hbracket : '[' ∉ name := by simpa [Opening.isScannable] using hopen
    refine .of_forall (fun c hc ↦ ?_) rfl
    rcases List.mem_append.1 hc with hc | hc
    · have hne : c ≠ '[' := fun heq ↦ hbracket (heq ▸ hc)
      have hmarks := hname c hc
      simp_all [ClassPosition.Ignores]
    · obtain rfl := List.mem_singleton.1 hc
      simp [ClassPosition.Ignores]

/-- What is read as a part is the text of that part. -/
theorem readPart_text {cs rest : List Char} {part : Part}
    (h : readPart false cs = .ok (part, rest)) :
    ∃ text, cs = text ++ rest ∧ PartText part text := by
  replace h : PartAt false cs part rest := readPart_eq_ok.1 h
  cases h with
  | stop_nil | stop_close => exact ⟨[], rfl, .stop⟩
  | bar r => exact ⟨['|'], rfl, .bar⟩
  | @repetition c _ _ h r =>
    obtain ⟨text, heq, htext⟩ := readGreedy_taken r
    have hplain : ∀ e ∈ repetitionOperators, IsPlain e.1 := by decide
    refine ⟨c :: text, congrArg (c :: ·) heq, .repetition (.of_isPlain ?_ rfl)⟩
    exact List.forall_mem_cons.2 ⟨hplain _ h, htext⟩
  | @counted r left _ h =>
    obtain ⟨taken, rfl, htaken⟩ := readBounds_taken h
    obtain ⟨text, heq, htext⟩ := readGreedy_taken left
    refine ⟨'\x7b' :: (taken ++ text), ?_, .repetition (.of_isPlain ?_ rfl)⟩
    · rw [List.cons_append, List.append_assoc]
      exact congrArg ('\x7b' :: taken ++ ·) heq
    · exact List.forall_mem_cons.2 ⟨by decide, List.forall_mem_append.2 ⟨htaken, htext⟩⟩
  | @bracket r _ b h =>
    by_cases hb : b.isScannable
    · obtain ⟨text, heq, htext⟩ := readBracket_leads h hb
      exact ⟨text, heq, .bracket fun _ ↦ htext⟩
    · obtain ⟨text, rfl⟩ := readBracket_suffix h
      exact ⟨'[' :: text, rfl, .bracket fun hscannable ↦ absurd hscannable hb⟩
  | group h hpart => exact hpart ▸ readGroupHead_text h
  | escape h =>
    obtain ⟨c, r, rfl, taken, rfl, htaken⟩ := readEscape_taken h
    exact ⟨'\\' :: c :: taken, rfl, .atom ((Leads.escape _ c).append (.of_isPlain htaken rfl))⟩
  | @atom c h r =>
    refine ⟨[c], rfl, .atom (.of_ignores ?_)⟩
    simp_all [specialChars, ClassPosition.Ignores]

/-! ### Expressions -/

/-- A group that is scannable does not switch the verbose mode on. -/
theorem enter_verbose {o : Opening} {s : ParserState} {index : Nat} {u : Term}
    (hverbose : s.verbose = false) (h : (o.wrap index u).isScannable) (rest : List Char) :
    (o.enter s rest).verbose = false := by
  cases o with
  | plain fc =>
    obtain ⟨hfc, -⟩ := Bool.and_eq_true_iff.1 h
    simpa [Opening.enter, hverbose] using hfc
  | capture name => exact hverbose

/-- Whether what a run of the reader takes of a text is passed over, with a bar in it if the run
begins a branch; `branches` are those it has begun before. -/
structure PassesTo (branches : List Term) (t : Term) (cs : List Char) (s' : ParserState) :
    Prop where
  verbose : s'.verbose = false
  passes : ∃ bar taken, cs = taken ++ s'.rest ∧ Passes bar taken ∧
    t.isAlternation = (bar || !branches.isEmpty)

/-- A text whose groups are closed may be passed before. -/
theorem PassesTo.prepend {branches : List Term} {t : Term} {text cs : List Char} {s' : ParserState}
    (h : PassesTo branches t cs s') (htext : Passes false text) :
    PassesTo branches t (text ++ cs) s' := by
  obtain ⟨bar, taken, rfl, htaken, hbar⟩ := h.passes
  exact ⟨h.verbose, bar, text ++ taken, by simp, htext.append htaken, hbar⟩

/-- A bar that ends a branch may be passed before, as a bar outside of groups. -/
theorem PassesTo.prepend_bar {branches : List Term} {t u : Term} {cs : List Char} {s' : ParserState}
    (h : PassesTo (u :: branches) t cs s') : PassesTo branches t ('|' :: cs) s' := by
  obtain ⟨bar, taken, rfl, htaken, hbar⟩ := h.passes
  exact ⟨h.verbose, true, '|' :: taken, rfl, Passes.of_bar.append htaken, by simpa using hbar⟩

/-- What a run of the reader takes is passed over. -/
theorem passesTo_of_reads {n : Nat} {items branches : List Term} {s s' : ParserState} {t : Term}
    (h : Reads n items branches s t s') (hverbose : s.verbose = false) (ht : t.isScannable)
    (hnames : ∀ name ∈ s'.names, '[' ∉ name) (hitems : ∀ i ∈ items, i.isAlternation = false) :
    PassesTo branches t s.rest s' := by
  induction h with
  | @stop n items branches s rest hpart =>
    obtain ⟨text, heq, htext⟩ := readPart_text (hverbose ▸ hpart)
    cases htext
    refine ⟨hverbose, false, [], heq, .nil, ?_⟩
    exact Term.isAlternation_alternates
      (Term.isAlternation_concats fun i hi ↦ hitems i (List.mem_reverse.1 hi)) branches
  | bar hpart hnext ih =>
    obtain ⟨text, heq, htext⟩ := readPart_text (hverbose ▸ hpart)
    cases htext
    rw [heq]
    exact (ih hverbose ht hnames (by simp)).prepend_bar
  | repetition hpart hrepeat hnext ih =>
    obtain ⟨text, heq, htext⟩ := readPart_text (hverbose ▸ hpart)
    obtain ⟨u, us, rfl, -, rfl⟩ := exists_of_repeatLast hrepeat
    have hus := (List.forall_mem_cons.1 hitems).2
    have hrest := ih hverbose ht hnames (List.forall_mem_cons.2 ⟨rfl, hus⟩)
    cases htext with
    | repetition htext => exact heq ▸ hrest.prepend (.of_leads htext)
  | atom hpart hnext ih =>
    obtain ⟨text, heq, htext⟩ := readPart_text (hverbose ▸ hpart)
    have hrest := ih hverbose ht hnames (List.forall_mem_cons.2 ⟨rfl, hitems⟩)
    cases htext with
    | atom htext => exact heq ▸ hrest.prepend (.of_leads htext)
  | bracket hpart hnext ih =>
    obtain ⟨text, heq, htext⟩ := readPart_text (hverbose ▸ hpart)
    obtain ⟨hb, -⟩ := Bool.and_eq_true_iff.1 (hnext.isScannable ht).1
    have hrest := ih hverbose ht hnames (List.forall_mem_cons.2 ⟨rfl, hitems⟩)
    cases htext with
    | bracket htext => exact heq ▸ hrest.prepend (.of_leads (htext hb))
  | @setFlags n items branches s s' t rest fc hpart hnext ih =>
    obtain ⟨text, heq, htext⟩ := readPart_text (hverbose ▸ hpart)
    obtain ⟨hfc, -⟩ := Bool.and_eq_true_iff.1 (hnext.isScannable ht).1
    have hmode : fc.verbose s.verbose = false := by simpa [hverbose, Term.isScannable] using hfc
    have hrest := ih hmode ht hnames (List.forall_mem_cons.2 ⟨rfl, hitems⟩)
    cases htext with
    | setFlags htext => exact heq ▸ hrest.prepend (Passes.of_leads htext).group
  | @group n items branches s after s' t u rest rest' o hpart hname hinner hclose hnext ihinner
      ih =>
    obtain ⟨text, heq, htext⟩ := readPart_text (hverbose ▸ hpart)
    obtain ⟨hwrap, -⟩ := Bool.and_eq_true_iff.1 (hnext.isScannable ht).1
    have hnames' : ∀ name ∈ after.names, '[' ∉ name := fun name hmem ↦
      hnames name (hnext.names_subset hmem)
    have hscannable : o.isScannable := o.isScannable_of_names fun name hmem ↦
      hnames' name (hinner.names_subset hmem)
    obtain ⟨-, bar, contents, hcontents, hpasses, -⟩ := ihinner
      (enter_verbose hverbose hwrap rest) (Opening.isScannable_of_wrap hwrap) hnames' (by simp)
    have hrest := ih hverbose ht hnames (List.forall_mem_cons.2 ⟨by cases o <;> rfl, hitems⟩)
    have henter : (o.enter s rest).rest = rest := by cases o <;> rfl
    cases htext with
    | @opening _ text htext =>
      have hgroup := ((Passes.of_leads (htext hscannable)).append hpasses).group
      rw [heq, ← henter, hcontents, hclose]
      simpa using hrest.prepend hgroup

/-- An expression of its own is passed over, with a bar outside of all groups if it is an
alternation. -/
theorem passes_of_standsFor {cs : List Char} {t : Term} {captures : Nat} {names : List (List Char)}
    (h : StandsFor cs t captures names) (ht : t.isScannable) (hnames : ∀ name ∈ names, '[' ∉ name) :
    Passes t.isAlternation cs := by
  obtain ⟨-, bar, taken, heq, hpasses, hbar⟩ :=
    passesTo_of_reads (reads_of_readBranches h) rfl ht hnames (by simp)
  obtain rfl : cs = taken := by simpa using heq
  obtain rfl : t.isAlternation = bar := by simpa using hbar
  exact hpasses

end Pattern.LookaheadScan

end ModeLexer
