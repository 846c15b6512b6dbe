import ModeLexer.Proofs.Regex.Reader

/-!
# The steps of the reader of expressions

`readBranches` takes one part of an expression after the other. Here the parts have a type of their
own, so that one step is a part that is read (`readPart`) and then what the part does
(`readBranches_succ`). What a successful run comes to is an inductive relation with one case for
each kind of part (`Reads`), and what holds of all expressions that are read is shown by induction
on it.
-/

namespace ModeLexer.Regex

/-! ### Parts -/

/-- The head of a group that has contents. -/
inductive Opening where
  | plain (fc : FlagChange)
  | capture (name : Option (List Char))

/-- What one step of the reader takes. -/
inductive Part where
  /-- The end of the text or a closing parenthesis, which is left where it is. -/
  | stop
  | bar
  | repetition (min : Nat) (max : Option Nat) (greedy : Bool)
  | atom (a : Atom)
  | bracket (b : Bracket)
  | setFlags (fc : FlagChange)
  | opening (o : Opening)

/-- Whether the verbose mode is on after a change of flags. -/
def FlagChange.verbose (fc : FlagChange) (verbose : Bool) : Bool :=
  (fc.value? .verbose).getD verbose

/-- The part that a head of a group is. -/
def GroupHead.part : GroupHead → Part
  | .setFlags fc => .setFlags fc
  | .plain fc => .opening (.plain fc)
  | .numbered => .opening (.capture none)
  | .named name => .opening (.capture (some name))

/-- The state in which the contents of a group are read. -/
def Opening.enter (s : ParserState) (rest : List Char) : Opening → ParserState
  | plain fc => { s with rest, verbose := fc.verbose s.verbose }
  | capture name => { s with rest, captures := s.captures + 1, names := name.toList ++ s.names }

/-- The group around its contents, where `index` is its number if it has one. -/
def Opening.wrap (index : Nat) : Opening → Term → Term
  | plain fc => .group fc
  | capture _ => .capture index

/-- Whether the name of a group is one of those given before. -/
def Opening.clashes (names : List (List Char)) : Opening → Bool
  | plain _ => false
  | capture name => name.any names.contains

/-- Reads a repetition operator after its first character. -/
def repetitionPart (min : Nat) (max : Option Nat) (cs : List Char) : Part × List Char :=
  (.repetition min max (readGreedy cs).1, (readGreedy cs).2)

/-- Reads a part. -/
def readPart (verbose : Bool) (cs : List Char) : Except Error (Part × List Char) :=
  match skip verbose cs with
  | [] => .ok (.stop, [])
  | ')' :: r => .ok (.stop, ')' :: r)
  | '|' :: r => .ok (.bar, r)
  | '?' :: r => .ok (repetitionPart 0 (some 1) r)
  | '*' :: r => .ok (repetitionPart 0 none r)
  | '+' :: r => .ok (repetitionPart 1 none r)
  | '\x7b' :: r =>
    (readBounds verbose r).map fun (bounds, rest) ↦
      repetitionPart bounds.1 bounds.2 (skip verbose rest)
  | '[' :: r => (readBracket verbose r).map fun (b, rest) ↦ (.bracket b, rest)
  | '(' :: r => (readGroupHead verbose r).map fun (head, rest) ↦ (head.part, rest)
  | '\\' :: r => (readEscape verbose r).map fun (a, rest) ↦ (.atom a, rest)
  | '.' :: r => .ok (.atom .dot, r)
  | '^' :: r => .ok (.atom (.anchor .lineStart), r)
  | '$' :: r => .ok (.atom (.anchor .lineEnd), r)
  | c :: r => .ok (.atom (.literal c), r)

/-- The operators of one character, with the bounds of their repetitions. -/
def repetitionOperators : List (Char × Nat × Option Nat) :=
  [('?', 0, some 1), ('*', 0, none), ('+', 1, none)]

/-- The characters with which no atom of one character begins. -/
def specialChars : List Char := [')', '|', '?', '*', '+', '\x7b', '[', '(', '\\']

/-- The atom that a character is, if it is not special. -/
def charAtom : Char → Atom
  | '.' => .dot
  | '^' => .anchor .lineStart
  | '$' => .anchor .lineEnd
  | c => .literal c

theorem charAtom_of_ne {c : Char} (hdot : c ≠ '.') (hstart : c ≠ '^') (hend : c ≠ '$') :
    charAtom c = .literal c := by
  unfold charAtom
  split <;> simp_all

/-- What a part is read from, and what it leaves, where no blanks stand before it. -/
inductive PartAt (verbose : Bool) : List Char → Part → List Char → Prop
  | stop_nil : PartAt verbose [] .stop []
  | stop_close (r : List Char) : PartAt verbose (')' :: r) .stop (')' :: r)
  | bar (r : List Char) : PartAt verbose ('|' :: r) .bar r
  | repetition {c : Char} {min : Nat} {max : Option Nat} (h : (c, min, max) ∈ repetitionOperators)
      (r : List Char) :
      PartAt verbose (c :: r) (.repetition min max (readGreedy r).1) (readGreedy r).2
  | counted {r left : List Char} {bounds : Nat × Option Nat}
      (h : readBounds verbose r = .ok (bounds, left)) :
      PartAt verbose ('\x7b' :: r)
        (.repetition bounds.1 bounds.2 (readGreedy (skip verbose left)).1)
        (readGreedy (skip verbose left)).2
  | bracket {r rest : List Char} {b : Bracket} (h : readBracket verbose r = .ok (b, rest)) :
      PartAt verbose ('[' :: r) (.bracket b) rest
  | group {r rest : List Char} {head : GroupHead} {part : Part}
      (h : readGroupHead verbose r = .ok (head, rest)) (hpart : head.part = part) :
      PartAt verbose ('(' :: r) part rest
  | escape {r rest : List Char} {a : Atom} (h : readEscape verbose r = .ok (a, rest)) :
      PartAt verbose ('\\' :: r) (.atom a) rest
  | atom {c : Char} (h : c ∉ specialChars) (r : List Char) :
      PartAt verbose (c :: r) (.atom (charAtom c)) r

theorem partAt_of_readPart {verbose : Bool} {cs rest : List Char} {part : Part}
    (h : readPart verbose cs = .ok (part, rest)) : PartAt verbose (skip verbose cs) part rest := by
  rw [readPart] at h
  split at h
  case h_1 heq | h_2 heq | h_3 heq =>
    rw [heq]
    obtain ⟨rfl, rfl⟩ := Prod.mk.inj (Except.ok.inj h)
    constructor
  case h_4 heq | h_5 heq | h_6 heq =>
    rw [heq]
    obtain ⟨rfl, rfl⟩ := Prod.mk.inj (Except.ok.inj h)
    exact .repetition (by decide) _
  case h_7 heq =>
    rw [heq]
    obtain ⟨⟨bounds, left⟩, hbounds, hpart⟩ := map_eq_ok.1 h
    obtain ⟨rfl, rfl⟩ := Prod.mk.inj hpart
    exact .counted hbounds
  case h_8 heq =>
    rw [heq]
    obtain ⟨⟨b, left⟩, hbracket, hpart⟩ := map_eq_ok.1 h
    obtain ⟨rfl, rfl⟩ := Prod.mk.inj hpart
    exact .bracket hbracket
  case h_9 heq =>
    rw [heq]
    obtain ⟨⟨head, left⟩, hhead, hpart⟩ := map_eq_ok.1 h
    obtain ⟨rfl, rfl⟩ := Prod.mk.inj hpart
    exact .group hhead rfl
  case h_10 heq =>
    rw [heq]
    obtain ⟨⟨a, left⟩, hescape, hpart⟩ := map_eq_ok.1 h
    obtain ⟨rfl, rfl⟩ := Prod.mk.inj hpart
    exact .escape hescape
  case h_11 heq | h_12 heq | h_13 heq =>
    rw [heq]
    obtain ⟨rfl, rfl⟩ := Prod.mk.inj (Except.ok.inj h)
    exact .atom (by decide) _
  case h_14 heq =>
    rw [heq] at *
    obtain ⟨rfl, rfl⟩ := Prod.mk.inj (Except.ok.inj h)
    rw [← charAtom_of_ne (by simp_all) (by simp_all) (by simp_all)]
    exact .atom (by simp_all [specialChars]) _

/-- A part is read from what stands behind the blanks. -/
theorem readPart_eq_ok {verbose : Bool} {cs rest : List Char} {part : Part} :
    readPart verbose cs = .ok (part, rest) ↔ PartAt verbose (skip verbose cs) part rest := by
  refine ⟨partAt_of_readPart, fun h ↦ ?_⟩
  rw [readPart]
  generalize skip verbose cs = cs at h
  cases h with
  | stop_nil | stop_close | bar => rfl
  | repetition h r =>
    simp only [repetitionOperators, List.mem_cons, Prod.mk.injEq, List.not_mem_nil, or_false] at h
    rcases h with ⟨rfl, rfl, rfl⟩ | ⟨rfl, rfl, rfl⟩ | ⟨rfl, rfl, rfl⟩ <;> rfl
  | counted h | bracket h | escape h => exact map_eq_ok.2 ⟨_, h, rfl⟩
  | group h hpart => exact map_eq_ok.2 ⟨_, h, hpart ▸ rfl⟩
  | atom h r =>
    simp only [specialChars, List.mem_cons, List.not_mem_nil, or_false, not_or] at h
    split
    case h_11 heq | h_12 heq | h_13 heq =>
      obtain ⟨rfl, rfl⟩ := List.cons.inj heq
      rfl
    case h_14 heq =>
      obtain ⟨rfl, rfl⟩ := List.cons.inj heq
      rw [charAtom_of_ne (by simp_all) (by simp_all) (by simp_all)]
    all_goals simp_all

/-- What a part does to what has been read before it. -/
def Part.act (n : Nat) (items branches : List Term) (s : ParserState) (rest : List Char) :
    Part → Except Error (Term × ParserState)
  | stop => .ok (.alternates (.concats items.reverse :: branches).reverse, { s with rest })
  | bar => readBranches n [] (.concats items.reverse :: branches) { s with rest }
  | repetition min max greedy => do
    let items ← repeatLast min max greedy items
    readBranches n items branches { s with rest }
  | atom a => readBranches n (.atom a :: items) branches { s with rest }
  | bracket b => readBranches n (.bracket b :: items) branches { s with rest }
  | setFlags fc =>
    readBranches n (.setFlags fc :: items) branches
      { s with rest, verbose := fc.verbose s.verbose }
  | opening o =>
    if o.clashes s.names then .error .invalidGroupName
    else do
      let (t, after) ← readBranches n [] [] (o.enter s rest)
      match after.rest with
      | ')' :: rest =>
        readBranches n (o.wrap (s.captures + 1) t :: items) branches
          { after with rest, verbose := s.verbose }
      | _ => .error .unexpectedEnd

/-- One step of the reader. -/
theorem readBranches_succ (n : Nat) (items branches : List Term) (s : ParserState) :
    readBranches (n + 1) items branches s = (do
      let (part, rest) ← readPart s.verbose s.rest
      part.act n items branches s rest) := by
  rw [readBranches]
  split
  case h_7 r heq =>
    simp only [readPart, heq]
    cases readBounds s.verbose r <;> rfl
  case h_8 r heq =>
    simp only [readPart, heq]
    cases readBracket s.verbose r <;> rfl
  case h_9 r heq =>
    simp only [readPart, heq]
    cases readGroupHead s.verbose r with
    | error e => rfl
    | ok found =>
      obtain ⟨head, rest⟩ := found
      cases head with
      | setFlags fc => rfl
      | plain fc => rfl
      | numbered => rfl
      | named name =>
        show (if s.names.contains name then _ else _) = if s.names.contains name then _ else _
        rfl
  case h_10 r heq =>
    simp only [readPart, heq]
    cases readEscape s.verbose r <;> rfl
  case h_14 c r _ _ _ _ _ _ _ _ _ _ _ _ heq =>
    rw [readPart, heq]
    split
    case h_14 heq' =>
      obtain ⟨rfl, rfl⟩ := List.cons.inj heq'
      rfl
    all_goals simp_all
  all_goals
    next heq =>
    simp only [readPart, heq]
    rfl

/-- What is repeated is the last item, which is no change of flags. -/
theorem exists_of_repeatLast {min : Nat} {max : Option Nat} {greedy : Bool}
    {items items' : List Term} (h : repeatLast min max greedy items = .ok items') :
    ∃ t ts, items = t :: ts ∧ (∀ fc, t ≠ .setFlags fc) ∧
      items' = .repetition min max greedy t :: ts := by
  cases items with
  | nil => simp [repeatLast] at h
  | cons t ts =>
    cases t with
    | setFlags fc => simp [repeatLast] at h
    | _ =>
      obtain rfl := Except.ok.inj h
      exact ⟨_, ts, rfl, fun _ ↦ nofun, rfl⟩

/-! ### Runs -/

/-- A run of the reader that succeeds, with `n` steps to go at most. -/
inductive Reads : Nat → List Term → List Term → ParserState → Term → ParserState → Prop
  | stop {n : Nat} {items branches : List Term} {s : ParserState} {rest : List Char}
      (hpart : readPart s.verbose s.rest = .ok (.stop, rest)) :
      Reads (n + 1) items branches s (.alternates (.concats items.reverse :: branches).reverse)
        { s with rest }
  | bar {n : Nat} {items branches : List Term} {s s' : ParserState} {t : Term} {rest : List Char}
      (hpart : readPart s.verbose s.rest = .ok (.bar, rest))
      (hnext : Reads n [] (.concats items.reverse :: branches) { s with rest } t s') :
      Reads (n + 1) items branches s t s'
  | repetition {n : Nat} {items items' branches : List Term} {s s' : ParserState} {t : Term}
      {rest : List Char} {min : Nat} {max : Option Nat} {greedy : Bool}
      (hpart : readPart s.verbose s.rest = .ok (.repetition min max greedy, rest))
      (hitems : repeatLast min max greedy items = .ok items')
      (hnext : Reads n items' branches { s with rest } t s') :
      Reads (n + 1) items branches s t s'
  | atom {n : Nat} {items branches : List Term} {s s' : ParserState} {t : Term}
      {rest : List Char} {a : Atom} (hpart : readPart s.verbose s.rest = .ok (.atom a, rest))
      (hnext : Reads n (.atom a :: items) branches { s with rest } t s') :
      Reads (n + 1) items branches s t s'
  | bracket {n : Nat} {items branches : List Term} {s s' : ParserState} {t : Term}
      {rest : List Char} {b : Bracket}
      (hpart : readPart s.verbose s.rest = .ok (.bracket b, rest))
      (hnext : Reads n (.bracket b :: items) branches { s with rest } t s') :
      Reads (n + 1) items branches s t s'
  | setFlags {n : Nat} {items branches : List Term} {s s' : ParserState} {t : Term}
      {rest : List Char} {fc : FlagChange}
      (hpart : readPart s.verbose s.rest = .ok (.setFlags fc, rest))
      (hnext : Reads n (.setFlags fc :: items) branches
        { s with rest, verbose := fc.verbose s.verbose } t s') :
      Reads (n + 1) items branches s t s'
  | group {n : Nat} {items branches : List Term} {s after s' : ParserState} {t u : Term}
      {rest rest' : List Char} {o : Opening}
      (hpart : readPart s.verbose s.rest = .ok (.opening o, rest))
      (hname : o.clashes s.names = false) (hinner : Reads n [] [] (o.enter s rest) u after)
      (hclose : after.rest = ')' :: rest')
      (hnext : Reads n (o.wrap (s.captures + 1) u :: items) branches
        { after with rest := rest', verbose := s.verbose } t s') :
      Reads (n + 1) items branches s t s'

theorem reads_of_readBranches {n : Nat} {items branches : List Term} {s s' : ParserState}
    {t : Term} (h : readBranches n items branches s = .ok (t, s')) :
    Reads n items branches s t s' := by
  induction n generalizing items branches s t s' with
  | zero => simp [readBranches] at h
  | succ n ih =>
    rw [readBranches_succ] at h
    obtain ⟨⟨part, rest⟩, hpart, h⟩ := bind_eq_ok.1 h
    cases part with
    | stop =>
      obtain ⟨rfl, rfl⟩ := Prod.mk.inj (Except.ok.inj h)
      exact .stop hpart
    | bar => exact .bar hpart (ih h)
    | repetition min max greedy =>
      obtain ⟨items', hitems, h⟩ := bind_eq_ok.1 h
      exact .repetition hpart hitems (ih h)
    | atom a => exact .atom hpart (ih h)
    | bracket b => exact .bracket hpart (ih h)
    | setFlags fc => exact .setFlags hpart (ih h)
    | opening o =>
      simp only [Part.act] at h
      split at h
      · simp at h
      · next hname =>
        obtain ⟨⟨u, after⟩, hinner, h⟩ := bind_eq_ok.1 h
        split at h
        · next rest' hclose =>
          exact .group hpart (Bool.eq_false_iff.2 hname) (ih hinner) hclose (ih h)
        · simp at h

theorem readPart_nil (verbose : Bool) : readPart verbose [] = .ok (.stop, []) := by
  rw [readPart, skip_nil]

/-- Nothing is read where nothing is left. -/
theorem Reads.eq_of_nil {n : Nat} {items branches : List Term} {s s' : ParserState} {t : Term}
    (h : Reads n items branches s t s') (hrest : s.rest = []) : s' = s := by
  cases h with
  | stop hpart =>
    rw [hrest, readPart_nil] at hpart
    obtain ⟨-, rfl⟩ := Prod.mk.inj (Except.ok.inj hpart)
    rw [← hrest]
  | bar hpart | repetition hpart | atom hpart | bracket hpart | setFlags hpart | group hpart =>
    simp [hrest, readPart_nil] at hpart

/-- What a run leaves clear was clear before. -/
theorem Reads.isClear {n : Nat} {items branches : List Term} {s s' : ParserState} {t : Term}
    (h : Reads n items branches s t s') (hclear : IsClear s'.verbose s'.rest) :
    IsClear s.verbose s.rest := by
  by_cases hrest : s.rest = []
  · rwa [h.eq_of_nil hrest] at hclear
  · exact .inr hrest

/-! ### Parts in front of a parenthesis -/

variable {paren : Char}

/-- The mode in which the text behind a part is read. -/
def Part.mode (verbose : Bool) : Part → Bool
  | setFlags fc | opening (.plain fc) => fc.verbose verbose
  | _ => verbose

theorem readPart_append {verbose : Bool} {cs rest : List Char} {part : Part}
    (h : readPart verbose cs = .ok (part, rest)) (hrest : IsClear (part.mode verbose) rest)
    (hparen : IsParen paren) (hstop : part = .stop → rest = [] → paren = ')') (more : List Char) :
    readPart verbose (cs ++ paren :: more) = .ok (part, rest ++ paren :: more) := by
  rw [readPart_eq_ok] at h ⊢
  have hskip : IsClear verbose (skip verbose cs) := by
    by_cases hnil : skip verbose cs = []
    · rw [hnil] at h ⊢
      cases h
      exact hrest
    · exact .inr hnil
  rw [skip_append hskip]
  generalize skip verbose cs = cs at h
  cases h with
  | stop_nil => exact hstop rfl rfl ▸ .stop_close more
  | stop_close r => exact .stop_close (r ++ paren :: more)
  | bar r => exact .bar _
  | @repetition c _ _ h r =>
    have hmore : PartAt verbose (c :: (r ++ paren :: more)) _ _ := .repetition h _
    rwa [readGreedy_append hparen] at hmore
  | @counted r left bounds h =>
    have hleft : IsClear verbose (skip verbose left) := hrest.of_imp fun hnil ↦ by
      rw [hnil]
      rfl
    have hmore := PartAt.counted (readBounds_append h (paren :: more))
    rwa [skip_append hleft, readGreedy_append hparen] at hmore
  | bracket h => exact .bracket (readBracket_append h hparen more)
  | group h hpart =>
    subst hpart
    exact .group (readGroupHead_append h (by rintro rfl; exact hrest) hparen more) rfl
  | escape h => exact .escape (readEscape_append h hrest hparen more)
  | atom h r => exact .atom h _

end ModeLexer.Regex
