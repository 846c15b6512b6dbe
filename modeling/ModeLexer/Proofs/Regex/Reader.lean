import Mathlib.Data.List.Basic
import ModeLexer.Proofs.Table.FirstMistake
import ModeLexer.Regex.Parser

/-!
# Readers in front of a parenthesis

What the reader of a part of an expression makes of a text it makes of the text in front of a
parenthesis too, and leaves the parenthesis with what follows it. There is one exception: in
verbose mode the text may end within a comment, which would then go on. Of readers that pass over
blanks last this is therefore said only where their rest is *clear* (`IsClear`): where the mode is
verbose, something is left.

There is one lemma for each reader, in the order of the readers, and its name is that of the reader
with `_append`.
-/

namespace ModeLexer.Regex

open Unicode

variable {verbose : Bool} {cs rest : List Char} {paren : Char}

/-- Whether a character is a parenthesis. -/
def IsParen (c : Char) : Prop := c = '(' ∨ c = ')'

instance (c : Char) : Decidable (IsParen c) := inferInstanceAs (Decidable (_ ∨ _))

theorem IsParen.ne (h : IsParen paren) {c : Char} (hc : ¬IsParen c) : paren ≠ c := by
  rintro rfl
  exact hc h

/-! ### Blanks and runs of characters -/

/-- Whether what is left of a text cannot be the end of a comment that would go on. -/
def IsClear (verbose : Bool) (rest : List Char) : Prop := verbose = false ∨ rest ≠ []

/-- A text of which something clear is left is clear, if nothing can come of nothing. -/
theorem IsClear.of_imp (h : IsClear verbose rest) (hnil : cs = [] → rest = []) :
    IsClear verbose cs :=
  h.imp_right fun hrest hcs ↦ hrest (hnil hcs)

/-- Blanks and comments are passed over alike in front of more text, if they end before the text
does. -/
theorem skipBlanks_append {inComment : Bool} (h : skipBlanks inComment cs ≠ []) (more : List Char) :
    skipBlanks inComment (cs ++ more) = skipBlanks inComment cs ++ more := by
  induction cs generalizing inComment with
  | nil => simp [skipBlanks] at h
  | cons c cs ih =>
    rw [skipBlanks] at h
    rw [List.cons_append, skipBlanks, skipBlanks]
    split
    · next hin =>
      rw [if_pos hin] at h
      exact ih h
    · next hin =>
      rw [if_neg hin] at h
      split
      · next hspace =>
        rw [if_pos hspace] at h
        exact ih h
      · next hspace =>
        rw [if_neg hspace] at h
        split
        · next hhash =>
          rw [if_pos hhash] at h
          exact ih h
        · rfl

/-- What is skipped in front of more text is what is skipped without it, if what is left is
clear. -/
theorem skip_append (h : IsClear verbose (skip verbose cs)) (more : List Char) :
    skip verbose (cs ++ more) = skip verbose cs ++ more := by
  cases verbose with
  | false => rfl
  | true => exact skipBlanks_append (h.resolve_left (by simp)) more

/-- Passing over blanks and comments makes a text no longer. -/
theorem length_skipBlanks_le (inComment : Bool) (cs : List Char) :
    (skipBlanks inComment cs).length ≤ cs.length := by
  induction cs generalizing inComment with
  | nil => exact Nat.le_refl 0
  | cons c cs ih =>
    rw [skipBlanks]
    repeat' split
    · exact Nat.le_succ_of_le (ih _)
    · exact Nat.le_succ_of_le (ih _)
    · exact Nat.le_succ_of_le (ih _)
    · exact Nat.le_refl _

theorem length_skip_le (verbose : Bool) (cs : List Char) :
    (skip verbose cs).length ≤ cs.length := by
  cases verbose with
  | false => exact Nat.le_refl _
  | true => exact length_skipBlanks_le false cs

theorem skip_nil (verbose : Bool) : skip verbose [] = [] := by
  cases verbose <;> rfl

/-- A text in which something is left behind the blanks is not empty. -/
theorem ne_nil_of_skip_ne_nil (h : skip verbose cs ≠ []) : cs ≠ [] := by
  rintro rfl
  exact h (skip_nil verbose)

/-- A run of characters that ends before its text does is the same run in front of more text. The
fuel may be more than it was. -/
theorem takeRun_append {p : Char → Bool} {n m : Nat} {run : List Char} (hn : cs.length ≤ n)
    (hm : n ≤ m) (h : takeRun verbose p n cs = (run, rest)) (hrest : rest ≠ [])
    (more : List Char) : takeRun verbose p m (cs ++ more) = (run, rest ++ more) := by
  induction n generalizing cs m run with
  | zero =>
    obtain rfl := List.length_eq_zero_iff.1 (Nat.le_zero.1 hn)
    simp [takeRun, hrest.symm] at h
  | succ n ih =>
    obtain ⟨m, rfl⟩ : ∃ m', m = m' + 1 := ⟨m - 1, by omega⟩
    cases cs with
    | nil => simp [takeRun, hrest.symm] at h
    | cons c cs =>
      rw [takeRun] at h
      rw [List.cons_append, takeRun]
      split at h
      · next hp =>
        obtain ⟨rfl, rfl⟩ := Prod.mk.inj h
        have hskip : skip verbose cs ≠ [] := by
          intro hnil
          rw [hnil] at hrest
          simp [takeRun] at hrest
        have hlen := length_skip_le verbose cs
        rw [List.length_cons] at hn
        rw [if_pos hp, skip_append (.inr hskip), ih (by omega) (by omega) rfl]
      · next hp =>
        obtain ⟨rfl, rfl⟩ := Prod.mk.inj h
        rw [if_neg hp]
        rfl

/-- A run that ends before its text does is the same run in front of more text. -/
theorem readRun_append {p : Char → Bool} {run : List Char}
    (h : readRun verbose p cs = (run, rest)) (hrest : rest ≠ []) (more : List Char) :
    readRun verbose p (cs ++ more) = (run, rest ++ more) :=
  takeRun_append (Nat.le_refl _) (by simp) h hrest more

/-! ### Escapes -/

/-- A fixed number of hexadecimal digits is read in front of more text as well. -/
theorem readHexDigits_append {n : Nat} {ds : List Char}
    (h : readHexDigits verbose n cs = .ok (ds, rest)) (hrest : IsClear verbose rest)
    (more : List Char) : readHexDigits verbose n (cs ++ more) = .ok (ds, rest ++ more) := by
  induction n generalizing cs ds with
  | zero =>
    obtain ⟨rfl, rfl⟩ := Prod.mk.inj (Except.ok.inj h)
    rfl
  | succ n ih =>
    cases cs with
    | nil => simp [readHexDigits] at h
    | cons c cs =>
      rw [readHexDigits] at h
      split at h
      · next hc =>
        obtain ⟨⟨ds', rest'⟩, hread, heq⟩ := bind_eq_ok.1 h
        obtain ⟨rfl, rfl⟩ := Prod.mk.inj (pure_eq_ok.1 heq)
        -- blanks behind a digit matter only if no digit follows
        have hskip : IsClear verbose (skip verbose cs) := hrest.of_imp fun hnil ↦ by
          rw [hnil] at hread
          cases n with
          | zero => exact (Prod.mk.inj (Except.ok.inj hread)).2.symm
          | succ n => simp [readHexDigits] at hread
        rw [List.cons_append, readHexDigits, if_pos hc, skip_append hskip, ih hread]
        rfl
      · simp at h

/-- A run behind blanks that ends before the text does. -/
theorem readRun_skip_append {p : Char → Bool} {run : List Char}
    (h : readRun verbose p (skip verbose cs) = (run, rest)) (hrest : rest ≠ [])
    (more : List Char) :
    readRun verbose p (skip verbose (cs ++ more)) = (run, rest ++ more) := by
  have hskip : skip verbose cs ≠ [] := by
    intro hnil
    rw [hnil] at h
    exact hrest (Prod.mk.inj h).2.symm
  rw [skip_append (.inr hskip)]
  exact readRun_append h hrest more

/-- A character given by its code, in braces or by a fixed number of digits. -/
theorem readHex_append {n : Nat} {fixed : Char → Atom} {a : Atom}
    (h : readHex verbose n fixed cs = .ok (a, rest)) (hrest : IsClear verbose rest)
    (more : List Char) : readHex verbose n fixed (cs ++ more) = .ok (a, rest ++ more) := by
  unfold readHex at h ⊢
  simp only [bind, Except.bind, pure, Except.pure] at h ⊢
  cases hskip : skip verbose cs with
  | nil => simp [hskip] at h
  | cons c r =>
    rw [skip_append (.inr (by simp [hskip])), hskip, List.cons_append]
    rw [hskip] at h
    split at h
    · simp at h
    · next heq =>
      obtain ⟨rfl, rfl⟩ := List.cons.inj heq
      split at h
      · simp at h
      · next hrun =>
        have hmore := readRun_skip_append hrun (by simp) more
        split at h
        · next hdigits =>
          split at h
          · obtain ⟨rfl, rfl⟩ := Prod.mk.inj (Except.ok.inj h)
            simp only [hmore, List.cons_append, hdigits, if_true, skip_append hrest]
            simp [*]
          · simp at h
        · simp at h
    · next hc =>
      have hbrace : c ≠ '\x7b' := fun heq ↦ hc r (heq ▸ rfl)
      cases hread : readHexDigits verbose n (c :: r) with
      | error => simp [hread, Except.map] at h
      | ok found =>
        simp only [hread, Except.map] at h
        split at h
        · next d hd =>
          obtain ⟨rfl, rfl⟩ := Prod.mk.inj (Except.ok.inj h)
          have hmore := readHexDigits_append hread hrest more
          rw [List.cons_append] at hmore
          simp [hbrace, hmore, hd, Except.map]
        · simp at h

/-- A Unicode property, by its name in braces or by a single letter. -/
theorem readProperty_append {negated : Bool} {a : Atom}
    (h : readProperty verbose negated cs = .ok (a, rest)) (hrest : IsClear verbose rest)
    (more : List Char) : readProperty verbose negated (cs ++ more) = .ok (a, rest ++ more) := by
  unfold readProperty at h ⊢
  simp only [bind, Except.bind, pure, Except.pure] at h ⊢
  cases hskip : skip verbose cs with
  | nil => simp [hskip] at h
  | cons c r =>
    rw [skip_append (.inr (by simp [hskip])), hskip, List.cons_append]
    rw [hskip] at h
    split at h
    · simp at h
    · next heq =>
      obtain ⟨rfl, rfl⟩ := List.cons.inj heq
      split at h
      · simp at h
      · next hrun =>
        have hmore := readRun_skip_append hrun (by simp) more
        split at h
        · obtain ⟨rfl, rfl⟩ := Prod.mk.inj (Except.ok.inj h)
          simp only [hmore, List.cons_append]
          simp [*]
        · simp at h
    · simp at h
    · next hbrace hescape heq =>
      obtain ⟨rfl, rfl⟩ := List.cons.inj heq
      split at h
      · obtain ⟨rfl, rfl⟩ := Prod.mk.inj (Except.ok.inj h)
        simp_all [skip_append hrest]
      · simp at h

/-- A word boundary may be followed by a kind in braces; a parenthesis does not open one. -/
theorem readBoundary_append {a : Anchor} (h : readBoundary verbose cs = .ok (a, rest))
    (hparen : IsParen paren) (more : List Char) :
    readBoundary verbose (cs ++ paren :: more) = .ok (a, rest ++ paren :: more) := by
  unfold readBoundary at h ⊢
  split at h
  · next r =>
    split at h
    · simp at h
    · next c r' hskip =>
      rw [List.cons_append]
      have hclear : IsClear verbose (skip verbose r) := .inr (by simp [hskip])
      simp only [skip_append hclear, hskip, List.cons_append]
      split at h
      · next hc =>
        rw [if_pos hc]
        split at h
        · next hrun =>
          have hmore := readRun_append hrun (by simp) (paren :: more)
          simp only [List.cons_append] at hmore
          rw [hmore]
          split at h
          · obtain ⟨rfl, rfl⟩ := Prod.mk.inj (Except.ok.inj h)
            simp [*]
          · simp at h
        · simp at h
      · next hc =>
        obtain ⟨rfl, rfl⟩ := Prod.mk.inj (Except.ok.inj h)
        rw [if_neg hc]
        rfl
  · next hbrace =>
    obtain ⟨rfl, rfl⟩ := Prod.mk.inj (Except.ok.inj h)
    cases cs with
    | nil =>
      have hne := hparen.ne (by decide : ¬IsParen '\x7b')
      simp [hne]
    | cons c r =>
      split
      · simp_all
      · rfl

/-- Each kind of escape is that of the text alone, because no escape goes on with a parenthesis. -/
theorem readEscape_append {a : Atom} (h : readEscape verbose cs = .ok (a, rest))
    (hrest : IsClear verbose rest) (hparen : IsParen paren) (more : List Char) :
    readEscape verbose (cs ++ paren :: more) = .ok (a, rest ++ paren :: more) := by
  unfold readEscape at h
  split at h
  · simp at h
  · exact readHex_append h hrest _
  · exact readHex_append h hrest _
  · exact readHex_append h hrest _
  · exact readProperty_append h hrest _
  · exact readProperty_append h hrest _
  case h_24 =>
    obtain ⟨⟨b, left⟩, hread, heq⟩ := map_eq_ok.1 h
    obtain ⟨rfl, rfl⟩ := Prod.mk.inj heq
    exact map_eq_ok.2 ⟨_, readBoundary_append hread hparen more, rfl⟩
  case h_25 =>
    split at h
    · next hc =>
      obtain ⟨rfl, rfl⟩ := Prod.mk.inj (Except.ok.inj h)
      rw [List.cons_append, readEscape.eq_def]
      simp [*]
    · simp at h
  all_goals
    obtain ⟨rfl, rfl⟩ := Prod.mk.inj (Except.ok.inj h)
    rfl

/-! ### Bracketed classes -/

/-- Where a character stands first, by the first character of the text. -/
theorem splitAtFirst?_cons (d c : Char) (cs : List Char) :
    splitAtFirst? [d] (c :: cs) =
      if d = c then some ([], cs) else (splitAtFirst? [d] cs).map fun (a, b) ↦ (c :: a, b) := by
  simp [splitAtFirst?, List.isPrefixOf]

/-- Where a character stands first, in front of more text as well. -/
theorem splitAtFirst?_append {d : Char} {name : List Char}
    (h : splitAtFirst? [d] cs = some (name, rest)) (more : List Char) :
    splitAtFirst? [d] (cs ++ more) = some (name, rest ++ more) := by
  induction cs generalizing name with
  | nil => simp [splitAtFirst?] at h
  | cons c cs ih =>
    rw [splitAtFirst?_cons] at h
    rw [List.cons_append, splitAtFirst?_cons]
    split at h
    · next hc =>
      obtain ⟨rfl, rfl⟩ := Prod.mk.inj (Option.some.inj h)
      rw [if_pos hc]
    · next hc =>
      obtain ⟨⟨name', rest'⟩, hread, heq⟩ := Option.map_eq_some_iff.1 h
      obtain ⟨rfl, rfl⟩ := Prod.mk.inj heq
      rw [if_neg hc, ih hread]
      rfl

/-- Where a character stands first behind a text in which it does not stand. -/
theorem mem_of_splitAtFirst?_append {d : Char} {name more : List Char}
    (h : splitAtFirst? [d] cs = none) {c : Char} (hc : d ≠ c)
    (hmore : splitAtFirst? [d] (cs ++ c :: more) = some (name, rest)) : c ∈ name := by
  induction cs generalizing name rest with
  | nil =>
    rw [List.nil_append, splitAtFirst?_cons, if_neg hc] at hmore
    obtain ⟨_, -, heq⟩ := Option.map_eq_some_iff.1 hmore
    rw [← (Prod.mk.inj heq).1]
    exact List.mem_cons_self ..
  | cons c' cs ih =>
    rw [splitAtFirst?_cons] at h
    rw [List.cons_append, splitAtFirst?_cons] at hmore
    split at h
    · simp at h
    · next hc' =>
      rw [if_neg hc'] at hmore
      obtain ⟨⟨name', rest'⟩, hread, heq⟩ := Option.map_eq_some_iff.1 hmore
      rw [← (Prod.mk.inj heq).1]
      exact List.mem_cons_of_mem _ (ih (Option.map_eq_none_iff.1 h) hread)

/-- The name of an ASCII class is made of letters. -/
theorem isAlpha_of_posixNamed? {name : List Char} {k : PosixClass}
    (h : posixNamed? name = some k) : ∀ c ∈ name, c.isAlpha := by
  obtain ⟨e, he, hk⟩ := List.exists_of_findSome?_eq_some h
  have hletters {table : List (String × PosixClass)}
      (h : table.all fun e ↦ e.1.toList.all Char.isAlpha) (he : e ∈ table) :
      ∀ c ∈ e.1.toList, c.isAlpha :=
    List.all_eq_true.1 (List.all_eq_true.1 h e he)
  obtain rfl : e.1.toList = name := by
    by_contra hne
    simp [hne] at hk
  exact hletters (by decide) he

/-- Nothing with a parenthesis in it is the name of an ASCII class. -/
theorem posixNamed?_eq_none {name : List Char} (hparen : IsParen paren) (h : paren ∈ name) :
    posixNamed? name = none := by
  refine Option.eq_none_iff_forall_ne_some.2 fun k hk ↦ ?_
  have hletter := isAlpha_of_posixNamed? hk paren h
  rcases hparen with rfl | rfl <;> simp at hletter

/-- Reads the name of an ASCII class and what closes it. -/
def readClassName? (negated : Bool) (cs : List Char) : Option (Bracket × List Char) :=
  match splitAtFirst? [':'] cs with
  | some (name, ']' :: rest) => (posixNamed? name).map fun k ↦ (.posix k negated, rest)
  | _ => none

/-- The name of an ASCII class is not completed behind a parenthesis. -/
theorem readClassName?_append (hparen : IsParen paren) (negated : Bool) (cs more : List Char) :
    readClassName? negated (cs ++ paren :: more) =
      (readClassName? negated cs).map fun (b, rest) ↦ (b, rest ++ paren :: more) := by
  unfold readClassName?
  cases hcs : splitAtFirst? [':'] cs with
  | none =>
    split
    · next hmore =>
      have hmem := mem_of_splitAtFirst?_append hcs (hparen.ne (by decide)).symm hmore
      rw [posixNamed?_eq_none hparen hmem]
      rfl
    · rfl
  | some found =>
    obtain ⟨name, left⟩ := found
    rw [splitAtFirst?_append hcs]
    cases left with
    | nil => simp [hparen.ne (by decide : ¬IsParen ']')]
    | cons c left =>
      by_cases hc : c = ']'
      · subst hc
        simp only [List.cons_append, Option.map_map]
        rfl
      · simp [hc]

/-- What does not begin with a colon is no ASCII class. -/
theorem readPosix?_of_ne {c : Char} (hc : c ≠ ':') (cs : List Char) :
    readPosix? (c :: cs) = none := by
  simp [readPosix?, hc]

theorem readPosix?_colon_of_ne {c : Char} (hc : c ≠ '^') (cs : List Char) :
    readPosix? (':' :: c :: cs) = readClassName? false (c :: cs) := by
  simp [readPosix?, hc]
  rfl

/-- An ASCII class has its name behind a colon, and behind a caret if it is negated. -/
theorem exists_of_readPosix? {b : Bracket} (h : readPosix? cs = some (b, rest)) :
    ∃ negated name, cs = ':' :: ((if negated then ['^'] else []) ++ name) ∧
      readClassName? negated name = some (b, rest) := by
  cases cs with
  | nil => simp [readPosix?] at h
  | cons c r =>
    by_cases hc : c = ':'
    · subst hc
      cases r with
      | nil => simp [readPosix?, splitAtFirst?] at h
      | cons c' r' =>
        by_cases hc' : c' = '^'
        · subst hc'
          exact ⟨true, r', rfl, h⟩
        · rw [readPosix?_colon_of_ne hc'] at h
          exact ⟨false, c' :: r', rfl, h⟩
    · simp [readPosix?_of_ne hc] at h

/-- What is no ASCII class does not become one in front of a parenthesis. -/
theorem readPosix?_append (hparen : IsParen paren) (cs more : List Char) :
    readPosix? (cs ++ paren :: more) =
      (readPosix? cs).map fun (b, rest) ↦ (b, rest ++ paren :: more) := by
  cases cs with
  | nil => exact readPosix?_of_ne (hparen.ne (by decide)) more
  | cons c cs =>
    by_cases hc : c = ':'
    · subst hc
      cases cs with
      | nil =>
        rw [List.cons_append, List.nil_append, readPosix?_colon_of_ne (hparen.ne (by decide))]
        exact readClassName?_append hparen false [] more
      | cons d cs =>
        by_cases hd : d = '^'
        · subst hd
          exact readClassName?_append hparen true cs more
        · rw [List.cons_append, List.cons_append, readPosix?_colon_of_ne hd,
            readPosix?_colon_of_ne hd]
          exact readClassName?_append hparen false (d :: cs) more
    · rw [List.cons_append, readPosix?_of_ne hc, readPosix?_of_ne hc]
      rfl

/-- The hyphens at the start of a class are those of the text alone, if something follows them in
it. -/
theorem readHyphens_append {b b' : Bracket} {n m : Nat} (hn : cs.length ≤ n) (hm : n ≤ m)
    (h : readHyphens verbose b n cs = (b', rest)) (hrest : rest ≠ []) (more : List Char) :
    readHyphens verbose b m (cs ++ more) = (b', rest ++ more) := by
  induction n generalizing cs m b with
  | zero =>
    obtain rfl := List.length_eq_zero_iff.1 (Nat.le_zero.1 hn)
    simp [readHyphens, hrest.symm] at h
  | succ n ih =>
    obtain ⟨m, rfl⟩ : ∃ m', m = m' + 1 := ⟨m - 1, by omega⟩
    cases cs with
    | nil => simp [readHyphens, hrest.symm] at h
    | cons c cs =>
      by_cases hc : c = '-'
      · subst hc
        rw [readHyphens] at h
        have hskip : skip verbose cs ≠ [] := by
          intro hnil
          rw [hnil] at h
          cases n <;> simp [readHyphens, hrest.symm] at h
        have hlen := length_skip_le verbose cs
        rw [List.length_cons] at hn
        rw [List.cons_append, readHyphens, skip_append (.inr hskip)]
        exact ih (by omega) (by omega) h
      · simp [readHyphens, hc] at h
        obtain ⟨rfl, rfl⟩ := h
        simp [readHyphens, hc]

/-- Reads what stands for itself at the start of a class, behind the caret if there is one. -/
def readLiteralStart (verbose negated : Bool) (cs : List Char) : Bool × Bracket × List Char :=
  match readHyphens verbose .empty cs.length cs with
  | (.empty, ']' :: rest) => (negated, .literal ']', skip verbose rest)
  | (b, rest) => (negated, b, rest)

/-- What stands for itself at the start of a class is the same in front of more text. -/
theorem readLiteralStart_append {negated negated' : Bool} {b : Bracket}
    (h : readLiteralStart verbose negated cs = (negated', b, rest)) (hrest : rest ≠ [])
    (more : List Char) :
    readLiteralStart verbose negated (cs ++ more) = (negated', b, rest ++ more) := by
  unfold readLiteralStart at h ⊢
  split at h
  · next left hread =>
    obtain ⟨rfl, hb, rfl⟩ := by simpa using h
    have hmore := readHyphens_append (Nat.le_refl _) (by simp : cs.length ≤ (cs ++ more).length)
      hread (by simp) more
    rw [hmore, List.cons_append]
    simp [hb, skip_append (.inr hrest)]
  · next b' left hne hread =>
    obtain ⟨rfl, rfl, rfl⟩ := by simpa using h
    have hmore := readHyphens_append (Nat.le_refl _) (by simp : cs.length ≤ (cs ++ more).length)
      hread hrest more
    rw [hmore]
    split
    · next heq =>
      -- the bracket that closes would have stood in the text itself
      obtain ⟨rfl, hleft⟩ := Prod.mk.inj heq
      cases left with
      | nil => exact absurd rfl hrest
      | cons c r => exact (hne r rfl (by rw [(List.cons.inj hleft).1])).elim
    · next heq =>
      obtain ⟨rfl, rfl⟩ := Prod.mk.inj heq
      rfl

/-- Behind a caret a class is negated. -/
theorem readBracketStart_caret {r : List Char} (h : skip verbose cs = '^' :: r) :
    readBracketStart verbose cs = readLiteralStart verbose true (skip verbose r) := by
  simp only [readBracketStart, h]
  rfl

theorem readBracketStart_of_ne {c : Char} {r : List Char} (h : skip verbose cs = c :: r)
    (hc : c ≠ '^') : readBracketStart verbose cs = readLiteralStart verbose false (c :: r) := by
  simp [readBracketStart, h, hc]
  rfl

/-- The start of a class that has more to it is the same in front of more text. -/
theorem readBracketStart_append {negated : Bool} {b : Bracket}
    (h : readBracketStart verbose cs = (negated, b, rest)) (hrest : rest ≠ [])
    (more : List Char) : readBracketStart verbose (cs ++ more) = (negated, b, rest ++ more) := by
  cases hskip : skip verbose cs with
  | nil =>
    -- nothing can come of nothing
    simp [readBracketStart, hskip, readHyphens, hrest.symm] at h
  | cons c r =>
    have hmore : skip verbose (cs ++ more) = c :: (r ++ more) := by
      rw [skip_append (.inr (by simp [hskip])), hskip, List.cons_append]
    by_cases hc : c = '^'
    · subst hc
      rw [readBracketStart_caret hskip] at h
      have hr : skip verbose r ≠ [] := by
        intro hnil
        simp [hnil, readLiteralStart, readHyphens, hrest.symm] at h
      rw [readBracketStart_caret hmore, skip_append (.inr hr)]
      exact readLiteralStart_append h hrest more
    · rw [readBracketStart_of_ne hskip hc] at h
      rw [readBracketStart_of_ne hmore hc]
      exact readLiteralStart_append h hrest more

/-- A member of a class is an escape or a character, in front of a parenthesis as well. -/
theorem readClassItem_append {a : Atom} (h : readClassItem verbose cs = .ok (a, rest))
    (hrest : IsClear verbose rest) (hparen : IsParen paren) (more : List Char) :
    readClassItem verbose (cs ++ paren :: more) = .ok (a, rest ++ paren :: more) := by
  unfold readClassItem at h
  split at h
  · simp at h
  · exact readEscape_append h hrest hparen more
  · next c r hc =>
    obtain ⟨rfl, rfl⟩ := Prod.mk.inj (Except.ok.inj h)
    simp_all [readClassItem]

/-- A parenthesis behind a hyphen makes no difference to what the hyphen is. -/
theorem peekAfterHyphen_append {c : Char} (hparen : IsParen paren) (hc : ¬IsParen c)
    (cs more : List Char) :
    peekAfterHyphen verbose (cs ++ paren :: more) = some c ↔
      peekAfterHyphen verbose cs = some c := by
  have hne : paren ≠ c := hparen.ne hc
  have hhead : ∀ cs : List Char, (cs ++ paren :: more).head? = some c ↔ cs.head? = some c := by
    intro cs
    cases cs with
    | nil => simp [hne]
    | cons d cs => simp
  have hspace : isSpace paren = false := by rcases hparen with rfl | rfl <;> decide
  have hdrop : ∀ cs : List Char, (cs ++ paren :: more).dropWhile isSpace =
      cs.dropWhile isSpace ++ paren :: more := by
    intro cs
    rw [List.dropWhile_append]
    split
    · next hnil =>
      rw [List.isEmpty_iff.1 hnil, List.dropWhile_cons_of_neg (by simp [hspace])]
      rfl
    · rfl
  unfold peekAfterHyphen
  cases verbose with
  | false => exact hhead cs
  | true =>
    simp only [if_true, hdrop]
    cases cs.dropWhile isSpace with
    | nil =>
      have hhash := hparen.ne (by decide : ¬IsParen '#')
      simp [hne, hhash]
    | cons d r =>
      by_cases hd : d = '#'
      · subst hd
        simp only [List.cons_append, hdrop, hhead]
      · simp [hd]

/-- A range of a class, or a single member, is not changed by a parenthesis behind it. -/
theorem readClassRange_append {b : Bracket} (h : readClassRange verbose cs = .ok (b, rest))
    (hrest : IsClear verbose rest) (hparen : IsParen paren) (more : List Char) :
    readClassRange verbose (cs ++ paren :: more) = .ok (b, rest ++ paren :: more) := by
  unfold readClassRange at h
  obtain ⟨⟨first, left⟩, hfirst, h⟩ := bind_eq_ok.1 h
  have hskip : skip verbose left ≠ [] := by
    intro hnil
    simp [hnil] at h
  have hmore := readClassItem_append hfirst (.inr (ne_nil_of_skip_ne_nil hskip)) hparen more
  refine bind_eq_ok.2 ⟨_, hmore, ?_⟩
  -- a range, a hyphen that makes none, or a single member
  simp only [skip_append (.inr hskip : IsClear verbose _)] at h ⊢
  split at h
  · simp at h
  · next r heq =>
    rw [heq, List.cons_append]
    simp only [peekAfterHyphen_append hparen (by decide : ¬IsParen ']'),
      peekAfterHyphen_append hparen (by decide : ¬IsParen '-')]
    split at h
    · next hpeek =>
      obtain ⟨b', hb, hpure⟩ := bind_eq_ok.1 h
      obtain ⟨rfl, rfl⟩ := Prod.mk.inj (pure_eq_ok.1 hpure)
      rw [if_pos hpeek]
      exact bind_eq_ok.2 ⟨_, hb, rfl⟩
    · next hpeek =>
      rw [if_neg hpeek]
      obtain ⟨⟨last, left'⟩, hlast, h⟩ := bind_eq_ok.1 h
      have hr : skip verbose r ≠ [] := by
        intro hnil
        simp [hnil, readClassItem] at hlast
      split at h
      · next hlo hhi =>
        split at h
        · next hle =>
          obtain ⟨rfl, rfl⟩ := Prod.mk.inj (pure_eq_ok.1 h)
          have hmore' := readClassItem_append hlast hrest hparen more
          rw [skip_append (.inr hr)]
          refine bind_eq_ok.2 ⟨_, hmore', ?_⟩
          simp only [hlo, hhi]
          exact if_pos hle
        · simp at h
      · simp at h
  · next hhyphen =>
    obtain ⟨b', hb, hpure⟩ := bind_eq_ok.1 h
    obtain ⟨rfl, rfl⟩ := Prod.mk.inj (pure_eq_ok.1 hpure)
    cases hleft : skip verbose left with
    | nil => exact absurd hleft hskip
    | cons c r =>
      have hc : c ≠ '-' := fun heq ↦ hhyphen r (heq ▸ hleft)
      simp [hc, hb, bind, Except.bind]
      rfl

/-- The members of a class end with its closing bracket. -/
theorem ne_nil_of_readMembers {n : Nat} {pending : PendingOperation} {acc : Bracket}
    {r : Bracket × List Char} (h : readMembers verbose n pending acc cs = .ok r) : cs ≠ [] := by
  rintro rfl
  cases n <;> simp [readMembers, skip_nil] at h

/-- Reads the operator of two characters with which a text begins. -/
def readOperation? : List Char → Option (SetOperation × List Char)
  | '&' :: '&' :: r => some (.intersection, r)
  | '-' :: '-' :: r => some (.difference, r)
  | '~' :: '~' :: r => some (.symmetricDifference, r)
  | _ => none

/-- An operator does not come about in front of a parenthesis, which is none of its characters. -/
theorem readOperation?_append (hparen : IsParen paren) (c : Char) (cs more : List Char) :
    readOperation? (c :: (cs ++ paren :: more)) =
      (readOperation? (c :: cs)).map fun (o, rest) ↦ (o, rest ++ paren :: more) := by
  cases cs with
  | nil =>
    have hand := hparen.ne (by decide : ¬IsParen '&')
    have hminus := hparen.ne (by decide : ¬IsParen '-')
    have htilde := hparen.ne (by decide : ¬IsParen '~')
    simp [readOperation?, hand, hminus, htilde]
  | cons d cs =>
    unfold readOperation?
    split
    case h_4 => split <;> simp_all
    all_goals simp_all

/-- A step of the reader of members where no bracket stands. -/
theorem readMembers_of_ne {n : Nat} {c : Char} {r : List Char} (hskip : skip verbose cs = c :: r)
    (hclose : c ≠ ']') (hopen : c ≠ '[') (pending : PendingOperation) (acc : Bracket) :
    readMembers verbose (n + 1) pending acc cs =
      match readOperation? (c :: r) with
      | some (o, rest) => readMembers verbose n (some (o, pending.close acc)) .empty rest
      | none => (do
        let (b, rest) ← readClassRange verbose (c :: r)
        readMembers verbose n pending (acc.add b) rest) := by
  rw [readMembers, hskip]
  unfold readOperation?
  split <;> simp_all

/-- The members of a class up to its closing bracket, by induction on the fuel; classes within the
class are read with what is left of it. -/
theorem readMembers_append {n m : Nat} (hm : n ≤ m) {pending : PendingOperation} {acc b : Bracket}
    (h : readMembers verbose n pending acc cs = .ok (b, rest)) (hparen : IsParen paren)
    (more : List Char) :
    readMembers verbose m pending acc (cs ++ paren :: more) = .ok (b, rest ++ paren :: more) := by
  induction n generalizing m pending acc b cs rest with
  | zero => simp [readMembers] at h
  | succ n ih =>
    obtain ⟨m, rfl⟩ : ∃ m', m = m' + 1 := ⟨m - 1, by omega⟩
    have hnm : n ≤ m := by omega
    cases hskip : skip verbose cs with
    | nil => simp [readMembers, hskip] at h
    | cons c r =>
      have hmore : skip verbose (cs ++ paren :: more) = c :: (r ++ paren :: more) := by
        rw [skip_append (.inr (by simp [hskip])), hskip, List.cons_append]
      by_cases hclose : c = ']'
      · subst hclose
        rw [readMembers, hskip] at h
        obtain ⟨rfl, rfl⟩ := Prod.mk.inj (Except.ok.inj h)
        rw [readMembers, hmore]
        rfl
      by_cases hopen : c = '['
      · subst hopen
        rw [readMembers, hskip] at h
        rw [readMembers, hmore]
        simp only [readPosix?_append hparen]
        cases hposix : readPosix? r with
        | some found =>
          simp only [hposix, Option.map_some] at h ⊢
          exact ih hnm h
        | none =>
          -- a class within the class, whose members are read with the same fuel
          simp only [hposix, Option.map_none] at h ⊢
          obtain ⟨⟨inner, left⟩, hinner, hnext⟩ := bind_eq_ok.1 h
          have hstart :
              readBracketStart verbose (r ++ paren :: more) = (_, _, _ ++ paren :: more) :=
            readBracketStart_append rfl (ne_nil_of_readMembers hinner) (paren :: more)
          rw [hstart]
          exact bind_eq_ok.2 ⟨_, ih hnm hinner, ih hnm hnext⟩
      rw [readMembers_of_ne hskip hclose hopen] at h
      rw [readMembers_of_ne hmore hclose hopen, readOperation?_append hparen]
      cases hoperation : readOperation? (c :: r) with
      | some found =>
        simp only [hoperation, Option.map_some] at h ⊢
        exact ih hnm h
      | none =>
        simp only [hoperation, Option.map_none] at h ⊢
        obtain ⟨⟨b', left⟩, hrange, hnext⟩ := bind_eq_ok.1 h
        have hrange' :=
          readClassRange_append hrange (.inr (ne_nil_of_readMembers hnext)) hparen more
        exact bind_eq_ok.2 ⟨_, hrange', ih hnm hnext⟩

/-- A class that is closed is the same class in front of a parenthesis. -/
theorem readBracket_append {b : Bracket} (h : readBracket verbose cs = .ok (b, rest))
    (hparen : IsParen paren) (more : List Char) :
    readBracket verbose (cs ++ paren :: more) = .ok (b, rest ++ paren :: more) := by
  unfold readBracket at h ⊢
  obtain ⟨⟨inner, left⟩, hinner, hpure⟩ := bind_eq_ok.1 h
  obtain ⟨rfl, rfl⟩ := Prod.mk.inj (pure_eq_ok.1 hpure)
  have hstart : readBracketStart verbose (cs ++ paren :: more) = (_, _, _ ++ paren :: more) :=
    readBracketStart_append rfl (ne_nil_of_readMembers hinner) (paren :: more)
  rw [hstart]
  exact bind_eq_ok.2 ⟨_, readMembers_append (by simp) hinner hparen more, rfl⟩

/-! ### Repetitions -/

/-- A bound of a repetition is the same number in front of more text, if something follows it. -/
theorem readCount_append {n : Nat} (h : readCount verbose cs = .ok (n, rest)) (hrest : rest ≠ [])
    (more : List Char) : readCount verbose (cs ++ more) = .ok (n, rest ++ more) := by
  unfold readCount at h ⊢
  cases hdigits : readRun verbose (fun c ↦ '0' ≤ c && c ≤ '9') (cs.dropWhile isSpace) with
  | mk digits left =>
    cases hblanks : readRun verbose isSpace left with
    | mk blanks left' =>
      simp only [hdigits, hblanks] at h
      split at h
      · simp at h
      · next hcount =>
        obtain ⟨rfl, rfl⟩ := Prod.mk.inj (Except.ok.inj h)
        have hleft : left ≠ [] := by
          rintro rfl
          exact hrest (Prod.mk.inj hblanks).2.symm
        have hdrop : cs.dropWhile isSpace ≠ [] := by
          intro hnil
          rw [hnil] at hdigits
          exact hleft (Prod.mk.inj hdigits).2.symm
        have hmore : (cs ++ more).dropWhile isSpace = cs.dropWhile isSpace ++ more := by
          rw [List.dropWhile_append, if_neg (by simpa using hdrop)]
        simp only [hmore, readRun_append hdigits hleft, readRun_append hblanks hrest]
        exact if_neg hcount

/-- A repetition is made lazy by a question mark only. -/
theorem readGreedy_append (hparen : IsParen paren) (cs more : List Char) :
    readGreedy (cs ++ paren :: more) = ((readGreedy cs).1, (readGreedy cs).2 ++ paren :: more) := by
  cases cs with
  | nil => simp [readGreedy, hparen.ne (by decide : ¬IsParen '?')]
  | cons c cs =>
    by_cases hc : c = '?'
    · subst hc
      rfl
    · simp [readGreedy, hc]

/-- Reads the brace that closes the bounds of a repetition. -/
def closeBounds (min : Nat) (max : Option Nat) :
    List Char → Except Error ((Nat × Option Nat) × List Char)
  | '\x7d' :: r => if max.all (min ≤ ·) then .ok ((min, max), r) else .error .invalidCount
  | _ => .error .unexpectedEnd

/-- The brace that closes the bounds of a repetition is there already. -/
theorem closeBounds_append {min : Nat} {max : Option Nat} {bounds : Nat × Option Nat}
    (h : closeBounds min max cs = .ok (bounds, rest)) (more : List Char) :
    closeBounds min max (cs ++ more) = .ok (bounds, rest ++ more) := by
  unfold closeBounds at h
  split at h
  · split at h
    · next hle =>
      obtain ⟨rfl, rfl⟩ := Prod.mk.inj (Except.ok.inj h)
      exact if_pos hle
    · simp at h
  · simp at h

/-- Reads the upper bound of a repetition behind its lower one, which is both bounds if no comma
follows. -/
def readUpperBound (verbose : Bool) (min : Nat) :
    List Char → Except Error (Option Nat × List Char)
  | ',' :: r =>
    match skip verbose r with
    | '\x7d' :: r' => .ok (none, '\x7d' :: r')
    | r' => (readCount verbose r').map fun (max, rest) ↦ (some max, rest)
  | r => .ok (some min, r)

/-- The upper bound of a repetition is the same in front of more text, if something follows it. -/
theorem readUpperBound_append {min : Nat} {max : Option Nat}
    (h : readUpperBound verbose min cs = .ok (max, rest)) (hrest : rest ≠ []) (more : List Char) :
    readUpperBound verbose min (cs ++ more) = .ok (max, rest ++ more) := by
  unfold readUpperBound at h
  split at h
  · next r =>
    have hr : skip verbose r ≠ [] := by
      intro hnil
      simp [hnil, readCount, readRun, takeRun, Except.map] at h
    rw [List.cons_append, readUpperBound]
    simp only [skip_append (.inr hr : IsClear verbose (skip verbose r))]
    split at h
    · next r' heq =>
      obtain ⟨rfl, rfl⟩ := Prod.mk.inj (Except.ok.inj h)
      rw [heq]
      rfl
    · next hbrace =>
      obtain ⟨⟨max', left⟩, hmax, heq⟩ := map_eq_ok.1 h
      obtain ⟨rfl, rfl⟩ := Prod.mk.inj heq
      cases hskip : skip verbose r with
      | nil => exact absurd hskip hr
      | cons c r' =>
        have hc : c ≠ '\x7d' := fun heq ↦ hbrace r' (heq ▸ hskip)
        rw [hskip] at hmax
        have hmore := readCount_append hmax hrest more
        rw [List.cons_append] at hmore
        simp [hc, hmore, Except.map]
  · next hcomma =>
    obtain ⟨rfl, rfl⟩ := Prod.mk.inj (Except.ok.inj h)
    cases cs with
    | nil => exact absurd rfl hrest
    | cons c r =>
      have hc : c ≠ ',' := fun heq ↦ hcomma r (heq ▸ rfl)
      simp [readUpperBound, hc]

/-- The bounds of a repetition are read in three steps: the lower bound, the upper one, and the
brace. -/
theorem readBounds_eq (verbose : Bool) (cs : List Char) :
    readBounds verbose cs = (do
      let (min, rest) ← readCount verbose (skip verbose cs)
      let (max, rest) ← readUpperBound verbose min rest
      closeBounds min max rest) := by
  unfold readBounds
  refine bind_congr fun (min, rest) ↦ ?_
  simp only
  split
  · next r =>
    rw [readUpperBound]
    cases skip verbose r with
    | nil => rfl
    | cons c r' =>
      by_cases hc : c = '\x7d'
      · subst hc
        rfl
      · simp [hc]
        rfl
  · next hcomma =>
    rw [readUpperBound]
    · rfl
    · exact hcomma

/-- The bounds of a repetition, which end with a brace, are the same in front of more text. -/
theorem readBounds_append {bounds : Nat × Option Nat}
    (h : readBounds verbose cs = .ok (bounds, rest)) (more : List Char) :
    readBounds verbose (cs ++ more) = .ok (bounds, rest ++ more) := by
  rw [readBounds_eq] at h ⊢
  obtain ⟨⟨min, left⟩, hmin, h⟩ := bind_eq_ok.1 h
  obtain ⟨⟨max, left'⟩, hmax, hclose⟩ := bind_eq_ok.1 h
  have hleft' : left' ≠ [] := by
    rintro rfl
    simp [closeBounds] at hclose
  have hleft : left ≠ [] := by
    rintro rfl
    exact hleft' (Prod.mk.inj (Except.ok.inj hmax)).2.symm
  have hskip : skip verbose cs ≠ [] := by
    intro hnil
    simp [hnil, readCount, readRun, takeRun] at hmin
  rw [skip_append (.inr hskip)]
  refine bind_eq_ok.2 ⟨_, readCount_append hmin hleft more, ?_⟩
  exact bind_eq_ok.2 ⟨_, readUpperBound_append hmax hleft' more, closeBounds_append hclose more⟩

/-! ### Groups -/

/-- A hyphen among flags is read once, and the flags behind it are cleared. -/
theorem readFlags_hyphen {cleared : Bool} {fc : FlagChange} {c : Char} (hcolon : c ≠ ':')
    (hclose : c ≠ ')') (cs : List Char) :
    readFlags cleared fc ('-' :: c :: cs) =
      if cleared then .error .invalidFlags else readFlags true fc (c :: cs) :=
  readFlags.eq_4 _ _ _ (fun _ heq ↦ hcolon (List.cons.inj heq).1)
    (fun _ heq ↦ hclose (List.cons.inj heq).1)

/-- Any other character ends the flags or is a flag that has not been given yet. -/
theorem readFlags_cons {cleared : Bool} {fc : FlagChange} {c : Char} (hc : c ≠ '-')
    (cs : List Char) :
    readFlags cleared fc (c :: cs) =
      if c = ':' ∨ c = ')' then .ok (fc, c :: cs)
      else match Flag.ofChar? c with
        | none => .error .invalidFlags
        | some f =>
          if (fc.value? f).isSome then .error .invalidFlags
          else readFlags cleared (fc ++ [(f, !cleared)]) cs :=
  readFlags.eq_5 _ _ _ _ hc

/-- Flags end with a colon or a parenthesis of their own. -/
theorem readFlags_append {cleared : Bool} {fc fc' : FlagChange}
    (h : readFlags cleared fc cs = .ok (fc', rest)) (more : List Char) :
    readFlags cleared fc (cs ++ more) = .ok (fc', rest ++ more) := by
  induction cs generalizing cleared fc with
  | nil => simp [readFlags] at h
  | cons c cs ih =>
    by_cases hc : c = '-'
    · subst hc
      cases cs with
      | nil => cases cleared <;> simp [readFlags] at h
      | cons d cs =>
        by_cases hd : d = ':' ∨ d = ')'
        · rcases hd with rfl | rfl <;> simp [readFlags] at h
        · obtain ⟨hcolon, hclose⟩ := not_or.1 hd
          rw [readFlags_hyphen hcolon hclose] at h
          rw [List.cons_append, List.cons_append, readFlags_hyphen hcolon hclose]
          split at h
          · simp at h
          · next hcleared =>
            rw [if_neg hcleared]
            exact ih h
    · rw [readFlags_cons hc] at h
      rw [List.cons_append, readFlags_cons hc]
      split at h
      · next hend =>
        obtain ⟨rfl, rfl⟩ := Prod.mk.inj (Except.ok.inj h)
        rw [if_pos hend]
        rfl
      · next hend =>
        rw [if_neg hend]
        split at h
        · simp at h
        · split at h
          · simp at h
          · next hfree =>
            rw [if_neg hfree]
            exact ih h

/-- The name of a group ends with a bracket of its own. -/
theorem readGroupName_append {name : List Char} (h : readGroupName cs = .ok (name, rest))
    (more : List Char) : readGroupName (cs ++ more) = .ok (name, rest ++ more) := by
  unfold readGroupName at h
  split at h
  · simp at h
  · simp at h
  · next hsplit =>
    split at h
    · next hname =>
      obtain ⟨rfl, rfl⟩ := Prod.mk.inj (Except.ok.inj h)
      rw [readGroupName, splitAtFirst?_append hsplit]
      exact if_pos hname
    · simp at h

/-- The head that flags make of a group, with what stands behind them. -/
def flagsHead : FlagChange × List Char → Except Error (GroupHead × List Char)
  | (fc, ':' :: rest) => .ok (.plain fc, rest)
  | (fc, _ :: rest) =>
    if fc.isEmpty then .error .nothingToRepeat else .ok (.setFlags fc, rest)
  | (_, []) => .error .unexpectedEnd

/-- What flags make of a group is settled by the character behind them. -/
theorem flagsHead_append {fc : FlagChange} {head : GroupHead}
    (h : flagsHead (fc, cs) = .ok (head, rest)) (more : List Char) :
    flagsHead (fc, cs ++ more) = .ok (head, rest ++ more) := by
  unfold flagsHead at h
  split at h
  · next heq =>
    obtain ⟨rfl, rfl⟩ := Prod.mk.inj heq
    obtain ⟨rfl, rfl⟩ := Prod.mk.inj (Except.ok.inj h)
    rfl
  · next c r hcolon heq =>
    obtain ⟨rfl, rfl⟩ := Prod.mk.inj heq
    split at h
    · simp at h
    · next hfc =>
      obtain ⟨rfl, rfl⟩ := Prod.mk.inj (Except.ok.inj h)
      simp [flagsHead, hfc]
  · simp at h

/-- Behind a question mark that begins neither a lookaround nor a name stand flags. -/
theorem readGroupHead_flags {c : Char} {r : List Char} (hskip : skip verbose cs = '?' :: c :: r)
    (hc : c ∉ ['=', '!', '<', 'P']) :
    readGroupHead verbose cs = (do flagsHead (← readFlags false [] (c :: r))) := by
  simp only [List.mem_cons, List.not_mem_nil, or_false, not_or] at hc
  obtain ⟨hequal, hnot, hname, hname'⟩ := hc
  rw [readGroupHead, hskip]
  split
  case h_7 heq =>
    obtain rfl := (List.cons.inj heq).2
    refine bind_congr fun found ↦ ?_
    unfold flagsHead
    rfl
  all_goals simp_all

/-- The head of a group is the same in front of a parenthesis; only a numbered group may have an
empty rest, which must be clear then. -/
theorem readGroupHead_append {head : GroupHead}
    (h : readGroupHead verbose cs = .ok (head, rest))
    (hrest : head = .numbered → IsClear verbose rest) (hparen : IsParen paren)
    (more : List Char) :
    readGroupHead verbose (cs ++ paren :: more) = .ok (head, rest ++ paren :: more) := by
  unfold readGroupHead at h
  -- where nothing is left, the group is a numbered one
  have hskip : IsClear verbose (skip verbose cs) := by
    by_cases hnil : skip verbose cs = []
    · rw [hnil] at h ⊢
      obtain ⟨rfl, rfl⟩ := Prod.mk.inj (Except.ok.inj h)
      exact hrest rfl
    · exact .inr hnil
  split at h
  · simp at h
  · simp at h
  · simp at h
  · simp at h
  · next heq =>
    obtain ⟨⟨name, left⟩, hname, hhead⟩ := map_eq_ok.1 h
    obtain ⟨rfl, rfl⟩ := Prod.mk.inj hhead
    rw [readGroupHead, skip_append hskip, heq]
    exact map_eq_ok.2 ⟨_, readGroupName_append hname _, rfl⟩
  · next r hequal hnot heq =>
    obtain ⟨⟨name, left⟩, hname, hhead⟩ := map_eq_ok.1 h
    obtain ⟨rfl, rfl⟩ := Prod.mk.inj hhead
    have hmore := readGroupName_append hname (paren :: more)
    rw [readGroupHead, skip_append hskip, heq]
    cases r with
    | nil => simp [readGroupName, splitAtFirst?] at hname
    | cons c r =>
      rw [List.cons_append] at hmore
      simp_all [Except.map]
  · next r hequal hnot hequal' hnot' hname hname' heq =>
    obtain ⟨⟨fc, left⟩, hflags, hhead⟩ := bind_eq_ok.1 h
    cases r with
    | nil => simp [readFlags] at hflags
    | cons c r =>
      have hc : c ∉ ['=', '!', '<', 'P'] := by
        have hP : c ≠ 'P' := by
          rintro rfl
          simp [readFlags, Flag.ofChar?] at hflags
        simp_all
      have hmore : skip verbose (cs ++ paren :: more) = '?' :: c :: (r ++ paren :: more) := by
        rw [skip_append hskip, heq]
        rfl
      refine (readGroupHead_flags hmore hc).trans (bind_eq_ok.2 ⟨_, readFlags_append hflags _, ?_⟩)
      refine flagsHead_append ?_ _
      rw [← hhead]
      unfold flagsHead
      rfl
  · next hequal hnot hequal' hnot' hname hname' hquestion =>
    obtain ⟨rfl, rfl⟩ := Prod.mk.inj (Except.ok.inj h)
    rw [readGroupHead, skip_append hskip]
    cases hleft : skip verbose cs with
    | nil => simp [hparen.ne (by decide : ¬IsParen '?')]
    | cons c r =>
      have hc : c ≠ '?' := fun heq ↦ hquestion r (heq ▸ hleft)
      simp [hc]

end ModeLexer.Regex
