import Mathlib.Data.List.TakeWhile
import ModeLexer.Proofs.Regex.PlainNames
import ModeLexer.Proofs.Regex.Reader

/-!
# Plain text in parts

What an escape takes behind its first character is plain text, and so are the bounds of a repetition
and the flags of a group: their readers take digits, letters, blanks, a few marks and the names of
sets. The lemmas are about expressions that are not in verbose mode and are named after the readers,
with `_taken`.
-/

namespace ModeLexer

namespace Regex

open Unicode

variable {cs rest : List Char}

/-- Whether what is read of a text is plain. -/
def TakesPlain (cs rest : List Char) : Prop :=
  ∃ taken, cs = taken ++ rest ∧ ∀ c ∈ taken, IsPlain c

namespace TakesPlain

/-- Nothing has been taken. -/
theorem refl (cs : List Char) : TakesPlain cs cs := ⟨[], rfl, by simp⟩

/-- A plain text in front of the rest has been taken. -/
theorem of_append {taken : List Char} (h : ∀ c ∈ taken, IsPlain c) (rest : List Char) :
    TakesPlain (taken ++ rest) rest :=
  ⟨taken, rfl, h⟩

/-- One plain character more has been taken. -/
theorem cons {c : Char} (hc : IsPlain c) (h : TakesPlain cs rest) : TakesPlain (c :: cs) rest := by
  obtain ⟨taken, rfl, htaken⟩ := h
  exact ⟨c :: taken, rfl, List.forall_mem_cons.2 ⟨hc, htaken⟩⟩

/-- What is taken in two steps is plain if both of them take plain text. -/
theorem trans {left : List Char} (h : TakesPlain cs left) (h' : TakesPlain left rest) :
    TakesPlain cs rest := by
  obtain ⟨taken, rfl, htaken⟩ := h
  obtain ⟨taken', rfl, htaken'⟩ := h'
  exact ⟨taken ++ taken', by rw [List.append_assoc], by simpa [or_imp, forall_and] using
    ⟨htaken, htaken'⟩⟩

end TakesPlain

/-! ### Runs -/

/-- A run consists of the characters in front of the rest, all of which satisfy the condition. -/
theorem takeRun_taken {p : Char → Bool} {n : Nat} {run : List Char}
    (h : takeRun false p n cs = (run, rest)) : cs = run ++ rest ∧ ∀ c ∈ run, p c := by
  induction n generalizing cs run with
  | zero =>
    cases cs <;> (obtain ⟨rfl, rfl⟩ := Prod.mk.inj h; simp)
  | succ n ih =>
    cases cs with
    | nil =>
      obtain ⟨rfl, rfl⟩ := Prod.mk.inj h
      simp
    | cons c cs =>
      rw [takeRun] at h
      split at h
      · next hc =>
        obtain ⟨rfl, rfl⟩ := Prod.mk.inj h
        obtain ⟨heq, hrun⟩ := ih (rfl : takeRun false p n cs = _)
        exact ⟨congrArg (c :: ·) heq, List.forall_mem_cons.2 ⟨hc, hrun⟩⟩
      · obtain ⟨rfl, rfl⟩ := Prod.mk.inj h
        simp

/-- A run ends in front of a character that does not belong to it. -/
theorem not_of_takeRun {p : Char → Bool} {n : Nat} (hn : cs.length ≤ n) {run : List Char} {c : Char}
    (h : takeRun false p n cs = (run, c :: rest)) : p c = false := by
  induction n generalizing cs run with
  | zero =>
    obtain rfl := List.length_eq_zero_iff.1 (Nat.le_zero.1 hn)
    simp [takeRun] at h
  | succ n ih =>
    cases cs with
    | nil => simp [takeRun] at h
    | cons d cs =>
      rw [takeRun] at h
      split at h
      · exact ih (Nat.le_of_succ_le_succ hn) (Prod.ext rfl (Prod.mk.inj h).2)
      · next hd =>
        obtain ⟨-, heq⟩ := Prod.mk.inj h
        obtain ⟨rfl, -⟩ := List.cons.inj heq
        simpa using hd

/-- A run consists of the characters in front of the rest, all of which satisfy the condition. -/
theorem readRun_taken {p : Char → Bool} {run : List Char}
    (h : readRun false p cs = (run, rest)) : cs = run ++ rest ∧ ∀ c ∈ run, p c :=
  takeRun_taken h

/-- A run of characters none of which is a bracket. -/
theorem takesPlain_of_readRun {p : Char → Bool} (hp : brackets.any p = false) {run : List Char}
    (h : readRun false p cs = (run, rest)) : TakesPlain cs rest := by
  obtain ⟨rfl, hrun⟩ := readRun_taken h
  exact .of_append (fun c hc ↦ isPlain_of_any hp (hrun c hc)) rest

/-! ### Escapes -/

/-- No bracket is a hexadecimal digit. -/
theorem isPlain_of_isHexDigit {c : Char} (h : isHexDigit c) : IsPlain c :=
  isPlain_of_any (by decide : brackets.any isHexDigit = false) h

/-- Hexadecimal digits are plain. -/
theorem readHexDigits_taken {n : Nat} {ds : List Char}
    (h : readHexDigits false n cs = .ok (ds, rest)) : TakesPlain cs rest := by
  induction n generalizing cs ds with
  | zero =>
    obtain ⟨-, rfl⟩ := Prod.mk.inj (Except.ok.inj h)
    exact .refl cs
  | succ n ih =>
    cases cs with
    | nil => simp [readHexDigits] at h
    | cons c cs =>
      rw [readHexDigits] at h
      split at h
      · next hc =>
        obtain ⟨⟨ds', rest'⟩, hread, heq⟩ := bind_eq_ok.1 h
        obtain ⟨-, rfl⟩ := Prod.mk.inj (pure_eq_ok.1 heq)
        exact .cons (isPlain_of_isHexDigit hc) (ih hread)
      · simp at h

/-- A plain text in braces. -/
theorem takesPlain_braces {name : List Char} (hname : ∀ c ∈ name, IsPlain c) (rest : List Char) :
    TakesPlain ('\x7b' :: (name ++ '\x7d' :: rest)) rest :=
  .cons (by decide) ((TakesPlain.of_append hname _).trans (.cons (by decide) (.refl rest)))

/-- What is read up to a closing brace that stands behind it. -/
theorem eq_append_of_readRun_brace {run : List Char} {c : Char}
    (h : readRun false (· ≠ '\x7d') cs = (run, c :: rest)) : cs = run ++ '\x7d' :: rest := by
  obtain rfl : c = '\x7d' := by simpa using not_of_takeRun (Nat.le_refl _) h
  exact (readRun_taken h).1

/-- The code of a character is plain, in braces or not. -/
theorem readHex_taken {n : Nat} {fixed : Char → Atom} {a : Atom}
    (h : readHex false n fixed cs = .ok (a, rest)) : TakesPlain cs rest := by
  unfold readHex at h
  split at h
  · simp [bind, Except.bind] at h
  · next r hskip =>
    obtain rfl : cs = '\x7b' :: r := hskip
    split at h
    · simp [bind, Except.bind] at h
    · next digits c left hrun =>
      split at h
      · next hall =>
        obtain ⟨hall, -⟩ : digits.all isHexDigit ∧ _ := by simpa using hall
        obtain rfl : rest = left := by
          simp only [bind, Except.bind, skip] at h
          split at h
          · exact (Prod.mk.inj (pure_eq_ok.1 h)).2.symm
          · simp at h
        obtain rfl : r = digits ++ '\x7d' :: rest := eq_append_of_readRun_brace hrun
        exact takesPlain_braces (fun c hc ↦ isPlain_of_isHexDigit (List.all_eq_true.1 hall c hc)) _
      · simp [bind, Except.bind] at h
  · obtain ⟨_, hdigits, h⟩ := bind_eq_ok.1 h
    obtain ⟨⟨digits, left⟩, hread, rfl⟩ := map_eq_ok.1 hdigits
    obtain rfl : rest = left := by
      simp only at h
      split at h
      · exact (Prod.mk.inj (pure_eq_ok.1 h)).2.symm
      · simp at h
    exact readHexDigits_taken hread

/-- A text in which a separator is found consists of what is before it, the separator and what is
behind it. -/
theorem eq_append_of_splitAtFirst? {separator a b : List Char}
    (h : splitAtFirst? separator cs = some (a, b)) : cs = a ++ separator ++ b := by
  induction cs generalizing a with
  | nil => simp [splitAtFirst?] at h
  | cons c cs ih =>
    rw [splitAtFirst?] at h
    split at h
    · next hprefix =>
      obtain ⟨rfl, rfl⟩ := Prod.mk.inj (Option.some.inj h)
      rw [List.nil_append, List.prefix_iff_eq_append.1 (List.isPrefixOf_iff_prefix.1 hprefix)]
    · obtain ⟨⟨a', b'⟩, hsplit, heq⟩ := Option.map_eq_some_iff.1 h
      obtain ⟨rfl, rfl⟩ := Prod.mk.inj heq
      rw [ih hsplit, List.cons_append, List.cons_append]

/-- The text that names the set of a property is plain. -/
theorem isPlain_of_propertyNamed? {name : List Char} {s : CharSet × Bool}
    (h : propertyNamed? name = some s) : ∀ c ∈ name, IsPlain c := by
  have hsplit {separator p v : List Char} (hseparator : ∀ c ∈ separator, IsPlain c)
      (hname : splitAtFirst? separator name = some (p, v))
      (hv : ∃ s, CharSet.valued? p v = some s) : ∀ c ∈ name, IsPlain c := by
    obtain ⟨s, hs⟩ := hv
    obtain ⟨hp, hv⟩ := isPlain_of_valued? hs
    rw [eq_append_of_splitAtFirst? hname]
    simpa [or_imp, forall_and] using ⟨hp, hseparator, hv⟩
  have hvalued {p v : List Char} {complemented : Bool}
      (h : (CharSet.valued? p v).map (·, complemented) = some s) :
      ∃ s, CharSet.valued? p v = some s :=
    (Option.map_eq_some_iff.1 h).imp fun _ ↦ And.left
  unfold propertyNamed? at h
  split at h
  · next p v hname => exact hsplit (isPlain_of_all (by decide)) hname (hvalued h)
  · split at h
    · next p v hname =>
      simp only [Option.orElse_eq_orElse, Option.orElse_eq_or, Option.or_eq_some_iff] at hname
      rcases hname with hname | ⟨-, hname⟩
      · exact hsplit (isPlain_of_all (by decide)) hname (hvalued h)
      · exact hsplit (isPlain_of_all (by decide)) hname (hvalued h)
    · obtain ⟨s, hs, -⟩ := Option.map_eq_some_iff.1 h
      exact isPlain_of_named? hs

/-- The name of a property is plain, because every name that is known is. -/
theorem readProperty_taken {negated : Bool} {a : Atom}
    (h : readProperty false negated cs = .ok (a, rest)) : TakesPlain cs rest := by
  unfold readProperty at h
  split at h
  · simp [bind, Except.bind] at h
  · next r hskip =>
    obtain rfl : cs = '\x7b' :: r := hskip
    split at h
    · simp [bind, Except.bind] at h
    · next name c left hrun =>
      simp only [bind, Except.bind] at h
      split at h
      · next hproperty =>
        obtain rfl : left = rest := (Prod.mk.inj (pure_eq_ok.1 h)).2
        obtain rfl : r = name ++ '\x7d' :: left := eq_append_of_readRun_brace hrun
        exact takesPlain_braces (isPlain_of_propertyNamed? hproperty) left
      · simp at h
  · simp [bind, Except.bind] at h
  · next c r _ _ hskip =>
    obtain rfl : cs = c :: r := hskip
    simp only [bind, Except.bind] at h
    split at h
    · next hproperty =>
      obtain rfl : r = rest := (Prod.mk.inj (pure_eq_ok.1 h)).2
      exact .cons (isPlain_of_propertyNamed? hproperty c (List.mem_singleton_self c)) (.refl r)
    · simp at h

/-- The kind of a word boundary is given by letters and a hyphen in braces. -/
theorem readBoundary_taken {a : Anchor} (h : readBoundary false cs = .ok (a, rest)) :
    TakesPlain cs rest := by
  unfold readBoundary at h
  split at h
  · next r =>
    split at h
    · simp at h
    · next c r' hskip =>
      obtain rfl : r = c :: r' := hskip
      split at h
      · split at h
        · next name left hrun =>
          split at h
          · obtain ⟨-, rfl⟩ := Prod.mk.inj (Except.ok.inj h)
            exact .cons (by decide) ((takesPlain_of_readRun (by decide) hrun).trans
              (.cons (by decide) (.refl left)))
          · simp at h
        · simp at h
      · obtain ⟨-, rfl⟩ := Prod.mk.inj (Except.ok.inj h)
        exact .refl _
  · obtain ⟨-, rfl⟩ := Prod.mk.inj (Except.ok.inj h)
    exact .refl _

/-- An escape is a character and plain text behind it. -/
theorem readEscape_taken {a : Atom} (h : readEscape false cs = .ok (a, rest)) :
    ∃ c r, cs = c :: r ∧ TakesPlain r rest := by
  unfold readEscape at h
  split at h
  · simp at h
  case h_2 | h_3 | h_4 => exact ⟨_, _, rfl, readHex_taken h⟩
  case h_5 | h_6 => exact ⟨_, _, rfl, readProperty_taken h⟩
  case h_24 =>
    obtain ⟨⟨b, left⟩, hread, heq⟩ := map_eq_ok.1 h
    obtain ⟨-, rfl⟩ := Prod.mk.inj heq
    exact ⟨_, _, rfl, readBoundary_taken hread⟩
  case h_25 =>
    split at h
    · obtain ⟨-, rfl⟩ := Prod.mk.inj (Except.ok.inj h)
      exact ⟨_, _, rfl, .refl _⟩
    · simp at h
  all_goals
    obtain ⟨-, rfl⟩ := Prod.mk.inj (Except.ok.inj h)
    exact ⟨_, _, rfl, .refl _⟩

/-! ### Repetitions -/

/-- Blanks are plain. -/
theorem takesPlain_dropWhile_isSpace (cs : List Char) : TakesPlain cs (cs.dropWhile isSpace) := by
  have htaken : ∀ c ∈ cs.takeWhile isSpace, IsPlain c := fun c hc ↦
    isPlain_of_any (by decide : brackets.any isSpace = false) (List.mem_takeWhile_imp hc)
  have hcs := TakesPlain.of_append htaken (cs.dropWhile isSpace)
  rwa [List.takeWhile_append_dropWhile] at hcs

/-- A bound of a repetition is given by digits and blanks. -/
theorem readCount_taken {n : Nat} (h : readCount false cs = .ok (n, rest)) :
    TakesPlain cs rest := by
  unfold readCount at h
  cases hdigits : readRun false (fun c ↦ '0' ≤ c && c ≤ '9') (cs.dropWhile isSpace) with
  | mk digits left =>
    cases hblanks : readRun false isSpace left with
    | mk blanks left' =>
      simp only [hdigits, hblanks] at h
      split at h
      · simp at h
      · obtain ⟨-, rfl⟩ := Prod.mk.inj (Except.ok.inj h)
        exact (takesPlain_dropWhile_isSpace cs).trans
          ((takesPlain_of_readRun (by decide) hdigits).trans
            (takesPlain_of_readRun (by decide) hblanks))

/-- The upper bound of a repetition is plain, with the comma before it. -/
theorem readUpperBound_taken {min : Nat} {max : Option Nat}
    (h : readUpperBound false min cs = .ok (max, rest)) : TakesPlain cs rest := by
  unfold readUpperBound at h
  split at h
  · next r =>
    refine .cons (by decide) ?_
    split at h
    · next r' hskip =>
      obtain ⟨-, rfl⟩ := Prod.mk.inj (Except.ok.inj h)
      obtain rfl : r = '\x7d' :: r' := hskip
      exact .refl _
    · obtain ⟨⟨max', left⟩, hmax, heq⟩ := map_eq_ok.1 h
      obtain ⟨-, rfl⟩ := Prod.mk.inj heq
      exact readCount_taken hmax
  · obtain ⟨-, rfl⟩ := Prod.mk.inj (Except.ok.inj h)
    exact .refl _

/-- The brace that closes bounds is plain. -/
theorem closeBounds_taken {min : Nat} {max : Option Nat} {bounds : Nat × Option Nat}
    (h : closeBounds min max cs = .ok (bounds, rest)) : TakesPlain cs rest := by
  unfold closeBounds at h
  split at h
  · split at h
    · obtain ⟨-, rfl⟩ := Prod.mk.inj (Except.ok.inj h)
      exact .cons (by decide) (.refl _)
    · simp at h
  · simp at h

/-- The bounds of a repetition are plain with their closing brace. -/
theorem readBounds_taken {bounds : Nat × Option Nat}
    (h : readBounds false cs = .ok (bounds, rest)) : TakesPlain cs rest := by
  rw [readBounds_eq] at h
  obtain ⟨⟨min, left⟩, hmin, h⟩ := bind_eq_ok.1 h
  obtain ⟨⟨max, left'⟩, hmax, hclose⟩ := bind_eq_ok.1 h
  exact (readCount_taken hmin).trans ((readUpperBound_taken hmax).trans (closeBounds_taken hclose))

/-- The question mark of a lazy repetition is plain. -/
theorem readGreedy_taken (cs : List Char) : TakesPlain cs (readGreedy cs).2 := by
  unfold readGreedy
  split
  · exact .cons (by decide) (.refl _)
  · exact .refl _

/-! ### Heads of groups -/

/-- The letters of flags are plain. -/
theorem isPlain_of_flag {c : Char} {f : Flag} (h : Flag.ofChar? c = some f) : IsPlain c :=
  isPlain_of_any (p := fun c ↦ (Flag.ofChar? c).isSome) (by decide) (by simp [h])

/-- Flags are plain, and a colon or a parenthesis stands behind them. -/
theorem readFlags_taken {cleared : Bool} {fc fc' : FlagChange}
    (h : readFlags cleared fc cs = .ok (fc', rest)) :
    TakesPlain cs rest ∧ ∃ c r, rest = c :: r ∧ (c = ':' ∨ c = ')') := by
  induction cs generalizing cleared fc with
  | nil => simp [readFlags] at h
  | cons c cs ih =>
    have hrest (hc : IsPlain c)
        (h : TakesPlain cs rest ∧ ∃ c r, rest = c :: r ∧ (c = ':' ∨ c = ')')) :
        TakesPlain (c :: cs) rest ∧ ∃ c r, rest = c :: r ∧ (c = ':' ∨ c = ')') :=
      h.imp_left (.cons hc)
    by_cases hc : c = '-'
    · subst hc
      refine hrest (by decide) ?_
      cases cs with
      | nil => cases cleared <;> simp [readFlags] at h
      | cons d cs =>
        by_cases hd : d = ':' ∨ d = ')'
        · rcases hd with rfl | rfl <;> simp [readFlags] at h
        · obtain ⟨hcolon, hclose⟩ := not_or.1 hd
          rw [readFlags_hyphen hcolon hclose] at h
          split at h
          · simp at h
          · exact ih h
    · rw [readFlags_cons hc] at h
      split at h
      · next hend =>
        obtain ⟨-, rfl⟩ := Prod.mk.inj (Except.ok.inj h)
        exact ⟨.refl _, c, cs, rfl, hend⟩
      · split at h
        · simp at h
        · next hflag =>
          split at h
          · simp at h
          · exact hrest (isPlain_of_flag hflag) (ih h)

/-- The name of a group has no bracket but square ones in it. -/
theorem readGroupName_taken {name : List Char} (h : readGroupName cs = .ok (name, rest)) :
    cs = name ++ '>' :: rest ∧ ∀ c ∈ name, c ∉ ['\\', '(', ')', '|', '^'] := by
  have hchar (first : Bool) {c : Char} (hc : c ∈ ['\\', '(', ')', '|', '^']) :
      ¬isGroupNameChar first c :=
    List.any_eq_false.1 (by cases first <;> decide :
      ['\\', '(', ')', '|', '^'].any (isGroupNameChar first) = false) c hc
  unfold readGroupName at h
  split at h
  · simp at h
  · simp at h
  · next c name' left hsplit =>
    split at h
    · next hname =>
      obtain ⟨rfl, rfl⟩ := Prod.mk.inj (Except.ok.inj h)
      obtain ⟨hfirst, hrest⟩ := Bool.and_eq_true_iff.1 hname
      refine ⟨by simpa using eq_append_of_splitAtFirst? hsplit, ?_⟩
      refine List.forall_mem_cons.2 ⟨fun hmem ↦ ?_, fun d hd hmem ↦ ?_⟩
      · exact hchar true hmem hfirst
      · exact hchar false hmem (List.all_eq_true.1 hrest d hd)
    · simp at h

/-- A parenthesis behind flags makes them a change of flags, for which there must be some. -/
theorem flagsHead_close (fc : FlagChange) (cs : List Char) :
    flagsHead (fc, ')' :: cs) =
      if fc.isEmpty then .error .nothingToRepeat else .ok (.setFlags fc, cs) :=
  rfl

/-- The text of the head of a group, behind its opening parenthesis and up to its contents. -/
inductive HeadText : GroupHead → List Char → Prop
  | numbered : HeadText .numbered []
  | named {name start : List Char} (hstart : ∀ c ∈ start, IsPlain c)
      (hname : ∀ c ∈ name, c ∉ ['\\', '(', ')', '|', '^']) :
      HeadText (.named name) (start ++ (name ++ ['>']))
  | plain {fc : FlagChange} {text : List Char} (h : ∀ c ∈ text, IsPlain c) :
      HeadText (.plain fc) text
  | setFlags {fc : FlagChange} {text : List Char} (h : ∀ c ∈ text, IsPlain c) :
      HeadText (.setFlags fc) (text ++ [')'])

/-- What is read as the head of a group is the text of that head. -/
theorem readGroupHead_taken {head : GroupHead} (h : readGroupHead false cs = .ok (head, rest)) :
    ∃ text, cs = text ++ rest ∧ HeadText head text := by
  have hnamed {start r name left : List Char} (hstart : ∀ c ∈ start, IsPlain c)
      (hread : readGroupName r = .ok (name, left))
      (heq : (GroupHead.named name, left) = (head, rest)) :
      ∃ text, start ++ r = text ++ rest ∧ HeadText head text := by
    obtain ⟨rfl, rfl⟩ := Prod.mk.inj heq
    obtain ⟨rfl, hname⟩ := readGroupName_taken hread
    exact ⟨start ++ (name ++ ['>']), by simp, .named hstart hname⟩
  unfold readGroupHead at h
  split at h
  · simp at h
  · simp at h
  · simp at h
  · simp at h
  · next r hskip =>
    obtain rfl : cs = '?' :: 'P' :: '<' :: r := hskip
    obtain ⟨⟨name, left⟩, hread, heq⟩ := map_eq_ok.1 h
    exact hnamed (isPlain_of_all (by decide : ['?', 'P', '<'].all (· ∉ brackets))) hread heq
  · next r _ _ hskip =>
    obtain rfl : cs = '?' :: '<' :: r := hskip
    obtain ⟨⟨name, left⟩, hread, heq⟩ := map_eq_ok.1 h
    exact hnamed (isPlain_of_all (by decide : ['?', '<'].all (· ∉ brackets))) hread heq
  · next r _ _ _ _ _ _ hskip =>
    obtain rfl : cs = '?' :: r := hskip
    obtain ⟨⟨fc, left⟩, hread, hhead⟩ := bind_eq_ok.1 h
    replace hhead : flagsHead (fc, left) = .ok (head, rest) := by
      rw [← hhead]
      unfold flagsHead
      rfl
    obtain ⟨⟨taken, rfl, htaken⟩, c, r', rfl, hend⟩ := readFlags_taken hread
    have hstart : ∀ c ∈ '?' :: taken, IsPlain c := List.forall_mem_cons.2 ⟨by decide, htaken⟩
    rcases hend with rfl | rfl
    · obtain ⟨rfl, rfl⟩ := Prod.mk.inj (Except.ok.inj hhead)
      refine ⟨'?' :: taken ++ [':'], by simp, .plain ?_⟩
      exact List.forall_mem_append.2 ⟨hstart, isPlain_of_all (by decide)⟩
    · rw [flagsHead_close] at hhead
      split at hhead
      · simp at hhead
      · obtain ⟨rfl, rfl⟩ := Prod.mk.inj (Except.ok.inj hhead)
        exact ⟨'?' :: taken ++ [')'], by simp, .setFlags hstart⟩
  · obtain ⟨rfl, rfl⟩ := Prod.mk.inj (Except.ok.inj h)
    exact ⟨[], rfl, .numbered⟩

end Regex

end ModeLexer
