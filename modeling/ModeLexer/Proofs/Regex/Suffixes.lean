import ModeLexer.Proofs.Regex.Reading

/-!
# What readers leave

A reader leaves a suffix of what it was given (`readPart_suffix`), so where it stands in the text
can be told from what is left. The lemmas are all of one form, and each follows from those for the
readers that are called; they are tagged so that only the cases have to be set out.
-/

namespace ModeLexer.Regex

variable {verbose : Bool} {cs rest : List Char}

attribute [local grind →] List.IsSuffix.trans
attribute [local grind .] List.suffix_refl

/-- What is left behind the first character of a suffix is one too. -/
@[grind →] theorem suffix_of_cons_suffix {c : Char} (h : c :: rest <:+ cs) : rest <:+ cs :=
  (List.suffix_cons c rest).trans h

/-! ### Blanks and runs -/

/-- What is left behind blanks and comments is a suffix, whether or not the text begins in a
comment. -/
theorem skipBlanks_suffix (inComment : Bool) (cs : List Char) : skipBlanks inComment cs <:+ cs := by
  induction cs generalizing inComment with
  | nil => exact List.suffix_refl []
  | cons c cs ih =>
    have hcons (inComment : Bool) : skipBlanks inComment cs <:+ c :: cs :=
      (ih inComment).trans (List.suffix_cons c cs)
    rw [skipBlanks]
    repeat' split
    · exact hcons _
    · exact hcons _
    · exact hcons _
    · exact List.suffix_refl _

/-- What is left behind the blanks of the mode is a suffix. -/
@[grind! .] theorem skip_suffix (verbose : Bool) (cs : List Char) : skip verbose cs <:+ cs := by
  cases verbose with
  | false => exact List.suffix_refl cs
  | true => exact skipBlanks_suffix false cs

/-- What a run of characters leaves is a suffix, whatever the fuel. -/
theorem takeRun_suffix (verbose : Bool) (p : Char → Bool) (n : Nat) (cs : List Char) :
    (takeRun verbose p n cs).2 <:+ cs := by
  induction n generalizing cs with
  | zero => cases cs <;> exact List.suffix_refl _
  | succ n ih =>
    cases cs with
    | nil => exact List.suffix_refl []
    | cons c cs =>
      rw [takeRun]
      split
      · exact (ih _).trans ((skip_suffix verbose cs).trans (List.suffix_cons c cs))
      · exact List.suffix_refl _

/-- What a run of characters leaves is a suffix. -/
@[grind →] theorem readRun_suffix {p : Char → Bool} {run : List Char}
    (h : readRun verbose p cs = (run, rest)) : rest <:+ cs := by
  have hrun := takeRun_suffix verbose p cs.length cs
  rw [readRun] at h
  rwa [h] at hrun

/-! ### Escapes -/

/-- What a fixed number of hexadecimal digits leaves is a suffix. -/
@[grind →] theorem readHexDigits_suffix {n : Nat} {ds : List Char}
    (h : readHexDigits verbose n cs = .ok (ds, rest)) : rest <:+ cs := by
  induction n generalizing cs ds with
  | zero =>
    obtain ⟨rfl, rfl⟩ := Prod.mk.inj (Except.ok.inj h)
    exact List.suffix_refl cs
  | succ n ih =>
    cases cs with
    | nil => simp [readHexDigits] at h
    | cons c cs =>
      rw [readHexDigits] at h
      split at h
      · obtain ⟨⟨ds', rest'⟩, hread, heq⟩ := bind_eq_ok.1 h
        obtain ⟨rfl, rfl⟩ := Prod.mk.inj (pure_eq_ok.1 heq)
        exact (ih hread).trans ((skip_suffix verbose cs).trans (List.suffix_cons c cs))
      · simp at h

/-- What the code of a character leaves is a suffix, in braces or not. -/
@[grind →] theorem readHex_suffix {n : Nat} {fixed : Char → Atom} {a : Atom}
    (h : readHex verbose n fixed cs = .ok (a, rest)) : rest <:+ cs := by
  unfold readHex at h
  simp only [bind, Except.bind, pure, Except.pure, Except.map] at h
  grind

/-- What a Unicode property leaves is a suffix. -/
@[grind →] theorem readProperty_suffix {negated : Bool} {a : Atom}
    (h : readProperty verbose negated cs = .ok (a, rest)) : rest <:+ cs := by
  unfold readProperty at h
  simp only [bind, Except.bind, pure, Except.pure] at h
  grind

/-- What a word boundary leaves is a suffix, with a kind in braces or without. -/
@[grind →] theorem readBoundary_suffix {a : Anchor}
    (h : readBoundary verbose cs = .ok (a, rest)) : rest <:+ cs := by
  unfold readBoundary at h
  grind

/-- What an escape leaves is a suffix, whichever kind it is. -/
@[grind →] theorem readEscape_suffix {a : Atom} (h : readEscape verbose cs = .ok (a, rest)) :
    rest <:+ cs := by
  unfold readEscape at h
  split at h
  case h_24 =>
    obtain ⟨⟨b, left⟩, hread, heq⟩ := map_eq_ok.1 h
    grind
  all_goals grind

/-! ### Bracketed classes -/

/-- What stands behind a separator is a suffix. -/
@[grind →] theorem splitAtFirst?_suffix {separator a b : List Char}
    (h : splitAtFirst? separator cs = some (a, b)) : b <:+ cs := by
  induction cs generalizing a with
  | nil => simp [splitAtFirst?] at h
  | cons c cs ih =>
    rw [splitAtFirst?] at h
    split at h
    · obtain ⟨-, rfl⟩ := Prod.mk.inj (Option.some.inj h)
      exact List.drop_suffix ..
    · obtain ⟨⟨a', b'⟩, hsplit, heq⟩ := Option.map_eq_some_iff.1 h
      obtain ⟨-, rfl⟩ := Prod.mk.inj heq
      exact (ih hsplit).trans (List.suffix_cons c cs)

/-- What the name of an ASCII class leaves is a suffix. -/
@[grind →] theorem readClassName?_suffix {negated : Bool} {b : Bracket}
    (h : readClassName? negated cs = some (b, rest)) : rest <:+ cs := by
  unfold readClassName? at h
  split at h
  · obtain ⟨k, -, heq⟩ := Option.map_eq_some_iff.1 h
    grind
  · simp at h

/-- What an ASCII class leaves is a suffix. -/
@[grind →] theorem readPosix?_suffix {b : Bracket} (h : readPosix? cs = some (b, rest)) :
    rest <:+ cs := by
  obtain ⟨negated, name, rfl, hname⟩ := exists_of_readPosix? h
  cases negated <;> grind

/-- What the hyphens at the start of a class leave is a suffix. -/
@[grind →] theorem readHyphens_suffix {b b' : Bracket} {n : Nat}
    (h : readHyphens verbose b n cs = (b', rest)) : rest <:+ cs := by
  induction n generalizing b cs with
  | zero =>
    rw [readHyphens] at h
    · grind
    · simp
  | succ n ih =>
    rw [readHyphens.eq_def] at h
    grind

/-- What the start of a class leaves is a suffix. -/
@[grind →] theorem readBracketStart_suffix {negated : Bool} {b : Bracket}
    (h : readBracketStart verbose cs = (negated, b, rest)) : rest <:+ cs := by
  unfold readBracketStart at h
  grind

/-- What a member of a class leaves is a suffix. -/
@[grind →] theorem readClassItem_suffix {a : Atom}
    (h : readClassItem verbose cs = .ok (a, rest)) : rest <:+ cs := by
  unfold readClassItem at h
  grind

/-- What a range of a class leaves is a suffix. -/
@[grind →] theorem readClassRange_suffix {b : Bracket}
    (h : readClassRange verbose cs = .ok (b, rest)) : rest <:+ cs := by
  unfold readClassRange at h
  simp only [bind, Except.bind, pure, Except.pure] at h
  grind

/-- What the members of a class leave is a suffix, by induction on the fuel. -/
@[grind →] theorem readMembers_suffix {n : Nat} {pending : PendingOperation} {acc b : Bracket}
    (h : readMembers verbose n pending acc cs = .ok (b, rest)) : rest <:+ cs := by
  induction n generalizing pending acc cs b rest with
  | zero => simp [readMembers] at h
  | succ n ih =>
    rw [readMembers] at h
    simp only [bind, Except.bind] at h
    grind

/-- What a class leaves is a suffix. -/
@[grind →] theorem readBracket_suffix {b : Bracket} (h : readBracket verbose cs = .ok (b, rest)) :
    rest <:+ cs := by
  unfold readBracket at h
  simp only [bind, Except.bind, pure, Except.pure] at h
  grind

/-! ### Repetitions -/

/-- What a bound of a repetition leaves is a suffix. -/
@[grind →] theorem readCount_suffix {n : Nat} (h : readCount verbose cs = .ok (n, rest)) :
    rest <:+ cs := by
  have hblanks : cs.dropWhile Unicode.isSpace <:+ cs := List.dropWhile_suffix _
  unfold readCount at h
  grind

/-- What the upper bound of a repetition leaves is a suffix, with a comma or without. -/
@[grind →] theorem readUpperBound_suffix {min : Nat} {max : Option Nat}
    (h : readUpperBound verbose min cs = .ok (max, rest)) : rest <:+ cs := by
  unfold readUpperBound at h
  split at h
  · split at h
    · grind
    · obtain ⟨⟨max', left⟩, hmax, heq⟩ := map_eq_ok.1 h
      grind
  · grind

/-- What stands behind the closing brace is a suffix. -/
theorem closeBounds_suffix {min : Nat} {max : Option Nat} {bounds : Nat × Option Nat}
    (h : closeBounds min max cs = .ok (bounds, rest)) : rest <:+ cs := by
  unfold closeBounds at h
  grind

/-- What the bounds of a repetition leave is a suffix. -/
theorem readBounds_suffix {bounds : Nat × Option Nat}
    (h : readBounds verbose cs = .ok (bounds, rest)) : rest <:+ cs := by
  rw [readBounds_eq] at h
  obtain ⟨⟨min, left⟩, hmin, h⟩ := bind_eq_ok.1 h
  obtain ⟨⟨max, left'⟩, hmax, hclose⟩ := bind_eq_ok.1 h
  have hleft := (readCount_suffix hmin).trans (skip_suffix verbose cs)
  exact (closeBounds_suffix hclose).trans ((readUpperBound_suffix hmax).trans hleft)

/-- What is left behind a repetition is a suffix, lazy or greedy. -/
theorem readGreedy_suffix (cs : List Char) : (readGreedy cs).2 <:+ cs := by
  unfold readGreedy
  grind

/-! ### Groups -/

/-- What flags leave is a suffix. -/
@[grind →] theorem readFlags_suffix {cleared : Bool} {fc fc' : FlagChange}
    (h : readFlags cleared fc cs = .ok (fc', rest)) : rest <:+ cs := by
  induction cs generalizing cleared fc with
  | nil => simp [readFlags] at h
  | cons c cs ih =>
    unfold readFlags at h
    grind

/-- What the name of a group leaves is a suffix. -/
@[grind →] theorem readGroupName_suffix {name : List Char}
    (h : readGroupName cs = .ok (name, rest)) : rest <:+ cs := by
  unfold readGroupName at h
  grind

/-- What the head of a group leaves is a suffix. -/
theorem readGroupHead_suffix {head : GroupHead}
    (h : readGroupHead verbose cs = .ok (head, rest)) : rest <:+ cs := by
  unfold readGroupHead at h
  simp only [bind, Except.bind, pure, Except.pure, Except.map] at h
  grind

/-! ### Parts and runs -/

/-- What the reader of a part leaves is a suffix of its text, with one case for each part there
is. -/
theorem readPart_suffix {part : Part} (h : readPart verbose cs = .ok (part, rest)) :
    rest <:+ cs := by
  refine List.IsSuffix.trans ?_ (skip_suffix verbose cs)
  rw [readPart_eq_ok] at h
  generalize skip verbose cs = cs at h
  cases h with
  | stop_nil | stop_close => exact List.suffix_refl _
  | bar | atom => exact List.suffix_cons ..
  | repetition _ r => exact (readGreedy_suffix r).trans (List.suffix_cons _ r)
  | @counted r left _ h =>
    have hleft := (skip_suffix verbose left).trans (readBounds_suffix h)
    exact ((readGreedy_suffix _).trans hleft).trans (List.suffix_cons _ r)
  | @bracket r _ _ h => exact (readBracket_suffix h).trans (List.suffix_cons _ r)
  | @group r _ _ _ h => exact (readGroupHead_suffix h).trans (List.suffix_cons _ r)
  | @escape r _ _ h => exact (readEscape_suffix h).trans (List.suffix_cons _ r)

/-- What opens a group is a parenthesis and what is read as the head of the group. -/
theorem exists_readGroupHead_of_readPart {o : Opening}
    (h : readPart verbose cs = .ok (.opening o, rest)) :
    ∃ r head, skip verbose cs = '(' :: r ∧ readGroupHead verbose r = .ok (head, rest) ∧
      head.part = .opening o := by
  rw [readPart_eq_ok] at h
  generalize skip verbose cs = cs at h
  cases h with
  | group h hpart => exact ⟨_, _, rfl, h, hpart⟩

end ModeLexer.Regex
