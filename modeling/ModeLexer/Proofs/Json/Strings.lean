import Mathlib.Data.List.Forall2
import ModeLexer.Json.Parser
import ModeLexer.Proofs.Table.FirstMistake

/-!
# Strings in JSON

The grammar of strings, and the reader measured against it. A string is spelled character by
character: a character stands for itself, unless it is a quotation mark, a backslash or a control
character, or it is written as an escape (`SpellsChar`). The reader takes every spelling for what it
spells (`SpellsString.exists_read`) and takes nothing else (`spellsString_of_read`).
-/

namespace ModeLexer.Json

open Unicode

/-! ### The grammar -/

/-- The letters of the short escapes, with the characters that they stand for. -/
def shortEscapes : List (Char × Char) :=
  [('"', '"'), ('\\', '\\'), ('/', '/'), ('b', '\x08'), ('f', '\x0c'), ('n', '\n'), ('r', '\r'),
    ('t', '\t')]

/-- Whether a text is four hexadecimal digits with a value. -/
def SpellsUnit (cs : List Char) (n : Nat) : Prop :=
  cs.length = 4 ∧ (∀ c ∈ cs, isHexDigit c) ∧
    cs.foldl (fun n c ↦ 16 * n + hexDigitValue c) 0 = n

/-- Whether a text, behind `\\u`, is the escape of a character: four digits, or twice four for the
halves of a surrogate pair. -/
inductive SpellsPoint : List Char → Char → Prop
  | single {cs : List Char} {n : Nat} (hcs : SpellsUnit cs n) (hn : ¬(0xD800 ≤ n ∧ n ≤ 0xDFFF)) :
    SpellsPoint cs (Char.ofNat n)
  | pair {cs ds : List Char} {n m : Nat} (hcs : SpellsUnit cs n) (hds : SpellsUnit ds m)
      (hn : 0xD800 ≤ n ∧ n ≤ 0xDBFF) (hm : 0xDC00 ≤ m ∧ m ≤ 0xDFFF) :
    SpellsPoint (cs ++ '\\' :: 'u' :: ds)
      (Char.ofNat (0x10000 + (n - 0xD800) * 0x400 + (m - 0xDC00)))

/-- Whether a text stands for a character within a string. -/
inductive SpellsChar : List Char → Char → Prop
  | plain {c : Char} (hquote : c ≠ '"') (hbackslash : c ≠ '\\') (hcontrol : ¬c.toNat < 32) :
    SpellsChar [c] c
  | short {letter c : Char} (h : (letter, c) ∈ shortEscapes) : SpellsChar ['\\', letter] c
  | point {cs : List Char} {c : Char} (h : SpellsPoint cs c) : SpellsChar ('\\' :: 'u' :: cs) c

/-- Whether a text is a string between quotation marks. -/
def SpellsString (cs : List Char) (s : String) : Prop :=
  ∃ ts, List.Forall₂ SpellsChar ts s.toList ∧ cs = '"' :: (ts.flatten ++ ['"'])

variable {cs rest acc : List Char} {c : Char} {n : Nat}

/-! ### Escapes -/

theorem escapedChar?_eq_some_iff {letter : Char} :
    escapedChar? letter = some c ↔ (letter, c) ∈ shortEscapes := by
  constructor
  · intro h
    unfold escapedChar? at h
    split at h
    all_goals first
      | (obtain rfl := Option.some.inj h; decide)
      | cases h
  · intro h
    simp only [shortEscapes, List.mem_cons, Prod.mk.injEq, List.not_mem_nil, or_false] at h
    rcases h with ⟨rfl, rfl⟩ | ⟨rfl, rfl⟩ | ⟨rfl, rfl⟩ | ⟨rfl, rfl⟩ | ⟨rfl, rfl⟩ | ⟨rfl, rfl⟩ |
      ⟨rfl, rfl⟩ | ⟨rfl, rfl⟩
    all_goals rfl

theorem readCodeUnit_eq_ok :
    readCodeUnit cs = .ok (n, rest) ↔ ∃ ds, SpellsUnit ds n ∧ cs = ds ++ rest := by
  constructor
  · intro h
    unfold readCodeUnit at h
    split at h
    · next a b c d rest' =>
      split at h
      · next hdigits =>
        obtain ⟨rfl, rfl⟩ := Prod.mk.inj (Except.ok.inj h)
        exact ⟨[a, b, c, d], ⟨rfl, by simpa using hdigits, rfl⟩, rfl⟩
      · cases h
    · cases h
  · rintro ⟨ds, ⟨hlength, hdigits, rfl⟩, rfl⟩
    obtain ⟨a, b, c, d, rfl⟩ : ∃ a b c d, ds = [a, b, c, d] := by
      match ds, hlength with
      | [a, b, c, d], _ => exact ⟨a, b, c, d, rfl⟩
    exact if_pos (List.all_eq_true.2 hdigits)

theorem readCodePoint_eq_ok :
    readCodePoint cs = .ok (c, rest) ↔ ∃ ds, SpellsPoint ds c ∧ cs = ds ++ rest := by
  constructor
  · intro h
    obtain ⟨⟨n, rest₁⟩, hunit, hread⟩ := bind_eq_ok.1 h
    obtain ⟨ds, hds, rfl⟩ := readCodeUnit_eq_ok.1 hunit
    dsimp only at hread
    split at hread
    · next hn =>
      split at hread
      · next rest₂ =>
        obtain ⟨⟨m, rest₃⟩, hunit', hread'⟩ := bind_eq_ok.1 hread
        obtain ⟨es, hes, rfl⟩ := readCodeUnit_eq_ok.1 hunit'
        dsimp only at hread'
        split at hread'
        · next hm =>
          obtain ⟨rfl, rfl⟩ := Prod.mk.inj (pure_eq_ok.1 hread')
          exact ⟨_, .pair hds hes hn hm, by simp⟩
        · cases hread'
      · cases hread
    · next hhigh =>
      split at hread
      · cases hread
      · next hlow =>
        obtain ⟨rfl, rfl⟩ := Prod.mk.inj (pure_eq_ok.1 hread)
        exact ⟨ds, .single hds (by omega), rfl⟩
  · rintro ⟨_, hspells, rfl⟩
    cases hspells with
    | single hds hn =>
      refine bind_eq_ok.2 ⟨(_, rest), readCodeUnit_eq_ok.2 ⟨_, hds, rfl⟩, ?_⟩
      dsimp only
      rw [if_neg (by omega), if_neg (by omega)]
      rfl
    | @pair ds es n m hds hes hn hm =>
      have hunit : readCodeUnit ((ds ++ '\\' :: 'u' :: es) ++ rest) =
          .ok (n, '\\' :: 'u' :: (es ++ rest)) := readCodeUnit_eq_ok.2 ⟨ds, hds, by simp⟩
      refine bind_eq_ok.2 ⟨_, hunit, ?_⟩
      dsimp only
      rw [if_pos hn]
      refine bind_eq_ok.2 ⟨(m, rest), readCodeUnit_eq_ok.2 ⟨es, hes, rfl⟩, ?_⟩
      dsimp only
      rw [if_pos hm]
      rfl

/-! ### Reading -/

/-- A spelling of a character is read as the character. -/
theorem readString_char {t : List Char} (h : SpellsChar t c) (acc rest : List Char) (n : Nat) :
    readString acc (n + 1) (t ++ rest) = readString (c :: acc) n rest := by
  cases h with
  | plain hquote hbackslash hcontrol => simp [readString, hbackslash, hcontrol]
  | @short letter _ h =>
    have hletter : letter ≠ 'u' := by
      rintro rfl
      revert h
      simp [shortEscapes]
    show readString acc (n + 1) ('\\' :: letter :: rest) = _
    rw [readString, escapedChar?_eq_some_iff.2 h]
    exact hletter
  | @point ds _ h =>
    have hpoint : readCodePoint (ds ++ rest) = .ok (c, rest) := readCodePoint_eq_ok.2 ⟨ds, h, rfl⟩
    simp [readString, hpoint, bind, Except.bind]

/-- What spells a string is read as the string. -/
theorem readString_flatten {ts : List (List Char)} {s : List Char}
    (h : List.Forall₂ SpellsChar ts s) (acc rest : List Char) (hn : s.length < n) :
    readString acc n (ts.flatten ++ '"' :: rest) = .ok (acc.reverse ++ s, rest) := by
  induction h generalizing acc n with
  | nil =>
    obtain ⟨n, rfl⟩ := Nat.exists_eq_add_of_lt hn
    simp [readString]
  | @cons t c ts s ht hts ih =>
    obtain ⟨n, rfl⟩ : ∃ m, n = m + 1 := ⟨n - 1, by omega⟩
    rw [List.flatten_cons, List.append_assoc, readString_char ht,
      ih (c :: acc) (by simpa using hn), List.reverse_cons, List.append_assoc]
    rfl

theorem SpellsChar.length_pos {t : List Char} (h : SpellsChar t c) : 0 < t.length := by
  cases h <;> simp

theorem length_le_flatten {ts : List (List Char)} {s : List Char}
    (h : List.Forall₂ SpellsChar ts s) : s.length ≤ ts.flatten.length := by
  induction h with
  | nil => exact Nat.zero_le _
  | cons ht hts ih =>
    have hpos := ht.length_pos
    rw [List.flatten_cons, List.length_append, List.length_cons]
    omega

/-- What has been read was spelled, up to the closing quotation mark. -/
theorem exists_of_readString {s : List Char} (h : readString acc n cs = .ok (s, rest)) :
    ∃ ts s', List.Forall₂ SpellsChar ts s' ∧ s = acc.reverse ++ s' ∧
      cs = ts.flatten ++ '"' :: rest := by
  have hnext : ∀ {t c cs acc}, SpellsChar t c →
      (∃ ts s', List.Forall₂ SpellsChar ts s' ∧ s = (c :: acc).reverse ++ s' ∧
        cs = ts.flatten ++ '"' :: rest) →
      ∃ ts s', List.Forall₂ SpellsChar ts s' ∧ s = acc.reverse ++ s' ∧
        t ++ cs = ts.flatten ++ '"' :: rest := by
    rintro t c _ acc ht ⟨ts, s', hts, rfl, rfl⟩
    exact ⟨t :: ts, c :: s', .cons ht hts, by simp, by simp⟩
  fun_induction readString acc n cs with
  | case1 => cases h
  | case2 => cases h
  | case3 acc n rest' =>
    obtain ⟨rfl, rfl⟩ := Prod.mk.inj (Except.ok.inj h)
    exact ⟨[], [], .nil, by simp, rfl⟩
  | case4 acc n rest' ih =>
    obtain ⟨⟨c, rest₁⟩, hpoint, hread⟩ := bind_eq_ok.1 h
    obtain ⟨ds, hds, rfl⟩ := readCodePoint_eq_ok.1 hpoint
    exact hnext (.point hds) (ih _ _ hread)
  | case5 acc n letter rest' hne c hc ih =>
    exact hnext (.short (escapedChar?_eq_some_iff.1 hc)) (ih h)
  | case6 => cases h
  | case7 => cases h
  | case8 acc n c rest' hquote _ _ hplain ih =>
    obtain ⟨hcontrol, hbackslash⟩ := not_or.1 hplain
    exact hnext (.plain hquote hbackslash hcontrol) (ih h)

/-- A string is read behind its opening quotation mark. -/
theorem SpellsString.exists_read {s : String} (h : SpellsString cs s) (rest : List Char) :
    ∃ body, cs ++ rest = '"' :: body ∧
      readString [] (body.length + 1) body = .ok (s.toList, rest) := by
  obtain ⟨ts, hts, rfl⟩ := h
  refine ⟨ts.flatten ++ '"' :: rest, by simp, readString_flatten hts [] rest ?_⟩
  have hle := length_le_flatten hts
  rw [List.length_append]
  omega

/-- What has been read behind a quotation mark is a string together with it. -/
theorem spellsString_of_read {s : List Char} (h : readString [] n cs = .ok (s, rest)) :
    ∃ t, SpellsString t (String.ofList s) ∧ '"' :: cs = t ++ rest := by
  obtain ⟨ts, s', hts, rfl, rfl⟩ := exists_of_readString h
  exact ⟨_, ⟨ts, by rwa [String.toList_ofList], rfl⟩, by simp⟩

end ModeLexer.Json
