import Mathlib.Data.List.Chain
import ModeLexer.Text.Quoted

/-!
# What quoting leaves recognizable

A quoted text stands on one line (`newline_notMem_quoted`), and no two texts are quoted alike: what
is written for a character can be taken off the front of what follows (`readQuotedChar_append`).

It can also be found from behind. Between the quotation marks a quotation mark is always escaped, so
it stands right behind a backslash; where a space stands right before a quotation mark, as it does
before the opening one, nothing of the quoted text has begun yet. So words of any kind in front of a
quoted text can be told from it (`append_quoted_inj`).
-/

namespace ModeLexer.Text

open Unicode

/-! ### Digits of code points -/

theorem hexDigit_digitChar : ∀ d < 16, isHexDigit d.digitChar ∧ hexDigitValue d.digitChar = d := by
  decide

theorem isHexDigit_of_mem_toDigits {n : Nat} : ∀ c ∈ Nat.toDigits 16 n, isHexDigit c := by
  induction n using Nat.strongRecOn with
  | ind n ih =>
    rw [Nat.toDigits_eq_if (by decide)]
    split
    · next hlt => exact List.forall_mem_singleton.2 (hexDigit_digitChar n hlt).1
    · exact List.forall_mem_append.2 ⟨ih (n / 16) (by omega),
        List.forall_mem_singleton.2 (hexDigit_digitChar (n % 16) (by omega)).1⟩

/-- The number that hexadecimal digits are written for. -/
def hexValue (ds : List Char) : Nat := ds.foldl (fun n d ↦ 16 * n + hexDigitValue d) 0

theorem hexValue_toDigits (n : Nat) : hexValue (Nat.toDigits 16 n) = n := by
  induction n using Nat.strongRecOn with
  | ind n ih =>
    rw [Nat.toDigits_eq_if (by decide)]
    split
    · next hlt =>
      rw [hexValue, List.foldl_cons, List.foldl_nil, (hexDigit_digitChar n hlt).2, Nat.mul_zero,
        Nat.zero_add]
    · next hle =>
      have hrest := ih (n / 16) (by omega)
      rw [hexValue] at hrest ⊢
      rw [List.foldl_append, hrest, List.foldl_cons, List.foldl_nil,
        (hexDigit_digitChar (n % 16) (by omega)).2]
      omega

/-- An escape by code point is made of few characters. -/
theorem mem_codePointEscape {c d : Char} (h : d ∈ codePointEscape c) :
    isHexDigit d ∨ d ∈ ['\\', 'u', '\x7b', '\x7d'] := by
  rw [codePointEscape, List.mem_append, List.mem_append] at h
  rcases h with (hopening | hdigit) | hclosing
  · exact .inr (List.mem_append_left ['\x7d'] hopening)
  · exact .inl (isHexDigit_of_mem_toDigits d hdigit)
  · exact .inr (List.mem_append_right ['\\', 'u', '\x7b'] hclosing)

/-! ### Reading a character -/

/-- The character of an escape of one letter. -/
def unescapedLetter? : Char → Option Char
  | '"' => some '"'
  | '\\' => some '\\'
  | 'n' => some '\n'
  | 'r' => some '\r'
  | 't' => some '\t'
  | '0' => some '\x00'
  | _ => none

/-- Takes what is written for a character off the front of a text. -/
def readQuotedChar : List Char → Option (Char × List Char)
  | [] => none
  | '\\' :: 'u' :: '\x7b' :: rest =>
    some (Char.ofNat (hexValue (rest.takeWhile isHexDigit)), (rest.dropWhile isHexDigit).tail)
  | '\\' :: e :: rest => (unescapedLetter? e).map (·, rest)
  | c :: rest => some (c, rest)

/-- The forms in which a character may be written. -/
inductive QuotedForm (c : Char) : List Char → Prop
  | letter {e : Char} (h : unescapedLetter? e = some c) : QuotedForm c ['\\', e]
  | plain (hquote : c ≠ '"') (hbackslash : c ≠ '\\') (hfeed : c ≠ '\n') : QuotedForm c [c]
  | codePoint : QuotedForm c (codePointEscape c)

theorem quotedChar_form (c : Char) : QuotedForm c (quotedChar c) := by
  by_cases hletter : c ∈ ['"', '\\', '\n', '\r', '\t', '\x00']
  · simp only [List.mem_cons, List.not_mem_nil, or_false] at hletter
    rcases hletter with rfl | rfl | rfl | rfl | rfl | rfl <;> exact .letter rfl
  · simp only [List.mem_cons, List.not_mem_nil, or_false, not_or] at hletter
    obtain ⟨hquote, hbackslash, hfeed, hreturn, htab, hnull⟩ := hletter
    rw [quotedChar, if_neg hquote, if_neg hbackslash, if_neg hfeed, if_neg hreturn, if_neg htab,
      if_neg hnull]
    split
    · exact .plain hquote hbackslash hfeed
    · exact .codePoint

namespace QuotedForm

variable {c : Char} {t : List Char}

/-- A character is read back from what is written for it. -/
theorem readQuotedChar_append (h : QuotedForm c t) (rest : List Char) :
    readQuotedChar (t ++ rest) = some (c, rest) := by
  cases h with
  | @letter e h =>
    have hu : e ≠ 'u' := by
      rintro rfl
      nomatch h
    rw [List.cons_append, List.singleton_append, readQuotedChar, h]
    · rfl
    · exact fun _ he _ ↦ hu he
  | plain hquote hbackslash hfeed =>
    rw [List.singleton_append, readQuotedChar]
    · exact fun _ hc _ ↦ hbackslash hc
    · exact fun _ _ hc _ ↦ hbackslash hc
  | codePoint =>
    have hdigits := isHexDigit_of_mem_toDigits (n := c.toNat)
    have hbrace : ¬isHexDigit '\x7d' := by decide
    have htext : codePointEscape c ++ rest =
        '\\' :: 'u' :: '\x7b' :: (Nat.toDigits 16 c.toNat ++ '\x7d' :: rest) := by
      simp [codePointEscape]
    rw [htext, readQuotedChar, List.takeWhile_append_of_pos hdigits,
      List.dropWhile_append_of_pos hdigits, List.takeWhile_cons_of_neg hbrace,
      List.dropWhile_cons_of_neg hbrace, List.append_nil, hexValue_toDigits, Char.ofNat_toNat,
      List.tail_cons]

theorem newline_notMem (h : QuotedForm c t) : '\n' ∉ t := by
  cases h with
  | @letter e h =>
    have he : e ≠ '\n' := by
      rintro rfl
      nomatch h
    simpa using he.symm
  | plain hquote hbackslash hfeed => simpa using hfeed.symm
  | codePoint => exact fun hmem ↦ absurd (mem_codePointEscape hmem) (by decide)

/-- No quotation mark is written in front. -/
theorem quote_notMem_head? (h : QuotedForm c t) (rest : List Char) : '"' ∉ (t ++ rest).head? := by
  cases h with
  | letter h => simp
  | plain hquote hbackslash hfeed => simpa using hquote
  | codePoint => simp [codePointEscape]

/-- A quotation mark is written right behind a backslash. -/
theorem isChain (h : QuotedForm c t) : t.IsChain fun a b ↦ b = '"' → a = '\\' := by
  cases h with
  | letter h => exact List.isChain_pair.2 fun _ ↦ rfl
  | plain hquote hbackslash hfeed => exact List.isChain_singleton c
  | codePoint =>
    refine (List.pairwise_of_forall_mem_list fun a _ b hb hquote ↦ ?_).isChain
    subst hquote
    exact absurd (mem_codePointEscape hb) (by decide)

end QuotedForm

/-! ### Quoted texts -/

variable {cs cs' : List Char}

/-- A quoted text stands on one line. -/
theorem newline_notMem_quoted : '\n' ∉ quoted cs := by
  have hbody : '\n' ∉ cs.flatMap quotedChar := by
    rw [List.mem_flatMap]
    exact fun ⟨c, _, hc⟩ ↦ (quotedChar_form c).newline_notMem hc
  simpa [quoted] using hbody

/-- No two texts are written alike. -/
theorem flatMap_quotedChar_inj (h : cs.flatMap quotedChar = cs'.flatMap quotedChar) : cs = cs' := by
  induction cs generalizing cs' with
  | nil =>
    cases cs' with
    | nil => rfl
    | cons c' cs' =>
      have hread := (quotedChar_form c').readQuotedChar_append (cs'.flatMap quotedChar)
      rw [← List.flatMap_cons, ← h] at hread
      nomatch hread
  | cons c cs ih =>
    have hread := (quotedChar_form c).readQuotedChar_append (cs.flatMap quotedChar)
    rw [← List.flatMap_cons, h] at hread
    cases cs' with
    | nil => nomatch hread
    | cons c' cs' =>
      rw [List.flatMap_cons, (quotedChar_form c').readQuotedChar_append] at hread
      obtain ⟨rfl, hrest⟩ := Prod.mk.inj (Option.some.inj hread)
      rw [ih hrest.symm]

theorem isChain_flatMap_quotedChar (cs : List Char) :
    (cs.flatMap quotedChar).IsChain fun a b ↦ b = '"' → a = '\\' := by
  induction cs with
  | nil => exact List.isChain_nil
  | cons c cs ih =>
    rw [List.flatMap_cons]
    refine (quotedChar_form c).isChain.append ih fun a _ b hb hquote ↦ ?_
    subst hquote
    cases cs with
    | nil => nomatch hb
    | cons d cs =>
      rw [List.flatMap_cons] at hb
      exact absurd hb ((quotedChar_form d).quote_notMem_head? _)

/-- Behind the opening quotation mark there is no quotation mark that a space stands before. -/
theorem eq_nil_of_space_quote {before after : List Char}
    (h : ' ' :: '"' :: cs.flatMap quotedChar = before ++ ' ' :: '"' :: after) : before = [] := by
  match before with
  | [] => rfl
  | [_] =>
    have hquote := (List.cons.inj (List.cons.inj h).2).1
    exact absurd hquote (by decide)
  | _ :: _ :: before =>
    have hbody : cs.flatMap quotedChar = before ++ ' ' :: '"' :: after :=
      (List.cons.inj (List.cons.inj h).2).2
    have hchain := isChain_flatMap_quotedChar cs
    rw [hbody, List.isChain_append_cons_cons] at hchain
    exact absurd (hchain.2.1 rfl) (by decide)

/-- What stands before a space and a quoted text can be told from it. -/
theorem append_quoted_inj {ls ls' : List Char}
    (h : ls ++ ' ' :: quoted cs = ls' ++ ' ' :: quoted cs') : ls = ls' ∧ cs = cs' := by
  have hopen : ls ++ ' ' :: '"' :: cs.flatMap quotedChar =
      ls' ++ ' ' :: '"' :: cs'.flatMap quotedChar := by
    rw [← List.append_left_inj ['"']]
    simpa [quoted] using h
  obtain rfl : ls = ls' := by
    rcases List.append_eq_append_iff.1 hopen with ⟨before, rfl, heq⟩ | ⟨before, rfl, heq⟩
    · rw [eq_nil_of_space_quote heq, List.append_nil]
    · rw [eq_nil_of_space_quote heq, List.append_nil]
  have hbody := List.append_cancel_left hopen
  exact ⟨rfl, flatMap_quotedChar_inj (List.cons.inj (List.cons.inj hbody).2).2⟩

end ModeLexer.Text
