import Mathlib.Data.List.TakeWhile
import ModeLexer.Json.Parser
import ModeLexer.Proofs.Table.FirstMistake

/-!
# Numbers in JSON

The grammar of numbers, and the reader measured against it: a sign, a numeral, a fraction and an
exponent, of which the numeral has to be there (`IsNumber`). The reader takes as much as it can, so
it takes a number for what it is if what stands behind does not go on with it
(`readNumber_append`), and it takes nothing else (`exists_of_readNumber`).
-/

namespace ModeLexer.Json

/-! ### The grammar -/

/-- Whether a text is one digit or more. -/
def IsDigits (cs : List Char) : Prop := cs ≠ [] ∧ ∀ c ∈ cs, c.isDigit

/-- Whether a text is a numeral without a sign: digits, of which a first zero is the only one. -/
def IsNumeral (ds : List Char) : Prop :=
  ds ≠ [] ∧ (∀ c ∈ ds, c.isDigit) ∧ (ds.head? = some '0' → ds = ['0'])

/-- Whether a text is a fraction, or nothing. -/
inductive IsFraction : List Char → Prop
  | none : IsFraction []
  | point {ds : List Char} (h : IsDigits ds) : IsFraction ('.' :: ds)

/-- Whether a text is an exponent, or nothing. -/
inductive IsExponent : List Char → Prop
  | none : IsExponent []
  | letter {e : Char} {sign ds : List Char} (he : e = 'e' ∨ e = 'E')
      (hsign : sign ∈ [[], ['+'], ['-']]) (h : IsDigits ds) : IsExponent (e :: (sign ++ ds))

/-- Whether a text is a number. -/
inductive IsNumber : List Char → Prop
  | mk {sign integer fraction exponent : List Char} (hsign : sign ∈ [[], ['-']])
      (hinteger : IsNumeral integer) (hfraction : IsFraction fraction)
      (hexponent : IsExponent exponent) :
    IsNumber (sign ++ (integer ++ (fraction ++ exponent)))

/-- Whether a text can stand behind a number, which it does not go on with. -/
def EndsNumber (rest : List Char) : Prop :=
  ∀ c ∈ rest.head?, ¬c.isDigit ∧ c ≠ '.' ∧ c ≠ 'e' ∧ c ≠ 'E'

/-- A number ends before a character that no part of a number begins with. -/
theorem endsNumber_cons {c : Char} (h : ¬c.isDigit ∧ c ≠ '.' ∧ c ≠ 'e' ∧ c ≠ 'E')
    (rest : List Char) : EndsNumber (c :: rest) := by
  simpa [EndsNumber] using h

/-- A number ends before blanks, whatever it ends before behind them. -/
theorem endsNumber_append {blanks : List Char} (h : ∀ c ∈ blanks, isBlank c) {rest : List Char}
    (hrest : EndsNumber rest) : EndsNumber (blanks ++ rest) := by
  cases blanks with
  | nil => exact hrest
  | cons b blanks =>
    have hb := h b (List.mem_cons_self ..)
    refine endsNumber_cons ?_ _
    simp only [isBlank, Bool.or_eq_true, decide_eq_true_eq] at hb
    rcases hb with ((rfl | rfl) | rfl) | rfl <;> decide

variable {cs rest ds : List Char}

/-! ### Digits -/

/-- Digits are taken up to a character that is none. -/
theorem takeDigits_append (hds : ∀ c ∈ ds, c.isDigit) (hrest : ∀ c ∈ rest.head?, ¬c.isDigit) :
    takeDigits (ds ++ rest) = (ds, rest) := by
  rw [takeDigits, List.takeWhile_append_of_pos hds, List.dropWhile_append_of_pos hds]
  cases rest with
  | nil => rw [List.takeWhile_nil, List.append_nil, List.dropWhile_nil]
  | cons c rest =>
    have hc := hrest c rfl
    rw [List.takeWhile_cons_of_neg hc, List.append_nil, List.dropWhile_cons_of_neg hc]

/-- Digits are taken from the front of a text. -/
theorem of_takeDigits (h : takeDigits cs = (ds, rest)) :
    (∀ c ∈ ds, c.isDigit) ∧ cs = ds ++ rest := by
  obtain ⟨rfl, rfl⟩ := Prod.mk.inj h
  exact ⟨fun _ ↦ List.mem_takeWhile_imp, List.takeWhile_append_dropWhile.symm⟩

/-! ### The parts of a number -/

/-- A numeral is read up to what is no digit. -/
theorem readInteger_append (hds : IsNumeral ds) (hrest : ∀ c ∈ rest.head?, ¬c.isDigit) :
    readInteger (ds ++ rest) = .ok (ds, rest) := by
  obtain ⟨hne, hdigits, hzero⟩ := hds
  rw [readInteger, takeDigits_append hdigits hrest]
  split
  · next heq => exact absurd (Prod.mk.inj heq).1 hne
  · next heq => obtain ⟨rfl, rfl⟩ := Prod.mk.inj heq; rfl
  · next hsingle heq =>
    obtain ⟨rfl, rfl⟩ := Prod.mk.inj heq
    exact absurd (List.cons.inj (hzero rfl)).2 hsingle
  · next heq => obtain ⟨rfl, rfl⟩ := Prod.mk.inj heq; rfl

/-- What is read as an integer is a numeral. -/
theorem of_readInteger (h : readInteger cs = .ok (ds, rest)) : IsNumeral ds ∧ cs = ds ++ rest := by
  unfold readInteger at h
  split at h
  · cases h
  · next rest' htake =>
    obtain ⟨rfl, rfl⟩ := Prod.mk.inj (Except.ok.inj h)
    exact ⟨⟨by simp, (of_takeDigits htake).1, fun _ ↦ rfl⟩, (of_takeDigits htake).2⟩
  · cases h
  · next digits rest' hne _ hzero htake =>
    obtain ⟨rfl, rfl⟩ := Prod.mk.inj (Except.ok.inj h)
    obtain ⟨hdigits, rfl⟩ := of_takeDigits htake
    refine ⟨⟨hne, hdigits, fun hhead ↦ ?_⟩, rfl⟩
    obtain ⟨tail, heq⟩ := List.head?_eq_some_iff.1 hhead
    exact absurd heq (hzero tail)

/-- A fraction is read up to what is no digit. -/
theorem readFraction_append {fraction : List Char} (h : IsFraction fraction)
    (hrest : ∀ c ∈ rest.head?, ¬c.isDigit ∧ c ≠ '.') :
    readFraction (fraction ++ rest) = .ok (fraction, rest) := by
  cases h with
  | none =>
    cases rest with
    | nil => rfl
    | cons c rest =>
      have hc := (hrest c rfl).2
      rw [List.nil_append, readFraction]
      simpa using hc
  | @point ds hds =>
    rw [List.cons_append, readFraction, takeDigits_append hds.2 fun c hc ↦ (hrest c hc).1]
    split
    · next heq => exact absurd (Prod.mk.inj heq).1 hds.1
    · next heq => obtain ⟨rfl, rfl⟩ := Prod.mk.inj heq; rfl

/-- What is read as a fraction is one, or nothing. -/
theorem of_readFraction {fraction : List Char} (h : readFraction cs = .ok (fraction, rest)) :
    IsFraction fraction ∧ cs = fraction ++ rest := by
  unfold readFraction at h
  split at h
  · next cs =>
    split at h
    · cases h
    · next digits rest' hne htake =>
      obtain ⟨rfl, rfl⟩ := Prod.mk.inj (Except.ok.inj h)
      obtain ⟨hdigits, rfl⟩ := of_takeDigits htake
      exact ⟨.point ⟨hne, hdigits⟩, rfl⟩
  · obtain ⟨rfl, rfl⟩ := Prod.mk.inj (Except.ok.inj h)
    exact ⟨.none, rfl⟩

/-- The sign of an exponent, if there is one, and what stands behind it. -/
def splitSign : List Char → List Char × List Char
  | '+' :: rest => (['+'], rest)
  | '-' :: rest => (['-'], rest)
  | rest => ([], rest)

/-- An exponent is read behind its letter: a sign, if there is one, and digits. -/
theorem readExponent_of_letter {e : Char} (he : e = 'e' ∨ e = 'E') (cs : List Char) :
    readExponent (e :: cs) =
      match takeDigits (splitSign cs).2 with
      | ([], _) => .error .invalidNumber
      | (digits, rest) => .ok (e :: (splitSign cs).1 ++ digits, rest) :=
  if_pos he

/-- A text of digits has a first one. -/
theorem IsDigits.exists_cons (h : IsDigits ds) : ∃ d ds', ds = d :: ds' ∧ d.isDigit := by
  obtain ⟨d, ds', rfl⟩ := List.exists_cons_of_ne_nil h.1
  exact ⟨d, ds', rfl, h.2 d (List.mem_cons_self ..)⟩

/-- A sign is split off in front of digits, which begin with none. -/
theorem splitSign_append {sign : List Char} (hsign : sign ∈ [[], ['+'], ['-']])
    (hds : IsDigits ds) (rest : List Char) :
    splitSign (sign ++ (ds ++ rest)) = (sign, ds ++ rest) := by
  obtain ⟨d, ds', rfl, hd⟩ := hds.exists_cons
  simp only [List.mem_cons, List.not_mem_nil, or_false] at hsign
  obtain rfl | rfl | rfl := hsign
  · -- a digit is no sign
    unfold splitSign
    split
    · next heq => exact absurd (List.cons.inj heq).1 (by rintro rfl; cases hd)
    · next heq => exact absurd (List.cons.inj heq).1 (by rintro rfl; cases hd)
    · rfl
  · rfl
  · rfl

/-- What is split off is a sign or nothing, and it stood in front of the rest. -/
theorem splitSign_spec (cs : List Char) :
    (splitSign cs).1 ∈ [[], ['+'], ['-']] ∧ cs = (splitSign cs).1 ++ (splitSign cs).2 := by
  unfold splitSign
  split
  · exact ⟨by simp, rfl⟩
  · exact ⟨by simp, rfl⟩
  · exact ⟨by simp, rfl⟩

/-- An exponent is read up to where a number ends. -/
theorem readExponent_append {exponent : List Char} (h : IsExponent exponent)
    (hrest : EndsNumber rest) : readExponent (exponent ++ rest) = .ok (exponent, rest) := by
  cases h with
  | none =>
    cases rest with
    | nil => rfl
    | cons c rest =>
      obtain ⟨-, -, he, hE⟩ := hrest c rfl
      exact if_neg (not_or.2 ⟨he, hE⟩)
  | @letter e sign ds he hsign hds =>
    have htake := takeDigits_append hds.2 fun c hc ↦ (hrest c hc).1
    rw [List.cons_append, readExponent_of_letter he, List.append_assoc, splitSign_append hsign hds,
      htake]
    split
    · next heq => exact absurd (Prod.mk.inj heq).1 hds.1
    · next heq => obtain ⟨rfl, rfl⟩ := Prod.mk.inj heq; rfl

/-- What is read as an exponent is one, or nothing. -/
theorem of_readExponent {exponent : List Char} (h : readExponent cs = .ok (exponent, rest)) :
    IsExponent exponent ∧ cs = exponent ++ rest := by
  cases cs with
  | nil =>
    obtain ⟨rfl, rfl⟩ := Prod.mk.inj (Except.ok.inj h)
    exact ⟨.none, rfl⟩
  | cons e cs =>
    by_cases he : e = 'e' ∨ e = 'E'
    · obtain ⟨hsign, hcs⟩ := splitSign_spec cs
      rw [readExponent_of_letter he] at h
      split at h
      · cases h
      · next digits rest' hne htake =>
        obtain ⟨rfl, rfl⟩ := Prod.mk.inj (Except.ok.inj h)
        obtain ⟨hdigits, heq⟩ := of_takeDigits htake
        refine ⟨.letter he hsign ⟨hne, hdigits⟩, ?_⟩
        rw [List.cons_append, List.cons_append, List.append_assoc, ← heq, ← hcs]
    · have hnone : readExponent (e :: cs) = .ok ([], e :: cs) := if_neg he
      rw [hnone] at h
      obtain ⟨rfl, rfl⟩ := Prod.mk.inj (Except.ok.inj h)
      exact ⟨.none, rfl⟩

/-! ### Whole numbers -/

theorem IsNumeral.isDigits (h : IsNumeral ds) : IsDigits ds := ⟨h.1, h.2.1⟩

/-- What stands behind a numeral goes on neither with digits nor with a second point. -/
theorem head?_fraction_append {fraction exponent : List Char} (hfraction : IsFraction fraction)
    (hexponent : IsExponent exponent) (hrest : EndsNumber rest) :
    (∀ c ∈ (fraction ++ (exponent ++ rest)).head?, ¬c.isDigit) ∧
      ∀ c ∈ (exponent ++ rest).head?, ¬c.isDigit ∧ c ≠ '.' := by
  have hbehind : ∀ c ∈ (exponent ++ rest).head?, ¬c.isDigit ∧ c ≠ '.' := by
    cases hexponent with
    | none => exact fun c hc ↦ ⟨(hrest c hc).1, (hrest c hc).2.1⟩
    | letter he =>
      rintro _ ⟨rfl⟩
      obtain rfl | rfl := he <;> decide
  refine ⟨?_, hbehind⟩
  cases hfraction with
  | none => exact fun c hc ↦ (hbehind c hc).1
  | point =>
    rintro _ ⟨rfl⟩
    decide

/-- A number is read for what it is. -/
theorem readNumber_append (h : IsNumber cs) (hrest : EndsNumber rest) :
    readNumber (cs ++ rest) = .ok (.number (String.ofList cs), rest) := by
  obtain @⟨sign, integer, fraction, exponent, hsign, hinteger, hfraction, hexponent⟩ := h
  obtain ⟨hbehind, hbehind'⟩ := head?_fraction_append hfraction hexponent hrest
  have hread := readInteger_append hinteger hbehind
  have hread' := readFraction_append hfraction hbehind'
  have hread'' := readExponent_append hexponent hrest
  simp only [List.mem_cons, List.not_mem_nil, or_false] at hsign
  simp only [List.append_assoc]
  obtain rfl | rfl := hsign
  · rw [List.nil_append, readNumber]
    · simp only [hread, hread', hread'', bind, Except.bind, pure, Except.pure, List.append_assoc,
        List.nil_append]
    · -- a digit is no sign
      intro r heq
      obtain ⟨d, ds', rfl, hd⟩ := hinteger.isDigits.exists_cons
      obtain rfl := (List.cons.inj heq).1
      cases hd
  · rw [List.cons_append, List.nil_append, readNumber]
    simp only [hread, hread', hread'', bind, Except.bind, pure, Except.pure, List.append_assoc]

/-- What is read as a number is spelled by the text that it keeps. -/
theorem exists_of_readNumber {j : Json} (h : readNumber cs = .ok (j, rest)) :
    ∃ t, IsNumber t ∧ j = .number (String.ofList t) ∧ cs = t ++ rest := by
  unfold readNumber at h
  split at h
  next sign behind heq =>
  have hsign : sign ∈ [[], ['-']] ∧ cs = sign ++ behind := by
    split at heq
    · obtain ⟨rfl, rfl⟩ := Prod.mk.inj heq
      exact ⟨by simp, rfl⟩
    · obtain ⟨rfl, rfl⟩ := Prod.mk.inj heq
      exact ⟨by simp, rfl⟩
  obtain ⟨⟨integer, rest₁⟩, hread, h'⟩ := bind_eq_ok.1 h
  obtain ⟨⟨fraction, rest₂⟩, hread', h''⟩ := bind_eq_ok.1 h'
  obtain ⟨⟨exponent, rest₃⟩, hread'', hpure⟩ := bind_eq_ok.1 h''
  obtain ⟨rfl, rfl⟩ := Prod.mk.inj (pure_eq_ok.1 hpure)
  obtain ⟨hinteger, rfl⟩ := of_readInteger hread
  obtain ⟨hfraction, rfl⟩ := of_readFraction hread'
  obtain ⟨hexponent, rfl⟩ := of_readExponent hread''
  obtain ⟨hsign, rfl⟩ := hsign
  refine ⟨_, .mk hsign hinteger hfraction hexponent, ?_, ?_⟩
  · simp only [List.append_assoc]
  · simp only [List.append_assoc]

/-- A natural number is written as a number. -/
theorem IsNumeral.isNumber (h : IsNumeral ds) : IsNumber ds := by
  have hsign : [] ∈ [[], ['-']] := List.mem_cons_self ..
  have hnumber := IsNumber.mk hsign h .none .none
  rwa [List.append_nil, List.append_nil, List.nil_append] at hnumber

end ModeLexer.Json
