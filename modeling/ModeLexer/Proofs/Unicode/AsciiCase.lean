import ModeLexer.Unicode.CharSet

/-!
# What does not depend on the case of ASCII letters

`Char.toLower` makes the capital letters of ASCII small and leaves all other characters alone. What
a function gives for a character and for its small form is the same if it is for the capital letters
(`map_toLower`), of which there are few. So it is for the variants of a character in case, for the
test for a word character and for the number of bytes.

A set is *case-blind* if it has a character exactly if it has its small form. The Boolean operations
and the classes of characters keep to that, and what is closed under case folding does, whatever was
closed (`CharSet.caseBlind_variants`).
-/

namespace ModeLexer.Unicode

/-! ### Characters -/

/-- The capital letter of ASCII that `n` others precede, for `n` under 26. -/
def capital (n : Nat) : Char := .ofNat (65 + n)

/-- Every capital letter of ASCII is one of the twenty-six. -/
theorem exists_capital_of_isUpper {c : Char} (h : c.isUpper) : ∃ n < 26, capital n = c := by
  have hval : 'A'.val ≤ c.val ∧ c.val ≤ 'Z'.val := of_decide_eq_true h
  have hrange : 65 ≤ c.toNat ∧ c.toNat ≤ 90 := by simpa [UInt32.le_iff_toNat_le] using hval
  refine ⟨c.toNat - 65, by omega, ?_⟩
  rw [capital, Nat.add_sub_cancel' hrange.1, Char.ofNat_toNat]

/-- What is the same for the capital letters and their small forms is so for all characters. -/
theorem map_toLower {α : Type} {f : Char → α}
    (h : ∀ n < 26, f (capital n).toLower = f (capital n)) (c : Char) : f c.toLower = f c := by
  by_cases hc : c.isUpper
  · obtain ⟨n, hn, rfl⟩ := exists_capital_of_isUpper hc
    exact h n hn
  · have hsmall : c.toLower = c := dif_neg fun hval ↦ hc (decide_eq_true hval)
    rw [hsmall]

/-- The small form of a character takes as many bytes. -/
theorem utf8Size_toLower (c : Char) : c.toLower.utf8Size = c.utf8Size :=
  map_toLower (by decide) c

/-- The small form of a character is a word character if the character is one. -/
theorem isWord_toLower (c : Char) : isWord c.toLower = isWord c :=
  map_toLower (by decide) c

/-- The small form of a character is a word character of ASCII if the character is one. -/
theorem isAsciiWord_toLower (c : Char) : isAsciiWord c.toLower = isAsciiWord c :=
  map_toLower (by decide) c

/-- The small form of a character differs in case from the same characters. -/
theorem caseVariants_toLower (c : Char) : caseVariants c.toLower = caseVariants c :=
  map_toLower (by decide) c

/-- The small form of a character differs in ASCII case from the same characters. -/
theorem asciiOnlyCaseVariants_toLower (c : Char) :
    asciiOnlyCaseVariants c.toLower = asciiOnlyCaseVariants c :=
  map_toLower (by decide) c

/-- A character that ends a line is no letter. -/
theorem toLower_eq_lineEnd_iff {d : Char} (hd : d ∈ ['\n', '\r']) (c : Char) :
    c.toLower = d ↔ c = d := by
  have hlower : (c.toLower == d) = (c == d) := by
    obtain rfl | rfl : d = '\n' ∨ d = '\r' := by simpa using hd
    · exact map_toLower (f := (· == '\n')) (by decide) c
    · exact map_toLower (f := (· == '\r')) (by decide) c
  rw [← beq_iff_eq, hlower, beq_iff_eq]

/-! ### Sets -/

namespace CharSet

/-- Whether a set has a character exactly if it has its small form. -/
def CaseBlind (s : CharSet) : Prop := ∀ c, s.contains c.toLower = s.contains c

variable {a b : CharSet}

/-- The set of all characters is case-blind. -/
theorem caseBlind_all : CaseBlind all := fun _ ↦ rfl

/-- The union of case-blind sets is case-blind. -/
theorem CaseBlind.union (ha : a.CaseBlind) (hb : b.CaseBlind) : (union a b).CaseBlind := fun c ↦ by
  rw [contains_union, contains_union, ha c, hb c]

/-- The complement of a case-blind set is case-blind. -/
theorem CaseBlind.compl (ha : a.CaseBlind) : (compl a).CaseBlind := fun c ↦ by
  rw [contains_compl, contains_compl, ha c]

/-- The characters that end a line have no case. -/
theorem caseBlind_lineEnd {d : Char} (hd : d ∈ ['\n', '\r']) : (single d).CaseBlind := fun c ↦ by
  rw [contains_single, contains_single, decide_eq_decide]
  exact toLower_eq_lineEnd_iff hd c

/-- The digits, the blanks and the word characters are case-blind. -/
theorem caseBlind_charClass (k : CharClass) : (charClass k).CaseBlind := fun c ↦ by
  show k.contains c.toLower = k.contains c
  cases k <;> exact map_toLower (by decide) c

/-- The digits, the blanks and the word characters of ASCII are case-blind. -/
theorem caseBlind_asciiClass (k : CharClass) : (asciiClass k).CaseBlind := fun c ↦ by
  show k.containsAscii c.toLower = k.containsAscii c
  cases k <;> exact map_toLower (by decide) c

/-- The closure of a set under changes of case is case-blind. -/
theorem caseBlind_variants (a : CharSet) : (variants a).CaseBlind := fun c ↦ by
  rw [contains, contains, caseVariants_toLower]

/-- The closure of a set under changes of ASCII case is case-blind. -/
theorem caseBlind_asciiVariants (a : CharSet) : (asciiVariants a).CaseBlind := fun c ↦ by
  rw [contains, contains, asciiOnlyCaseVariants_toLower]

end CharSet

end ModeLexer.Unicode
