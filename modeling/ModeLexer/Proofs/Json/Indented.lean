import ModeLexer.Proofs.Json.RoundTrip

/-!
# The indented layout can be read

A natural number is read from its decimal digits (`readsAs_nat`): there is at least one, and the
first is not a zero unless it is the only one.

A value *reads indented* if its indented text reads as the value at every level (`ReadsIndented`).
Strings and natural numbers do, and so do arrays and objects of values that do. The line feeds and
spaces of the layout are blanks in front of an item, and an array or object without any is two
brackets next to each other.
-/

namespace ModeLexer.Json

/-! ### Numbers -/

/-- The digits of a number do not start with a zero, but for those of zero. -/
theorem toDigits_eq_of_head? {n : Nat} (h : (Nat.toDigits 10 n).head? = some '0') :
    Nat.toDigits 10 n = ['0'] := by
  induction n using Nat.strongRecOn with
  | ind n ih =>
    rw [Nat.toDigits_eq_if (by decide)] at h ⊢
    split at h
    · next hlt =>
      have hzero : ∀ n < 10, [n.digitChar].head? = some '0' → [n.digitChar] = ['0'] := by decide
      rw [if_pos hlt]
      exact hzero n hlt h
    · next hle =>
      -- What is in front of the last digit are the digits of a number that is not zero.
      rw [List.head?_append_of_ne_nil _ Nat.toDigits_ne_nil] at h
      have hdigits := ih (n / 10) (by omega) h
      have hvalue : Nat.ofDigitChars 10 (Nat.toDigits 10 (n / 10)) 0 = n / 10 :=
        Nat.ofDigitChars_ten_toDigits
      rw [hdigits] at hvalue
      have hpos : 0 < n / 10 := by omega
      exact absurd hvalue (Nat.ne_of_lt hpos)

/-- The digits of a number are a numeral. -/
theorem isNumeral_toDigits (n : Nat) : IsNumeral (Nat.toDigits 10 n) :=
  ⟨Nat.toDigits_ne_nil, fun _ hc ↦ Nat.isDigit_of_mem_toDigits (by decide) (by decide) hc,
    toDigits_eq_of_head?⟩

/-- A natural number is read from its digits. -/
theorem readsAs_nat (n : Nat) : ReadsAs (toString n).toList (.nat n) := by
  rw [Json.nat, Nat.toString_eq_ofList_toDigits, String.toList_ofList]
  exact (isNumeral_toDigits n).isNumber.readsAs

/-! ### Blanks before a value -/

/-- A value may stand behind blanks. -/
theorem ReadsAs.behindBlanks {blanks cs : List Char} {j : Json} (hblanks : ∀ c ∈ blanks, isBlank c)
    (h : ReadsAs cs j) : ReadsAs (blanks ++ cs) j := by
  intro n rest hn hrest
  rw [List.length_append] at hn
  rw [List.append_assoc, ← readValue_skipBlanks, skipBlanks_append hblanks, readValue_skipBlanks]
  exact h n rest (by omega) hrest

/-- The indentation of a line is blank. -/
theorem isBlank_of_mem_indent {level : Nat} : ∀ c ∈ indent level, isBlank c := by
  intro c hc
  rw [indent, List.mem_cons, List.mem_replicate] at hc
  rcases hc with rfl | ⟨-, rfl⟩
  · rfl
  · rfl

/-! ### The indented layout -/

/-- Whether the indented text of a value reads as the value, however deep it stands. -/
def ReadsIndented (j : Json) : Prop := ∀ level, ReadsAs (j.prettyChars level) j

/-- The texts of items are those of the values one by one. -/
theorem prettyItems_eq_map (level : Nat) (js : List Json) :
    prettyItems level js = js.map (prettyChars level) := by
  induction js with
  | nil => rfl
  | cons j js ih => rw [prettyItems, ih, List.map_cons]

/-- The text of a member is its key, quoted, a colon, a blank and the text of its value. -/
theorem prettyMembers_eq_map (level : Nat) (ms : List (String × Json)) :
    prettyMembers level ms =
      ms.map fun m ↦ quote m.1.toList ++ ':' :: ' ' :: m.2.prettyChars level := by
  induction ms with
  | nil => rfl
  | cons m ms ih => rw [prettyMembers, ih, List.map_cons]

/-- Items between brackets are joined with blanks around them, and without any if there is none. -/
theorem exists_block_eq (opening closing : Char) (level : Nat) (ts : List (List Char)) :
    ∃ before after, (∀ c ∈ before, isBlank c) ∧ (∀ c ∈ after, isBlank c) ∧
      block opening closing level ts =
        opening :: (before ++
          (joinWith (',' :: indent (level + 1)) ts ++ (after ++ [closing]))) := by
  cases ts with
  | nil => exact ⟨[], [], List.forall_mem_nil _, List.forall_mem_nil _, rfl⟩
  | cons t ts =>
    refine ⟨indent (level + 1), indent level, isBlank_of_mem_indent, isBlank_of_mem_indent, ?_⟩
    simp only [block, List.cons_append, List.append_assoc]

theorem readsIndented_string (s : String) : ReadsIndented (.string s) := fun level ↦ by
  rw [prettyChars]
  exact readsAs_string s

theorem readsIndented_nat (n : Nat) : ReadsIndented (.nat n) := fun level ↦ by
  rw [Json.nat, prettyChars]
  exact readsAs_nat n

/-- An indented array is read if its items are, one level deeper. -/
theorem readsIndented_array {js : List Json} (h : ∀ j ∈ js, ReadsIndented j) :
    ReadsIndented (.array js) := by
  intro level
  have hitems : List.Forall₂ ReadsAs (prettyItems (level + 1) js) js := by
    rw [prettyItems_eq_map, List.forall₂_map_left_iff]
    exact List.forall₂_same.2 fun j hj ↦ h j hj (level + 1)
  obtain ⟨before, after, hbefore, hafter, heq⟩ :=
    exists_block_eq '[' ']' level (prettyItems (level + 1) js)
  rw [prettyChars, heq]
  exact ReadsAs.array hbefore isBlank_of_mem_indent hafter hitems

/-- An indented object is read if its values are, one level deeper. -/
theorem readsIndented_object {ms : List (String × Json)} (h : ∀ m ∈ ms, ReadsIndented m.2) :
    ReadsIndented (.object ms) := by
  intro level
  have hblank : ∀ c ∈ [' '], isBlank c := List.forall_mem_singleton.2 rfl
  have hmembers : List.Forall₂ ReadsAsMember (prettyMembers (level + 1) ms) ms := by
    rw [prettyMembers_eq_map, List.forall₂_map_left_iff]
    exact List.forall₂_same.2 fun m hm ↦
      ⟨' ' :: m.2.prettyChars (level + 1), rfl, (h m hm (level + 1)).behindBlanks hblank⟩
  obtain ⟨before, after, hbefore, hafter, heq⟩ :=
    exists_block_eq '\x7b' '\x7d' level (prettyMembers (level + 1) ms)
  rw [prettyChars, heq]
  exact ReadsAs.object hbefore isBlank_of_mem_indent hafter hmembers

/-- A value whose indented text is read as the value is given back. -/
theorem parse_pretty {j : Json} (h : ReadsIndented j) : parse j.pretty = .ok j := by
  rw [parse, pretty, String.toList_ofList]
  exact (h 0).parseChars_eq

end ModeLexer.Json
