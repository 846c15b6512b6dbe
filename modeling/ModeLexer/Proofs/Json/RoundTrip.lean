import ModeLexer.Json.Printer
import ModeLexer.Proofs.Json.Grammar
import ModeLexer.Proofs.Text.Quoted

/-!
# What is written in JSON can be read

The texts that are written are put together by the grammar. Strings and truth values are spelled by
their texts, and so are arrays and objects whose parts are, joined between brackets with any blanks
after the separators, before the first and behind the last (`ReadsAs.array`, `ReadsAs.object`). A
value whose compact text reads as the value itself is given back by `parse` (`parse_compact`).
-/

namespace ModeLexer.Json

open Unicode

/-! ### Strings -/

/-- Four digits spell the number that they were written for. -/
theorem spellsUnit_of_lt {n : Nat} (h : n < 32) :
    SpellsUnit ['0', '0', hexDigit (n / 16), hexDigit (n % 16)] n := by
  obtain ⟨hhigh, hhigh'⟩ := Text.hexDigit_digitChar (n / 16) (by omega)
  obtain ⟨hlow, hlow'⟩ := Text.hexDigit_digitChar (n % 16) (by omega)
  refine ⟨rfl, ?_, ?_⟩
  · simpa using ⟨by decide, hhigh, hlow⟩
  · simp only [List.foldl_cons, List.foldl_nil, hexDigit, hhigh', hlow']
    show 16 * (0 + n / 16) + n % 16 = n
    omega

/-- The escape of a control character spells the character. -/
theorem spellsChar_control {c : Char} (h : c.toNat < 32) :
    SpellsChar ['\\', 'u', '0', '0', hexDigit (c.toNat / 16), hexDigit (c.toNat % 16)] c := by
  have hpoint := SpellsPoint.single (spellsUnit_of_lt h) (by omega)
  rw [Char.ofNat_toNat] at hpoint
  exact .point hpoint

/-- What is written for a character spells it: the character itself, a short escape, or the code of
a control character. -/
theorem spellsChar_escapeChar (c : Char) : SpellsChar (escapeChar c) c := by
  by_cases hletter : c ∈ ['"', '\\', '\x08', '\x0c', '\n', '\r', '\t']
  · simp only [List.mem_cons, List.not_mem_nil, or_false] at hletter
    rcases hletter with rfl | rfl | rfl | rfl | rfl | rfl | rfl
    all_goals exact .short (by decide)
  · simp only [List.mem_cons, List.not_mem_nil, or_false, not_or] at hletter
    obtain ⟨hquote, hbackslash, h₁, h₂, h₃, h₄, h₅⟩ := hletter
    rw [escapeChar, if_neg hquote, if_neg hbackslash, if_neg h₁, if_neg h₂, if_neg h₃, if_neg h₄,
      if_neg h₅]
    split
    · next hcontrol => exact spellsChar_control hcontrol
    · next hcontrol => exact .plain hquote hbackslash hcontrol

/-- A string is spelled by its characters in quotation marks, escaped where they have to be. -/
theorem spellsString_quote (s : String) : SpellsString (quote s.toList) s := by
  refine ⟨s.toList.map escapeChar, ?_, by rw [quote, List.flatMap, List.cons_append]⟩
  rw [List.forall₂_map_left_iff]
  exact List.forall₂_same.2 fun c _ ↦ spellsChar_escapeChar c

/-- A truth value is read from its word. -/
theorem readsAs_bool (b : Bool) : ReadsAs (compactChars (.bool b)) (.bool b) := by
  cases b with
  | false => exact SpellsValue.false.readsAs
  | true => exact SpellsValue.true.readsAs

/-- A string is read from its quotation. -/
theorem readsAs_string (s : String) : ReadsAs (quote s.toList) (.string s) :=
  (spellsString_quote s).readsAs

/-! ### Blanks around parts -/

section

variable {blanks cs : List Char} {j : Json} {js : List Json} {m : String × Json}
  {ms : List (String × Json)}

/-- Blanks in front of a value belong to it. -/
theorem SpellsElement.behindBlanks (hblanks : IsBlanks blanks) (h : SpellsElement cs j) :
    SpellsElement (blanks ++ cs) j := by
  obtain ⟨hbefore, h, hafter⟩ := h
  rw [← List.append_assoc]
  exact .mk (hblanks.append hbefore) h hafter

/-- Blanks behind a value belong to it. -/
theorem SpellsElement.beforeBlanks (h : SpellsElement cs j) (hblanks : IsBlanks blanks) :
    SpellsElement (cs ++ blanks) j := by
  obtain ⟨hbefore, h, hafter⟩ := h
  rw [List.append_assoc, List.append_assoc]
  exact .mk hbefore h (hafter.append hblanks)

/-- Blanks in front of items belong to the first one. -/
theorem SpellsItems.behindBlanks (hblanks : IsBlanks blanks) (h : SpellsItems cs js) :
    SpellsItems (blanks ++ cs) js := by
  cases h with
  | last h => exact .last (h.behindBlanks hblanks)
  | next h hs =>
    rw [← List.append_assoc]
    exact .next (h.behindBlanks hblanks) hs

/-- Blanks in front of a member belong to it. -/
theorem SpellsMember.behindBlanks (hblanks : IsBlanks blanks) (h : SpellsMember cs m) :
    SpellsMember (blanks ++ cs) m := by
  obtain ⟨hbefore, hkey, hafter, h⟩ := h
  rw [← List.append_assoc]
  exact .mk (hblanks.append hbefore) hkey hafter h

/-- Blanks behind a member belong to its value. -/
theorem SpellsMember.beforeBlanks (h : SpellsMember cs m) (hblanks : IsBlanks blanks) :
    SpellsMember (cs ++ blanks) m := by
  obtain ⟨hbefore, hkey, hafter, h⟩ := h
  simp only [List.append_assoc, List.cons_append]
  exact .mk hbefore hkey hafter (h.beforeBlanks hblanks)

/-- Blanks in front of members belong to the first one. -/
theorem SpellsMembers.behindBlanks (hblanks : IsBlanks blanks) (h : SpellsMembers cs ms) :
    SpellsMembers (blanks ++ cs) ms := by
  cases h with
  | last h => exact .last (h.behindBlanks hblanks)
  | next h hs =>
    rw [← List.append_assoc]
    exact .next (h.behindBlanks hblanks) hs

end

/-! ### Arrays and objects -/

theorem joinWith_cons_cons (separator t t' : List Char) (ts : List (List Char)) :
    joinWith separator (t :: t' :: ts) = t ++ separator ++ joinWith separator (t' :: ts) := rfl

section

variable {before blanks after t : List Char} {ts : List (List Char)}

/-- Items are spelled with blanks behind each separator and behind the last item. -/
theorem spellsItems_joinWith (hblanks : IsBlanks blanks) (hafter : IsBlanks after) {j : Json}
    {js : List Json} (ht : SpellsElement t j) (hts : List.Forall₂ SpellsElement ts js) :
    SpellsItems (joinWith (',' :: blanks) (t :: ts) ++ after) (j :: js) := by
  induction hts generalizing t j with
  | nil => exact .last (ht.beforeBlanks hafter)
  | cons ht' hts ih =>
    rw [joinWith_cons_cons, List.append_assoc, List.append_assoc, List.cons_append]
    exact .next ht ((ih ht').behindBlanks hblanks)

/-- Members are spelled with blanks behind each separator and behind the last member. -/
theorem spellsMembers_joinWith (hblanks : IsBlanks blanks) (hafter : IsBlanks after)
    {m : String × Json} {ms : List (String × Json)} (ht : SpellsMember t m)
    (hts : List.Forall₂ SpellsMember ts ms) :
    SpellsMembers (joinWith (',' :: blanks) (t :: ts) ++ after) (m :: ms) := by
  induction hts generalizing t m with
  | nil => exact .last (ht.beforeBlanks hafter)
  | cons ht' hts ih =>
    rw [joinWith_cons_cons, List.append_assoc, List.append_assoc, List.cons_append]
    exact .next ht ((ih ht').behindBlanks hblanks)

/-- Texts that are read as values are read as an array when they are joined in brackets, whatever
blanks stand between them. -/
theorem ReadsAs.array (hbefore : ∀ c ∈ before, isBlank c) (hblanks : ∀ c ∈ blanks, isBlank c)
    (hafter : ∀ c ∈ after, isBlank c) {js : List Json} (h : List.Forall₂ ReadsAs ts js) :
    ReadsAs ('[' :: (before ++ (joinWith (',' :: blanks) ts ++ (after ++ [']'])))) (.array js) := by
  have hbefore' := isBlanks_of_forall hbefore
  have hafter' := isBlanks_of_forall hafter
  rw [← List.append_assoc _ after, ← List.append_assoc before]
  cases h with
  | nil => exact (SpellsValue.emptyArray (hbefore'.append hafter')).readsAs
  | cons ht hts =>
    have hitems := spellsItems_joinWith (isBlanks_of_forall hblanks) hafter' ht.spells
      (hts.imp fun _ _ ↦ ReadsAs.spells)
    exact (SpellsValue.array (hitems.behindBlanks hbefore')).readsAs

/-- Whether a text is read as a member of an object. -/
def ReadsAsMember (cs : List Char) (m : String × Json) : Prop :=
  ∃ v, cs = quote m.1.toList ++ ':' :: v ∧ ReadsAs v m.2

/-- A text that is read as a member spells it. -/
theorem ReadsAsMember.spells {m : String × Json} (h : ReadsAsMember t m) : SpellsMember t m := by
  obtain ⟨v, rfl, hv⟩ := h
  exact .mk isBlanks_nil (spellsString_quote m.1) isBlanks_nil hv.spells

/-- Texts that are read as members are read as an object when they are joined in braces, whatever
blanks stand between them. -/
theorem ReadsAs.object (hbefore : ∀ c ∈ before, isBlank c) (hblanks : ∀ c ∈ blanks, isBlank c)
    (hafter : ∀ c ∈ after, isBlank c) {ms : List (String × Json)}
    (h : List.Forall₂ ReadsAsMember ts ms) :
    ReadsAs ('\x7b' :: (before ++ (joinWith (',' :: blanks) ts ++ (after ++ ['\x7d']))))
      (.object ms) := by
  have hbefore' := isBlanks_of_forall hbefore
  have hafter' := isBlanks_of_forall hafter
  rw [← List.append_assoc _ after, ← List.append_assoc before]
  cases h with
  | nil => exact (SpellsValue.emptyObject (hbefore'.append hafter')).readsAs
  | cons ht hts =>
    have hmembers := spellsMembers_joinWith (isBlanks_of_forall hblanks) hafter' ht.spells
      (hts.imp fun _ _ ↦ ReadsAsMember.spells)
    exact (SpellsValue.object (hmembers.behindBlanks hbefore')).readsAs

end

/-! ### The compact layout -/

/-- Whether the compact text of a value is read as the value. -/
def ReadsBack (j : Json) : Prop := ReadsAs j.compactChars j

/-- The texts of items are those of the values one by one. -/
theorem compactItems_eq_map (js : List Json) : compactItems js = js.map compactChars := by
  induction js with
  | nil => rfl
  | cons j js ih => rw [compactItems, ih, List.map_cons]

/-- The text of a member is its key, quoted, a colon and the text of its value. -/
theorem compactMembers_eq_map (ms : List (String × Json)) :
    compactMembers ms = ms.map fun m ↦ quote m.1.toList ++ ':' :: m.2.compactChars := by
  induction ms with
  | nil => rfl
  | cons m ms ih => rw [compactMembers, ih, List.map_cons]

theorem readsBack_bool (b : Bool) : ReadsBack (.bool b) := readsAs_bool b

theorem readsBack_string (s : String) : ReadsBack (.string s) := by
  rw [ReadsBack, compactChars]
  exact readsAs_string s

/-- An array is read back if its items are. -/
theorem readsBack_array {js : List Json} (h : ∀ j ∈ js, ReadsBack j) : ReadsBack (.array js) := by
  have hitems : List.Forall₂ ReadsAs (compactItems js) js := by
    rw [compactItems_eq_map, List.forall₂_map_left_iff]
    exact List.forall₂_same.2 h
  rw [ReadsBack, compactChars]
  simpa using ReadsAs.array (List.forall_mem_nil _) (List.forall_mem_nil _)
    (List.forall_mem_nil _) hitems

/-- An object is read back if its values are. -/
theorem readsBack_object {ms : List (String × Json)} (h : ∀ m ∈ ms, ReadsBack m.2) :
    ReadsBack (.object ms) := by
  have hmembers : List.Forall₂ ReadsAsMember (compactMembers ms) ms := by
    rw [compactMembers_eq_map, List.forall₂_map_left_iff]
    exact List.forall₂_same.2 fun m hm ↦ ⟨m.2.compactChars, rfl, h m hm⟩
  rw [ReadsBack, compactChars]
  simpa using ReadsAs.object (List.forall_mem_nil _) (List.forall_mem_nil _)
    (List.forall_mem_nil _) hmembers

/-- A value whose compact text is read as the value is given back. -/
theorem parse_compact {j : Json} (h : ReadsBack j) : parse j.compact = .ok j := by
  rw [parse, compact, String.toList_ofList]
  exact h.parseChars_eq

end ModeLexer.Json
