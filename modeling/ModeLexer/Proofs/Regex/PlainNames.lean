import ModeLexer.Proofs.Text.Ascii
import ModeLexer.Regex.Parser

/-!
# The names of sets are plain

A few characters open and close what an expression is made of: parentheses, brackets, the bar, the
backslash, and the caret at the start of a class. All others are *plain* (`IsPlain`). The name of a
set of characters is plain text, since it is found in a table that has only letters and digits in
it, and what does not count when names are compared is plain too.
-/

namespace ModeLexer

namespace Regex

/-- The characters that open or close something in an expression. -/
def brackets : List Char := ['\\', '[', ']', '(', ')', '|', '^']

/-- Whether a character neither opens nor closes anything in an expression. -/
def IsPlain (c : Char) : Prop := c ∉ brackets

instance (c : Char) : Decidable (IsPlain c) := inferInstanceAs (Decidable (¬_))

/-- What holds of no bracket holds of plain characters only. -/
theorem isPlain_of_any {p : Char → Bool} (h : brackets.any p = false) {c : Char} (hc : p c) :
    IsPlain c :=
  fun hmem ↦ List.any_eq_false.1 h c hmem hc

/-- That characters are plain can be found out by going through them. -/
theorem isPlain_of_all {cs : List Char} (h : cs.all (· ∉ brackets)) : ∀ c ∈ cs, IsPlain c := by
  simpa [IsPlain] using h

end Regex

namespace Unicode

open Regex

section

variable {α β : Type}

/-- Whether the names of a table are made of letters and digits. -/
def hasPlainNames (table : List (List String × α)) : Bool :=
  table.all fun e ↦ e.1.all fun name ↦ name.toList.all Char.isAlphanum

/-- Names of ASCII are checked by their bytes, which are their characters. -/
theorem hasPlainNames_of_charsOf {table : List (List String × α)}
    (h : table.all fun e ↦ e.1.all fun name ↦ (Text.charsOf name).all Char.isAlphanum) :
    hasPlainNames table := by
  simpa only [hasPlainNames, Text.charsOf_eq] using h

theorem hasPlainNames_categoryNames : hasPlainNames categoryNames :=
  hasPlainNames_of_charsOf (by decide +kernel)

theorem hasPlainNames_properties : hasPlainNames properties :=
  hasPlainNames_of_charsOf (by decide +kernel)

theorem hasPlainNames_scripts : hasPlainNames scripts :=
  hasPlainNames_of_charsOf (by decide +kernel)

theorem hasPlainNames_scriptExtensions : hasPlainNames scriptExtensions := by
  have hextended : hasPlainNames extendedScripts := hasPlainNames_of_charsOf (by decide +kernel)
  refine List.all_eq_true.2 fun e he ↦ ?_
  rcases List.mem_append.1 he with he | he
  · exact List.all_eq_true.1 hextended e he
  · exact List.all_eq_true.1 hasPlainNames_scripts e (List.mem_filter.1 he).1

/-- The names of a table do not depend on what they stand for. -/
theorem hasPlainNames_map {table : List (List String × α)} (h : hasPlainNames table) (f : α → β) :
    hasPlainNames (table.map fun e ↦ (e.1, f e.2)) :=
  List.all_map.trans h

/-- The characters of a name in such a table are letters and digits. -/
theorem isAlphanum_of_hasPlainNames {table : List (List String × α)} (h : hasPlainNames table)
    {e : List String × α} (he : e ∈ table) {name : String} (hname : name ∈ e.1) :
    ∀ c ∈ name.toList, c.isAlphanum :=
  List.all_eq_true.1 (List.all_eq_true.1 (List.all_eq_true.1 h e he) name hname)

end

/-- A character that is not plain counts in a name. -/
theorem mem_normalizeName {name : List Char} {c : Char} (hc : c ∈ brackets) (h : c ∈ name) :
    c ∈ normalizeName name := by
  have hcounts : brackets.all fun c ↦ c.toLower = c ∧ c ∉ ['i', 's'] ∧ c ≠ 'c' ∧
      (c.toNat < 128 && c ≠ ' ' && c ≠ '_' && c ≠ '-') = true := by
    decide
  obtain ⟨hlower, hprefix, hletter, hkept⟩ := of_decide_eq_true (List.all_eq_true.1 hcounts c hc)
  have hmem : c ∈ name.map Char.toLower := List.mem_map.2 ⟨c, h, hlower⟩
  have hrest : c ∈ if (name.map Char.toLower).take 2 = ['i', 's'] then
      (name.map Char.toLower).drop 2 else name.map Char.toLower := by
    split
    · next his =>
      rw [← List.take_append_drop 2 (name.map Char.toLower), his] at hmem
      exact (List.mem_append.1 hmem).resolve_left hprefix
    · exact hmem
  have hfilter : c ∈ List.filter
      (fun c ↦ c.toNat < 128 && c ≠ ' ' && c ≠ '_' && c ≠ '-') _ :=
    List.mem_filter.2 ⟨hrest, hkept⟩
  have hne : List.filter (fun c ↦ c.toNat < 128 && c ≠ ' ' && c ≠ '_' && c ≠ '-') _ ≠ ['c'] :=
    fun hc ↦ hletter (List.mem_singleton.1 (hc ▸ hfilter))
  rw [normalizeName, if_neg fun his ↦ hne his.2]
  exact hfilter

/-- A name that is compared as letters and digits is plain. -/
theorem isPlain_of_normalizeName {name : List Char}
    (h : ∀ c ∈ normalizeName name, c.isAlphanum) : ∀ c ∈ name, IsPlain c := by
  have hbrackets : brackets.any Char.isAlphanum = false := by decide
  exact fun c hc hmem ↦ List.any_eq_false.1 hbrackets c hmem (h c (mem_normalizeName hmem hc))

/-- What is found under a name has a plain name. -/
theorem isPlain_of_lookupName {table : List (List String × CharSet)} (h : hasPlainNames table)
    {name : List Char} {s : CharSet}
    (hs : lookupName table (String.ofList (normalizeName name)) = some s) :
    ∀ c ∈ name, IsPlain c := by
  obtain ⟨e, he, -⟩ := Option.map_eq_some_iff.1 hs
  have hname : String.ofList (normalizeName name) ∈ e.1 := by simpa using List.find?_some he
  refine isPlain_of_normalizeName fun c hc ↦ ?_
  exact isAlphanum_of_hasPlainNames h (List.mem_of_find?_eq_some he) hname c (by simpa using hc)

/-- The name of a set is plain text. -/
theorem isPlain_of_named? {name : List Char} {s : CharSet} (h : CharSet.named? name = some s) :
    ∀ c ∈ name, IsPlain c := by
  unfold CharSet.named? at h
  simp only [Option.orElse_eq_orElse, Option.orElse_eq_or, Option.or_eq_some_iff] at h
  rcases h with h | ⟨-, h | ⟨-, h⟩⟩
  · exact isPlain_of_lookupName hasPlainNames_properties h
  · exact isPlain_of_lookupName hasPlainNames_categoryNames h
  · exact isPlain_of_lookupName (hasPlainNames_map hasPlainNames_scripts _) h

/-- A property and its value are plain text. -/
theorem isPlain_of_valued? {property value : List Char} {s : CharSet}
    (h : CharSet.valued? property value = some s) :
    (∀ c ∈ property, IsPlain c) ∧ ∀ c ∈ value, IsPlain c := by
  have hproperty {n n' : String}
      (hn : String.ofList (normalizeName property) = n ∨
        String.ofList (normalizeName property) = n')
      (hplain : (n.toList ++ n'.toList).all Char.isAlphanum) : ∀ c ∈ property, IsPlain c := by
    refine isPlain_of_normalizeName fun c hc ↦ List.all_eq_true.1 hplain c ?_
    rcases hn with rfl | rfl <;> simp [hc]
  unfold CharSet.valued? at h
  simp only at h
  split at h
  · next hn =>
    exact ⟨hproperty hn (by decide), isPlain_of_lookupName hasPlainNames_categoryNames h⟩
  · split at h
    · next hn =>
      exact ⟨hproperty hn (by decide),
        isPlain_of_lookupName (hasPlainNames_map hasPlainNames_scripts _) h⟩
    · split at h
      · next hn =>
        exact ⟨hproperty hn (by decide),
          isPlain_of_lookupName (hasPlainNames_map hasPlainNames_scriptExtensions _) h⟩
      · simp at h

end Unicode

end ModeLexer
