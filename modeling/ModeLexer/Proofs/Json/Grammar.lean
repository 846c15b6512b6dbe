import Mathlib.Data.List.DropRight
import ModeLexer.Proofs.Json.Numbers
import ModeLexer.Proofs.Json.Strings

/-!
# Values in JSON

The grammar of JSON, and the reader measured against it. A text spells a value if the grammar
derives it (`SpellsValue`); what may stand where a value is expected is a value between blanks
(`SpellsElement`).

The reader takes a text that spells a value for that value, wherever the text stands, with as much
fuel as twice its length (`SpellsValue.readsAs`), and what it has read spells the value that it
gives (`readsSpelled`). Together they say that a text parses as a value exactly if it spells it
(`parse_eq_ok`).
-/

namespace ModeLexer.Json

-- The equations of the readers take long to make, and many lemmas need them.
attribute [grind =] readValue readItems readMembers

/-! ### The grammar -/

/-- Whether a text is blanks, or nothing. -/
def IsBlanks (cs : List Char) : Prop := ∀ c ∈ cs, c ∈ [' ', '\n', '\t', '\r']

mutual

/-- Whether a text spells a value. -/
inductive SpellsValue : List Char → Json → Prop
  | null : SpellsValue ['n', 'u', 'l', 'l'] .null
  | true : SpellsValue ['t', 'r', 'u', 'e'] (.bool true)
  | false : SpellsValue ['f', 'a', 'l', 's', 'e'] (.bool false)
  | number {cs : List Char} (h : IsNumber cs) : SpellsValue cs (.number (String.ofList cs))
  | string {cs : List Char} {s : String} (h : SpellsString cs s) : SpellsValue cs (.string s)
  | emptyArray {blanks : List Char} (h : IsBlanks blanks) :
    SpellsValue ('[' :: (blanks ++ [']'])) (.array [])
  | array {cs : List Char} {js : List Json} (h : SpellsItems cs js) :
    SpellsValue ('[' :: (cs ++ [']'])) (.array js)
  | emptyObject {blanks : List Char} (h : IsBlanks blanks) :
    SpellsValue ('\x7b' :: (blanks ++ ['\x7d'])) (.object [])
  | object {cs : List Char} {ms : List (String × Json)} (h : SpellsMembers cs ms) :
    SpellsValue ('\x7b' :: (cs ++ ['\x7d'])) (.object ms)

/-- Whether a text spells a value between blanks. -/
inductive SpellsElement : List Char → Json → Prop
  | mk {before cs after : List Char} {j : Json} (hbefore : IsBlanks before)
    (h : SpellsValue cs j) (hafter : IsBlanks after) : SpellsElement (before ++ (cs ++ after)) j

/-- Whether a text spells one or more items, with commas between them. -/
inductive SpellsItems : List Char → List Json → Prop
  | last {cs : List Char} {j : Json} (h : SpellsElement cs j) : SpellsItems cs [j]
  | next {cs ds : List Char} {j : Json} {js : List Json} (h : SpellsElement cs j)
    (hs : SpellsItems ds js) : SpellsItems (cs ++ ',' :: ds) (j :: js)

/-- Whether a text spells a member of an object. -/
inductive SpellsMember : List Char → String × Json → Prop
  | mk {before cs after ds : List Char} {key : String} {j : Json} (hbefore : IsBlanks before)
    (hkey : SpellsString cs key) (hafter : IsBlanks after) (h : SpellsElement ds j) :
    SpellsMember (before ++ (cs ++ (after ++ ':' :: ds))) (key, j)

/-- Whether a text spells one or more members, with commas between them. -/
inductive SpellsMembers : List Char → List (String × Json) → Prop
  | last {cs : List Char} {m : String × Json} (h : SpellsMember cs m) : SpellsMembers cs [m]
  | next {cs ds : List Char} {m : String × Json} {ms : List (String × Json)}
    (h : SpellsMember cs m) (hs : SpellsMembers ds ms) : SpellsMembers (cs ++ ',' :: ds) (m :: ms)

end

variable {cs rest rest' : List Char} {c : Char} {j : Json} {js : List Json} {m : String × Json}
  {ms : List (String × Json)} {n : Nat}

/-! ### Blanks -/

/-- Blanks of the grammar are blanks for the reader. -/
theorem IsBlanks.isBlank (h : IsBlanks cs) : ∀ c ∈ cs, isBlank c := by
  intro c hc
  have hmem := h c hc
  simp only [List.mem_cons, List.not_mem_nil, or_false] at hmem
  rcases hmem with rfl | rfl | rfl | rfl <;> rfl

/-- What the reader takes for blanks is blanks in the grammar. -/
theorem isBlanks_of_forall (h : ∀ c ∈ cs, Json.isBlank c) : IsBlanks cs := fun c hc ↦ by
  simpa [Json.isBlank, or_assoc] using h c hc

theorem isBlanks_nil : IsBlanks [] := List.forall_mem_nil _

theorem IsBlanks.append {ds : List Char} (h : IsBlanks cs) (h' : IsBlanks ds) :
    IsBlanks (cs ++ ds) :=
  List.forall_mem_append.2 ⟨h, h'⟩

/-- A text is blanks and what is left of it without them. -/
theorem exists_blanks (cs : List Char) :
    ∃ blanks, IsBlanks blanks ∧ cs = blanks ++ skipBlanks cs :=
  ⟨cs.takeWhile isBlank, isBlanks_of_forall fun _ ↦ List.mem_takeWhile_imp,
    List.takeWhile_append_dropWhile.symm⟩

/-- Blanks in front of a text are skipped with those that it begins with. -/
theorem skipBlanks_append {blanks : List Char} (h : ∀ c ∈ blanks, isBlank c) (cs : List Char) :
    skipBlanks (blanks ++ cs) = skipBlanks cs :=
  List.dropWhile_append_of_pos h

/-- Nothing is skipped in front of a character that is no blank. -/
theorem skipBlanks_cons {c : Char} (h : isBlank c = false) (cs : List Char) :
    skipBlanks (c :: cs) = c :: cs :=
  List.dropWhile_cons_of_neg (by simp [h])

theorem skipBlanks_skipBlanks (cs : List Char) : skipBlanks (skipBlanks cs) = skipBlanks cs :=
  List.dropWhile_idempotent isBlank cs

/-- Blanks before a value are passed over. -/
theorem readValue_skipBlanks (n : Nat) (cs : List Char) :
    readValue n (skipBlanks cs) = readValue n cs := by
  cases n with
  | zero => rfl
  | succ n => simp only [readValue, skipBlanks_skipBlanks]

/-- Blanks before the first item of an array are passed over. -/
theorem readItems_skipBlanks (n : Nat) (cs : List Char) :
    readItems n (skipBlanks cs) = readItems n cs := by
  cases n with
  | zero => rfl
  | succ n => simp only [readItems, readValue_skipBlanks]

/-- Blanks before the first member of an object are passed over. -/
theorem readMembers_skipBlanks (n : Nat) (cs : List Char) :
    readMembers n (skipBlanks cs) = readMembers n cs := by
  cases n with
  | zero => rfl
  | succ n => simp only [readMembers, expect, skipBlanks_skipBlanks]

/-- A character is found where it is expected exactly if it stands behind the blanks. -/
theorem expect_eq_ok : expect c cs = .ok rest ↔ skipBlanks cs = c :: rest := by
  rw [expect]
  cases skipBlanks cs with
  | nil => simp
  | cons d ds =>
    by_cases hd : d = c
    · simp [hd]
    · simp [hd]

/-! ### The steps of the reader -/

/-- What starts as a number does is read as one. -/
theorem readValue_number (h : c = '-' ∨ c.isDigit) (cs : List Char) :
    readValue (n + 1) (c :: cs) = readNumber (c :: cs) := by
  have hne : ∀ d : Char, d ≠ '-' → d.isDigit = false → c ≠ d := by
    rintro d hminus hdigit rfl
    rcases h with rfl | h
    · exact hminus rfl
    · simp [hdigit] at h
  have hblank : isBlank c = false := by
    simp [Json.isBlank, hne ' ' (by decide) rfl, hne '\n' (by decide) rfl,
      hne '\t' (by decide) rfl, hne '\r' (by decide) rfl]
  rw [readValue, skipBlanks_cons hblank]
  simp [h, hne 'n' (by decide) rfl, hne 't' (by decide) rfl, hne 'f' (by decide) rfl,
    hne '"' (by decide) rfl, hne '[' (by decide) rfl, hne '\x7b' (by decide) rfl]

/-- A closing bracket starts no item. -/
theorem readItems_closing_ne_ok (n : Nat) (rest : List Char) (r : List Json × List Char) :
    readItems n (']' :: rest) ≠ .ok r := by
  intro h
  cases n with
  | zero => simp [readItems] at h
  | succ n =>
    cases n with
    | zero => simp [readItems, readValue, bind, Except.bind] at h
    | succ n => simp [readItems, readValue, skipBlanks_cons, isBlank, bind, Except.bind] at h

/-- A closing brace starts no member. -/
theorem readMembers_closing_ne_ok (n : Nat) (rest : List Char)
    (r : List (String × Json) × List Char) : readMembers n ('\x7d' :: rest) ≠ .ok r := by
  intro h
  cases n with
  | zero => simp [readMembers] at h
  | succ n =>
    simp [readMembers, expect, skipBlanks_cons, isBlank, bind, Except.bind] at h

/-- A bracket opens an array, which is empty if it is closed at once. -/
theorem readValue_bracket (n : Nat) (cs : List Char) :
    readValue (n + 1) ('[' :: cs) =
      match skipBlanks cs with
      | ']' :: rest => .ok (.array [], rest)
      | rest => do
        let (items, rest) ← readItems n rest
        return (.array items, rest) := by
  rw [readValue, skipBlanks_cons (by decide)]
  rfl

/-- A brace opens an object, which is empty if it is closed at once. -/
theorem readValue_brace (n : Nat) (cs : List Char) :
    readValue (n + 1) ('\x7b' :: cs) =
      match skipBlanks cs with
      | '\x7d' :: rest => .ok (.object [], rest)
      | rest => do
        let (members, rest) ← readMembers n rest
        return (.object members, rest) := by
  rw [readValue, skipBlanks_cons (by decide)]
  rfl

/-- An array is read if its items and the closing bracket are. -/
theorem readValue_array (h : readItems n cs = .ok (js, rest)) :
    readValue (n + 1) ('[' :: cs) = .ok (.array js, rest) := by
  rw [← readItems_skipBlanks] at h
  rw [readValue_bracket]
  split
  · next rest' heq =>
    rw [heq] at h
    exact absurd h (readItems_closing_ne_ok n rest' _)
  · exact bind_eq_ok.2 ⟨_, h, rfl⟩

/-- An object is read if its members and the closing brace are. -/
theorem readValue_object (h : readMembers n cs = .ok (ms, rest)) :
    readValue (n + 1) ('\x7b' :: cs) = .ok (.object ms, rest) := by
  rw [← readMembers_skipBlanks] at h
  rw [readValue_brace]
  split
  · next rest' heq =>
    rw [heq] at h
    exact absurd h (readMembers_closing_ne_ok n rest' _)
  · exact bind_eq_ok.2 ⟨_, h, rfl⟩

/-- An item with a closing bracket behind it is the last one. -/
theorem readItems_last (hread : readValue n cs = .ok (j, rest))
    (hclosing : skipBlanks rest = ']' :: rest') : readItems (n + 1) cs = .ok ([j], rest') := by
  simp only [readItems, hread, bind, Except.bind, hclosing]
  rfl

/-- Behind an item and a comma more items are read. -/
theorem readItems_next {rest'' : List Char} (hread : readValue n cs = .ok (j, rest))
    (hcomma : skipBlanks rest = ',' :: rest') (hitems : readItems n rest' = .ok (js, rest'')) :
    readItems (n + 1) cs = .ok (j :: js, rest'') := by
  simp only [readItems, hread, bind, Except.bind, hcomma, hitems]
  rfl

/-- Reads what is left of an object behind a member and blanks. -/
def readBehindMember (n : Nat) (member : String × Json) :
    List Char → Except SyntaxError (List (String × Json) × List Char)
  | ',' :: rest => do
    let (members, rest) ← readMembers n rest
    return (member :: members, rest)
  | '\x7d' :: rest => return ([member], rest)
  | [] => .error .unexpectedEnd
  | c :: _ => .error (.unexpectedCharacter c)

/-- Members are read one by one. -/
theorem readMembers_succ (n : Nat) (cs : List Char) :
    readMembers (n + 1) cs = (do
      let rest ← expect '"' cs
      let (key, rest) ← readString [] (rest.length + 1) rest
      let rest ← expect ':' rest
      let (value, rest) ← readValue n rest
      readBehindMember n (String.ofList key, value) (skipBlanks rest)) := by
  rw [readMembers]
  rfl

/-! ### What is spelled is read -/

/-- Whether a text is read as a value, whatever stands behind it. -/
def ReadsAs (cs : List Char) (j : Json) : Prop :=
  ∀ n rest, 2 * cs.length ≤ n → EndsNumber rest → readValue n (cs ++ rest) = .ok (j, rest)

/-- A text that is recognized by its first characters is read with any fuel at all. -/
theorem readsAs_word {c : Char} {w : List Char} (h : ∀ n rest,
    readValue (n + 1) (c :: w ++ rest) = .ok (j, rest)) : ReadsAs (c :: w) j := by
  intro n rest hn _
  rw [List.length_cons] at hn
  obtain ⟨n, rfl⟩ : ∃ m, n = m + 1 := ⟨n - 1, by omega⟩
  exact h n rest

/-- A number begins with a minus sign or a digit. -/
theorem IsNumber.exists_cons (h : IsNumber cs) :
    ∃ c cs', cs = c :: cs' ∧ (c = '-' ∨ c.isDigit) := by
  obtain ⟨hsign, hinteger, -, -⟩ := h
  obtain ⟨d, ds, rfl, hd⟩ := hinteger.isDigits.exists_cons
  simp only [List.mem_cons, List.not_mem_nil, or_false] at hsign
  obtain rfl | rfl := hsign
  · exact ⟨d, _, rfl, .inr hd⟩
  · exact ⟨'-', _, rfl, .inl rfl⟩

/-- A text that is a number of the grammar is read as that number. -/
theorem IsNumber.readsAs (h : IsNumber cs) : ReadsAs cs (.number (String.ofList cs)) := by
  intro n rest hn hrest
  have hread := readNumber_append h hrest
  obtain ⟨c, cs, rfl, hc⟩ := h.exists_cons
  obtain ⟨n, rfl⟩ : ∃ m, n = m + 1 := ⟨n - 1, by rw [List.length_cons] at hn; omega⟩
  rw [List.cons_append, readValue_number hc, ← List.cons_append, hread]

/-- A text that spells a string is read as that string. -/
theorem SpellsString.readsAs {s : String} (h : SpellsString cs s) : ReadsAs cs (.string s) := by
  intro n rest hn _
  obtain ⟨n, rfl⟩ : ∃ m, n = m + 1 := by
    obtain ⟨ts, -, rfl⟩ := h
    exact ⟨n - 1, by simp at hn; omega⟩
  obtain ⟨body, heq, hread⟩ := h.exists_read rest
  rw [heq, readValue, skipBlanks_cons (by decide)]
  simp only [hread, bind, Except.bind, String.ofList_toList]
  rfl

mutual

/-- A text that spells a value is read as that value, by induction on its derivation. One unit of
fuel goes to a value and one to the list that it stands in. -/
theorem SpellsValue.readsAs {cs : List Char} {j : Json} : SpellsValue cs j → ReadsAs cs j
  | .null => readsAs_word fun n rest ↦ by simp [readValue, skipBlanks_cons, isBlank]
  | .true => readsAs_word fun n rest ↦ by simp [readValue, skipBlanks_cons, isBlank]
  | .false => readsAs_word fun n rest ↦ by simp [readValue, skipBlanks_cons, isBlank]
  | .number h => h.readsAs
  | .string h => h.readsAs
  | .emptyArray h => readsAs_word fun n rest ↦ by
    simp [readValue, skipBlanks_cons, isBlank, skipBlanks_append h.isBlank]
  | .array h => by
    intro n rest hn _
    simp only [List.length_cons, List.length_append, List.length_nil] at hn
    obtain ⟨n, rfl⟩ : ∃ m, n = m + 1 := ⟨n - 1, by omega⟩
    rw [List.cons_append, List.append_assoc]
    exact readValue_array (h.readItems n rest (by omega))
  | .emptyObject h => readsAs_word fun n rest ↦ by
    simp [readValue, skipBlanks_cons, isBlank, skipBlanks_append h.isBlank]
  | .object h => by
    intro n rest hn _
    simp only [List.length_cons, List.length_append, List.length_nil] at hn
    obtain ⟨n, rfl⟩ : ∃ m, n = m + 1 := ⟨n - 1, by omega⟩
    rw [List.cons_append, List.append_assoc]
    exact readValue_object (h.readMembers n rest (by omega))

/-- A value between blanks is read up to the blanks behind it. -/
theorem SpellsElement.exists_read {cs : List Char} {j : Json} :
    SpellsElement cs j → ∀ n rest, 2 * cs.length ≤ n → EndsNumber rest →
      ∃ rest', readValue n (cs ++ rest) = .ok (j, rest') ∧ skipBlanks rest' = skipBlanks rest
  | @SpellsElement.mk _ _ after _ hbefore h hafter => by
    intro n rest hn hrest
    simp only [List.length_append] at hn
    have hread := h.readsAs n (after ++ rest) (by omega) (endsNumber_append hafter.isBlank hrest)
    refine ⟨after ++ rest, ?_, skipBlanks_append hafter.isBlank rest⟩
    rw [List.append_assoc, List.append_assoc, ← readValue_skipBlanks,
      skipBlanks_append hbefore.isBlank, readValue_skipBlanks, hread]

/-- The items of an array are read up to its closing bracket. -/
theorem SpellsItems.readItems {cs : List Char} {js : List Json} :
    SpellsItems cs js → ∀ n rest, 2 * cs.length + 1 ≤ n →
      readItems n (cs ++ ']' :: rest) = .ok (js, rest)
  | .last h => by
    intro n rest hn
    obtain ⟨n, rfl⟩ : ∃ m, n = m + 1 := ⟨n - 1, by omega⟩
    obtain ⟨rest', hread, hskip⟩ :=
      h.exists_read n (']' :: rest) (by omega) (endsNumber_cons (by decide) rest)
    exact readItems_last hread (hskip.trans (skipBlanks_cons (by decide) rest))
  | @SpellsItems.next _ ds _ _ h hs => by
    intro n rest hn
    simp only [List.length_append, List.length_cons] at hn
    obtain ⟨n, rfl⟩ : ∃ m, n = m + 1 := ⟨n - 1, by omega⟩
    obtain ⟨rest', hread, hskip⟩ :=
      h.exists_read n (',' :: (ds ++ ']' :: rest)) (by omega) (endsNumber_cons (by decide) _)
    rw [List.append_assoc, List.cons_append]
    exact readItems_next hread (hskip.trans (skipBlanks_cons (by decide) _))
      (hs.readItems n rest (by omega))

/-- A member is read up to what stands behind it. -/
theorem SpellsMember.readMembers {cs : List Char} {m : String × Json} :
    SpellsMember cs m → ∀ n rest, 2 * cs.length ≤ n → EndsNumber rest →
      readMembers (n + 1) (cs ++ rest) = readBehindMember n m (skipBlanks rest)
  | @SpellsMember.mk before ks after ds _ _ hbefore hkey hafter h => by
    intro n rest hn hrest
    simp only [List.length_append, List.length_cons] at hn
    obtain ⟨rest', hread, hskip⟩ := h.exists_read n rest (by omega) hrest
    obtain ⟨body, hbody, hstring⟩ := hkey.exists_read (after ++ ':' :: (ds ++ rest))
    have hopening : expect '"' (before ++ (ks ++ (after ++ ':' :: (ds ++ rest)))) = .ok body := by
      rw [expect_eq_ok, skipBlanks_append hbefore.isBlank, hbody, skipBlanks_cons (by decide)]
    have hcolon : expect ':' (after ++ ':' :: (ds ++ rest)) = .ok (ds ++ rest) := by
      rw [expect_eq_ok, skipBlanks_append hafter.isBlank, skipBlanks_cons (by decide)]
    simp only [List.append_assoc, List.cons_append, readMembers_succ, hopening, hstring, hcolon,
      hread, hskip, bind, Except.bind, String.ofList_toList]

/-- The members of an object are read up to its closing brace. -/
theorem SpellsMembers.readMembers {cs : List Char} {ms : List (String × Json)} :
    SpellsMembers cs ms → ∀ n rest, 2 * cs.length + 1 ≤ n →
      readMembers n (cs ++ '\x7d' :: rest) = .ok (ms, rest)
  | .last h => by
    intro n rest hn
    obtain ⟨n, rfl⟩ : ∃ m, n = m + 1 := ⟨n - 1, by omega⟩
    rw [h.readMembers n _ (by omega) (endsNumber_cons (by decide) rest),
      skipBlanks_cons (by decide)]
    rfl
  | .next h hs => by
    intro n rest hn
    simp only [List.length_append, List.length_cons] at hn
    obtain ⟨n, rfl⟩ : ∃ m, n = m + 1 := ⟨n - 1, by omega⟩
    have hread := hs.readMembers n rest (by omega)
    rw [List.append_assoc, List.cons_append,
      h.readMembers n _ (by omega) (endsNumber_cons (by decide) _), skipBlanks_cons (by decide),
      readBehindMember, hread]
    rfl

end

/-! ### What is read is spelled -/

/-- What has been read of items is one value, and behind it the closing bracket or a comma and more
items. -/
theorem exists_of_readItems_succ (h : readItems (n + 1) cs = .ok (js, rest)) :
    ∃ j behind, readValue n cs = .ok (j, behind) ∧
      ((skipBlanks behind = ']' :: rest ∧ js = [j]) ∨
        ∃ rest' js', skipBlanks behind = ',' :: rest' ∧ readItems n rest' = .ok (js', rest) ∧
          js = j :: js') := by
  rw [readItems] at h
  obtain ⟨⟨j, behind⟩, hread, h'⟩ := bind_eq_ok.1 h
  refine ⟨j, behind, hread, ?_⟩
  dsimp only at h'
  split at h'
  · next rest' heq =>
    obtain ⟨⟨js', rest''⟩, hitems, hpure⟩ := bind_eq_ok.1 h'
    obtain ⟨rfl, rfl⟩ := Prod.mk.inj (pure_eq_ok.1 hpure)
    exact .inr ⟨rest', js', heq, hitems, rfl⟩
  · next rest' heq =>
    obtain ⟨rfl, rfl⟩ := Prod.mk.inj (pure_eq_ok.1 h')
    exact .inl ⟨heq, rfl⟩
  · cases h'
  · cases h'

/-- What has been read of one member, and where it ends. -/
theorem exists_of_readBehindMember {m : String × Json}
    (h : readBehindMember n m cs = .ok (ms, rest)) :
    (cs = '\x7d' :: rest ∧ ms = [m]) ∨
      ∃ rest' ms', cs = ',' :: rest' ∧ readMembers n rest' = .ok (ms', rest) ∧ ms = m :: ms' := by
  unfold readBehindMember at h
  split at h
  · next rest' =>
    obtain ⟨⟨ms', rest''⟩, hmembers, hpure⟩ := bind_eq_ok.1 h
    obtain ⟨rfl, rfl⟩ := Prod.mk.inj (pure_eq_ok.1 hpure)
    exact .inr ⟨rest', ms', rfl, hmembers, rfl⟩
  · obtain ⟨rfl, rfl⟩ := Prod.mk.inj (pure_eq_ok.1 h)
    exact .inl ⟨rfl, rfl⟩
  · cases h
  · cases h

/-- What has been read behind a bracket is an empty array or one with items. -/
theorem exists_of_readValue_bracket (h : readValue (n + 1) ('[' :: cs) = .ok (j, rest)) :
    (skipBlanks cs = ']' :: rest ∧ j = .array []) ∨
      ∃ js, readItems n cs = .ok (js, rest) ∧ j = .array js := by
  rw [readValue_bracket] at h
  split at h
  · next heq =>
    obtain ⟨rfl, rfl⟩ := Prod.mk.inj (Except.ok.inj h)
    exact .inl ⟨heq, rfl⟩
  · obtain ⟨⟨js, rest'⟩, hitems, hpure⟩ := bind_eq_ok.1 h
    obtain ⟨rfl, rfl⟩ := Prod.mk.inj (pure_eq_ok.1 hpure)
    exact .inr ⟨js, readItems_skipBlanks n cs ▸ hitems, rfl⟩

/-- What has been read behind a brace is an empty object or one with members. -/
theorem exists_of_readValue_brace (h : readValue (n + 1) ('\x7b' :: cs) = .ok (j, rest)) :
    (skipBlanks cs = '\x7d' :: rest ∧ j = .object []) ∨
      ∃ ms, readMembers n cs = .ok (ms, rest) ∧ j = .object ms := by
  rw [readValue_brace] at h
  split at h
  · next heq =>
    obtain ⟨rfl, rfl⟩ := Prod.mk.inj (Except.ok.inj h)
    exact .inl ⟨heq, rfl⟩
  · obtain ⟨⟨ms, rest'⟩, hmembers, hpure⟩ := bind_eq_ok.1 h
    obtain ⟨rfl, rfl⟩ := Prod.mk.inj (pure_eq_ok.1 hpure)
    exact .inr ⟨ms, readMembers_skipBlanks n cs ▸ hmembers, rfl⟩

/-- Whether what is read with some fuel is spelled by what has been passed over. -/
structure ReadsSpelled (n : Nat) : Prop where
  value : ∀ {cs j rest}, readValue n cs = .ok (j, rest) →
    ∃ blanks t, IsBlanks blanks ∧ SpellsValue t j ∧ cs = blanks ++ (t ++ rest)
  items : ∀ {cs js rest}, readItems n cs = .ok (js, rest) →
    ∃ t, SpellsItems t js ∧ cs = t ++ ']' :: rest
  members : ∀ {cs ms rest}, readMembers n cs = .ok (ms, rest) →
    ∃ t, SpellsMembers t ms ∧ cs = t ++ '\x7d' :: rest

/-- A value that has been read is spelled together with the blanks around it. -/
theorem ReadsSpelled.element (h : ReadsSpelled n) (hread : readValue n cs = .ok (j, rest)) :
    ∃ t, SpellsElement t j ∧ cs = t ++ skipBlanks rest := by
  obtain ⟨before, t, hbefore, ht, rfl⟩ := h.value hread
  obtain ⟨after, hafter, heq⟩ := exists_blanks rest
  refine ⟨_, .mk hbefore ht hafter, ?_⟩
  rw [List.append_assoc, List.append_assoc, ← heq]

/-- With one more unit of fuel, what is read as items is spelled. -/
theorem ReadsSpelled.items_succ (h : ReadsSpelled n)
    (hread : readItems (n + 1) cs = .ok (js, rest)) :
    ∃ t, SpellsItems t js ∧ cs = t ++ ']' :: rest := by
  obtain ⟨j, behind, hvalue, ⟨hclosing, rfl⟩ | ⟨rest', js', hcomma, hitems, rfl⟩⟩ :=
    exists_of_readItems_succ hread
  · obtain ⟨t, ht, rfl⟩ := h.element hvalue
    exact ⟨t, .last ht, by rw [hclosing]⟩
  · obtain ⟨t, ht, rfl⟩ := h.element hvalue
    obtain ⟨ts, hts, rfl⟩ := h.items hitems
    exact ⟨_, .next ht hts, by rw [hcomma, List.append_assoc, List.cons_append]⟩

/-- With one more unit of fuel, what is read as members is spelled. -/
theorem ReadsSpelled.members_succ (h : ReadsSpelled n)
    (hread : readMembers (n + 1) cs = .ok (ms, rest)) :
    ∃ t, SpellsMembers t ms ∧ cs = t ++ '\x7d' :: rest := by
  rw [readMembers_succ] at hread
  obtain ⟨body, hopening, hread'⟩ := bind_eq_ok.1 hread
  obtain ⟨⟨key, behindKey⟩, hkey, hread''⟩ := bind_eq_ok.1 hread'
  obtain ⟨behindColon, hcolon, hread'''⟩ := bind_eq_ok.1 hread''
  obtain ⟨⟨j, behind⟩, hvalue, hmember⟩ := bind_eq_ok.1 hread'''
  obtain ⟨t, ht, rfl⟩ := h.element hvalue
  obtain ⟨ks, hks, hbody⟩ := spellsString_of_read hkey
  obtain ⟨before, hbefore, hcs⟩ := exists_blanks cs
  obtain ⟨after, hafter, hbehindKey⟩ := exists_blanks behindKey
  have hspelled := SpellsMember.mk hbefore hks hafter ht
  have heq : cs = (before ++ (ks ++ (after ++ ':' :: t))) ++ skipBlanks behind := by
    rw [expect_eq_ok] at hopening hcolon
    rw [hcs, hopening, hbody, hbehindKey, hcolon]
    simp
  obtain ⟨hclosing, rfl⟩ | ⟨rest', ms', hcomma, hmembers, rfl⟩ := exists_of_readBehindMember hmember
  · exact ⟨_, .last hspelled, by rw [heq, hclosing]⟩
  · obtain ⟨ts, hts, rfl⟩ := h.members hmembers
    exact ⟨_, .next hspelled hts, by rw [heq, hcomma]; simp⟩

/-- With one more unit of fuel, what is read as an array is spelled. -/
theorem ReadsSpelled.value_bracket (h : ReadsSpelled n)
    (hread : readValue (n + 1) ('[' :: cs) = .ok (j, rest)) :
    ∃ t, SpellsValue t j ∧ '[' :: cs = t ++ rest := by
  obtain ⟨hclosing, rfl⟩ | ⟨js, hitems, rfl⟩ := exists_of_readValue_bracket hread
  · obtain ⟨blanks, hblanks, heq⟩ := exists_blanks cs
    exact ⟨_, .emptyArray hblanks, by rw [heq, hclosing]; simp⟩
  · obtain ⟨t, ht, rfl⟩ := h.items hitems
    exact ⟨_, .array ht, by simp⟩

/-- With one more unit of fuel, what is read as an object is spelled. -/
theorem ReadsSpelled.value_brace (h : ReadsSpelled n)
    (hread : readValue (n + 1) ('\x7b' :: cs) = .ok (j, rest)) :
    ∃ t, SpellsValue t j ∧ '\x7b' :: cs = t ++ rest := by
  obtain ⟨hclosing, rfl⟩ | ⟨ms, hmembers, rfl⟩ := exists_of_readValue_brace hread
  · obtain ⟨blanks, hblanks, heq⟩ := exists_blanks cs
    exact ⟨_, .emptyObject hblanks, by rw [heq, hclosing]; simp⟩
  · obtain ⟨t, ht, rfl⟩ := h.members hmembers
    exact ⟨_, .object ht, by simp⟩

/-- With one more unit of fuel, what is read as a value is spelled, with one case for each way in
which a value can begin. -/
theorem ReadsSpelled.value_succ (h : ReadsSpelled n)
    (hread : readValue (n + 1) cs = .ok (j, rest)) :
    ∃ blanks t, IsBlanks blanks ∧ SpellsValue t j ∧ cs = blanks ++ (t ++ rest) := by
  obtain ⟨blanks, hblanks, hcs⟩ := exists_blanks cs
  suffices hsuff : ∃ t, SpellsValue t j ∧ skipBlanks cs = t ++ rest by
    obtain ⟨t, ht, heq⟩ := hsuff
    exact ⟨blanks, t, hblanks, ht, heq ▸ hcs⟩
  have hread' := (readValue_skipBlanks (n + 1) cs).trans hread
  rw [readValue] at hread
  split at hread
  · cases hread
  · next heq =>
    obtain ⟨rfl, rfl⟩ := Prod.mk.inj (Except.ok.inj hread)
    exact ⟨_, .null, heq⟩
  · next heq =>
    obtain ⟨rfl, rfl⟩ := Prod.mk.inj (Except.ok.inj hread)
    exact ⟨_, .true, heq⟩
  · next heq =>
    obtain ⟨rfl, rfl⟩ := Prod.mk.inj (Except.ok.inj hread)
    exact ⟨_, .false, heq⟩
  · next heq =>
    obtain ⟨⟨s, rest'⟩, hstring, hpure⟩ := bind_eq_ok.1 hread
    obtain ⟨rfl, rfl⟩ := Prod.mk.inj (pure_eq_ok.1 hpure)
    obtain ⟨t, ht, ht'⟩ := spellsString_of_read hstring
    exact ⟨t, .string ht, heq.trans ht'⟩
  · next heq =>
    rw [heq] at hread' ⊢
    exact h.value_bracket hread'
  · next heq =>
    rw [heq] at hread' ⊢
    exact h.value_brace hread'
  · next heq =>
    split at hread
    · obtain ⟨t, ht, rfl, ht'⟩ := exists_of_readNumber hread
      exact ⟨t, .number ht, heq.trans ht'⟩
    · cases hread

/-- What has been read is spelled, with any fuel. -/
theorem readsSpelled (n : Nat) : ReadsSpelled n := by
  induction n with
  | zero =>
    refine ⟨fun h ↦ ?_, fun h ↦ ?_, fun h ↦ ?_⟩
    · cases h
    · cases h
    · cases h
  | succ n ih => exact ⟨ih.value_succ, ih.items_succ, ih.members_succ⟩

/-! ### Whole texts -/

/-- A text parses as a value exactly if it spells the value, between blanks. -/
theorem parseChars_eq_ok : parseChars cs = .ok j ↔ SpellsElement cs j := by
  rw [parseChars]
  constructor
  · intro h
    obtain ⟨⟨j', rest⟩, hread, hend⟩ := bind_eq_ok.1 h
    obtain ⟨t, ht, heq⟩ := (readsSpelled _).element hread
    dsimp only at hend
    split at hend
    · next hempty =>
      obtain rfl := pure_eq_ok.1 hend
      rw [List.isEmpty_iff.1 hempty, List.append_nil] at heq
      exact heq ▸ ht
    · cases hend
  · intro h
    obtain ⟨rest, hread, hskip⟩ :=
      h.exists_read (2 * cs.length + 1) [] (by omega) (by simp [EndsNumber])
    rw [List.append_nil] at hread
    refine bind_eq_ok.2 ⟨_, hread, ?_⟩
    dsimp only
    rw [hskip]
    rfl

/-- A string parses as a value exactly if its characters spell the value. -/
theorem parse_eq_ok {text : String} : parse text = .ok j ↔ SpellsElement text.toList j :=
  parseChars_eq_ok

/-- A value is read from a text that reads as the value. -/
theorem ReadsAs.parseChars_eq (h : ReadsAs cs j) : parseChars cs = .ok j := by
  have hread := h (2 * cs.length + 1) [] (by omega) (by simp [EndsNumber])
  rw [List.append_nil] at hread
  rw [parseChars, hread]
  rfl

/-- What a text reads as, it spells. -/
theorem ReadsAs.spells (h : ReadsAs cs j) : SpellsElement cs j :=
  parseChars_eq_ok.1 h.parseChars_eq

end ModeLexer.Json
