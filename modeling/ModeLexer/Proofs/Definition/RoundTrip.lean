import ModeLexer.Definition.FromJson
import ModeLexer.Definition.FromYaml
import ModeLexer.Definition.ToJson
import ModeLexer.Proofs.Definition.Notation
import ModeLexer.Proofs.Json.RoundTrip
import ModeLexer.Proofs.Table.FirstMistake
import ModeLexer.Table.Build

/-!
# Definitions that are written and read again

A definition is written as nested objects, which are read back field by field
(`Json.readDefinition_toJson`). This asks one thing of it: that the transitions of its rules can be
read from their notations (`Definition.IsWritable`). Definitions that have been read are of this
kind, be it in JSON or in YAML, because all their transitions have come from notations.
-/

namespace ModeLexer

/-! ### Maps -/

namespace KeyMap

variable {α : Type}

/-- The map of the entries of a map. -/
theorem ofList_entries (m : KeyMap α) : ofList m.entries = m := by
  refine ext_get? fun key ↦ Option.ext fun value ↦ ?_
  rw [get?_ofList_eq_some_iff m.keys_nodup, get?_eq_some_iff]

/-- The entries of a map that is made of a list are in the list. -/
theorem mem_of_mem_entries_ofList {es : List (String × α)} {e : String × α}
    (h : e ∈ (ofList es).entries) : e ∈ es := by
  induction es using List.reverseRecOn with
  | nil => simp [ofList, empty] at h
  | append_singleton es e' ih =>
    rw [ofList_concat] at h
    rw [List.mem_append, List.mem_singleton]
    rcases mem_insertEntry h with heq | hmem
    · exact .inr heq
    · exact .inl (ih hmem)

end KeyMap

/-- Whether the transition of an entry, if it is a rule, can be read from its notation. -/
def Entry.IsWritable (e : Entry) : Prop := ∀ r, e = .rule r → r.next.IsWritable

/-- Whether the transitions of all rules can be read from their notations. -/
def Definition.IsWritable (d : Definition) : Prop :=
  ∀ mode ∈ d.modes.entries, ∀ e ∈ mode.2, e.IsWritable

instance : (e : Entry) → Decidable e.IsWritable
  | .rule r =>
    decidable_of_iff r.next.IsWritable ⟨fun h _ heq ↦ Entry.rule.inj heq ▸ h, fun h ↦ h r rfl⟩
  | .includeMode _ => isTrue fun _ heq ↦ by cases heq

instance (d : Definition) : Decidable d.IsWritable :=
  inferInstanceAs (Decidable (∀ mode ∈ d.modes.entries, ∀ e ∈ mode.2, Entry.IsWritable e))

/-! ### Reading what was written -/

namespace Json

/-- A list is read back item by item. -/
theorem readItemsWith_map {α : Type} {read : Json → Except ShapeError α} {write : α → Json}
    {xs : List α} (h : ∀ x ∈ xs, read (write x) = .ok x) :
    readItemsWith read (.array (xs.map write)) = .ok xs := by
  rw [readItemsWith, mapM_eq_ok, List.forall₂_map_left_iff]
  exact List.forall₂_same.2 h

/-- A map is read back entry by entry. Its order is that of the keys, so nothing is lost when its
entries are put together again. -/
theorem readMapWith_toJson {α : Type} {read : Json → Except ShapeError α} {write : α → Json}
    {m : KeyMap α} (h : ∀ e ∈ m.entries, read (write e.2) = .ok e.2) :
    readMapWith read (m.toJson write) = .ok m := by
  refine bind_eq_ok.2 ⟨m.entries, ?_, congrArg Except.ok m.ofList_entries⟩
  rw [mapM_eq_ok, List.forall₂_map_left_iff]
  exact List.forall₂_same.2 fun e he ↦ bind_eq_ok.2 ⟨e.2, h e he, rfl⟩

/-- A single label is read back from a string and a list of them from an array. -/
theorem readLabels_toJson (l : Labels) : readLabels l.toJson = .ok l := by
  cases l with
  | whole label => rfl
  | groups labels =>
    have hitems : readItemsWith readText (.array (labels.map .string)) = .ok labels :=
      readItemsWith_map fun _ _ ↦ rfl
    rw [Labels.toJson, readLabels, hitems]
    · rfl
    · simp

/-- A transition is read back from its notation. -/
theorem readTransition_toText {t : Transition} (h : t.IsWritable) :
    readTransition (.string t.toText) = .ok t := by
  simp [readTransition, readText, Transition.read, Transition.parse_toText h, bind, Except.bind,
    Except.mapError]

/-- A rule is read back from an object, in which a transition that does nothing is left out. -/
theorem readRule_toJson {r : RuleSpec} (h : r.next.IsWritable) : readRule r.toJson = .ok r := by
  obtain ⟨regex, labels, next⟩ := r
  by_cases hnext : next = .stay
  · subst hnext
    simp [RuleSpec.toJson, readRule, Fields.check, Definition.ruleFieldNames, Fields.require,
      Fields.readOr, readText, readLabels_toJson, bind, Except.bind, KeyMap.lookup_cons_eq]
    rfl
  · simp [RuleSpec.toJson, readRule, Fields.check, Definition.ruleFieldNames, Fields.require,
      Fields.readOr, readText, readLabels_toJson, readTransition_toText h, hnext, bind,
      Except.bind, KeyMap.lookup_cons_eq]
    rfl

/-- A rule is not taken for an include. -/
theorem readInclude_toJson (r : RuleSpec) :
    r.toJson.readInclude = .error (.unknownField "regex") := by
  rfl

/-- An include is read back as an include, and a rule as a rule. -/
theorem readEntry_toJson {e : Entry} (h : e.IsWritable) : readEntry e.toJson = .ok e := by
  cases e with
  | rule r =>
    rw [Entry.toJson, readEntry, readInclude_toJson, readRule_toJson (h r rfl)]
  | includeMode mode => rfl

/-- A definition is read back from the object that is written for it. -/
theorem readDefinition_toJson {d : Definition} (h : d.IsWritable) :
    d.toJson.readDefinition = .ok d := by
  obtain ⟨name, baseMode, defaultToken, ignoreCase, patterns, modes⟩ := d
  have hpatterns : readMapWith readText (patterns.toJson .string) = .ok patterns :=
    readMapWith_toJson fun _ _ ↦ rfl
  have hmodes : readMapWith (readItemsWith readEntry)
      (modes.toJson fun es ↦ .array (es.map Entry.toJson)) = .ok modes :=
    readMapWith_toJson fun mode hmode ↦ readItemsWith_map fun e he ↦
      readEntry_toJson (h mode hmode e he)
  simp [Definition.toJson, readDefinition, Fields.check, Definition.fieldNames, Fields.require,
    Fields.readOr, readText, readBool, hpatterns, hmodes, bind, Except.bind,
    KeyMap.lookup_cons_eq]
  rfl

/-- Labels are written as strings and arrays of strings, which are read back. -/
theorem readsBack_labels (l : Labels) : ReadsBack l.toJson := by
  cases l with
  | whole label => exact readsBack_string label
  | groups labels =>
    refine readsBack_array fun j hj ↦ ?_
    obtain ⟨label, -, rfl⟩ := List.mem_map.1 hj
    exact readsBack_string label

/-- A rule is written as an object of strings and labels, and an include as one of a string. -/
theorem readsBack_entry (e : Entry) : ReadsBack e.toJson := by
  cases e with
  | rule r =>
    refine readsBack_object fun m hm ↦ ?_
    rcases List.mem_cons.1 hm with rfl | hm
    · exact readsBack_string r.regex
    rcases List.mem_cons.1 hm with rfl | hm
    · exact readsBack_labels r.labels
    split at hm
    · simp at hm
    · obtain rfl := List.mem_singleton.1 hm
      exact readsBack_string r.next.toText
  | includeMode mode =>
    refine readsBack_object fun m hm ↦ ?_
    obtain rfl := List.mem_singleton.1 hm
    exact readsBack_string mode

/-- A map is written as an object, which is read back if the values are. -/
theorem readsBack_keyMap {α : Type} {write : α → Json} (h : ∀ x, ReadsBack (write x))
    (m : KeyMap α) : ReadsBack (m.toJson write) := by
  refine readsBack_object fun x hx ↦ ?_
  obtain ⟨e, -, rfl⟩ := List.mem_map.1 hx
  exact h e.2

/-- The text of a definition is read as the object that was written. -/
theorem readsBack_definition (d : Definition) : ReadsBack d.toJson := by
  have hmodes : ReadsBack (d.modes.toJson fun es ↦ .array (es.map Entry.toJson)) :=
    readsBack_keyMap (fun es ↦ readsBack_array fun j hj ↦ by
      obtain ⟨e, -, rfl⟩ := List.mem_map.1 hj
      exact readsBack_entry e) d.modes
  refine readsBack_object fun m hm ↦ ?_
  simp only [List.mem_cons, List.not_mem_nil, or_false] at hm
  rcases hm with rfl | rfl | rfl | rfl | rfl | rfl
  · exact readsBack_string d.name
  · exact readsBack_string d.baseMode
  · exact readsBack_string d.defaultToken
  · exact readsBack_bool d.ignoreCase
  · exact readsBack_keyMap readsBack_string d.patterns
  · exact hmodes

end Json

/-- A definition that can be written is read from what is written. -/
theorem Definition.ofJsonText_of_isWritable {d : Definition} (h : d.IsWritable) :
    ofJsonText d.toJsonText = .ok d := by
  rw [ofJsonText, toJsonText, Json.parse_compact (Json.readsBack_definition d)]
  exact mapError_eq_ok.2 (Json.readDefinition_toJson h)

/-! ### What has been read -/

/-- What holds of all results holds of the results for a list. -/
theorem forall_of_mapM_eq_ok {ε α β : Type} {f : α → Except ε β} {P : β → Prop}
    (hf : ∀ {a b}, f a = .ok b → P b) {as : List α} {bs : List β} (h : as.mapM f = .ok bs) :
    ∀ b ∈ bs, P b := by
  intro b hb
  obtain ⟨i, hi⟩ := List.mem_iff_getElem?.1 hb
  obtain ⟨a, -, hab⟩ := exists_getElem?_of_forall₂ (mapM_eq_ok.1 h) hi
  exact hf hab

/-- What holds of all results holds of the values of a map whose entries are read one by one. -/
theorem forall_of_mapM_entries {ε α β : Type} {f : α → Except ε β} {P : β → Prop}
    (hf : ∀ {a b}, f a = .ok b → P b) {ms : List (String × α)} {es : List (String × β)}
    (h : ms.mapM (fun (key, v) ↦ return (key, ← f v)) = .ok es) :
    ∀ e ∈ (KeyMap.ofList es).entries, P e.2 := by
  have hentries : ∀ e ∈ es, P e.2 := by
    refine forall_of_mapM_eq_ok (P := fun e ↦ P e.2) (fun {m e} hm ↦ ?_) h
    obtain ⟨b, hb, heq⟩ := bind_eq_ok.1 hm
    obtain rfl := pure_eq_ok.1 heq
    exact hf hb
  exact fun e he ↦ hentries e (KeyMap.mem_of_mem_entries_ofList he)

/-- No notation is needed for a transition that does nothing. -/
theorem isWritable_stay : Transition.IsWritable .stay := by
  rintro _ ⟨⟩

/-- What has been read from a notation has a notation. -/
theorem isWritable_of_read {text : String} {t : Transition} (h : Transition.read text = .ok t) :
    t.IsWritable :=
  Transition.isWritable_of_parse (mapError_eq_ok.1 h)

/-- A field with a writable default that is read as a writable transition is one. -/
theorem isWritable_of_readOr {α : Type} {read : α → Except ShapeError Transition}
    (hread : ∀ {a t}, read a = .ok t → t.IsWritable) {ms : List (String × α)} {t : Transition}
    (h : Fields.readOr "next" .stay read ms = .ok t) : t.IsWritable := by
  unfold Fields.readOr at h
  split at h
  · exact hread h
  · obtain rfl := Except.ok.inj h
    exact isWritable_stay

namespace Json

/-- A transition that has been read from JSON has come from a notation. -/
theorem isWritable_of_readTransition {j : Json} {t : Transition}
    (h : readTransition j = .ok t) : t.IsWritable := by
  obtain ⟨text, -, hread⟩ := bind_eq_ok.1 h
  exact isWritable_of_read hread

/-- A rule that has been read has a transition with a notation, be it given as an object or as an
array. -/
theorem isWritable_of_readRule {j : Json} {r : RuleSpec} (h : readRule j = .ok r) :
    r.next.IsWritable := by
  unfold readRule at h
  split at h
  · simp only [bind_eq_ok, pure_eq_ok] at h
    obtain ⟨_, -, _, -, regex, -, _, -, labels, -, next, hnext, rfl⟩ := h
    exact isWritable_of_readOr isWritable_of_readTransition hnext
  · simp only [bind_eq_ok, pure_eq_ok] at h
    obtain ⟨regex, -, labels, -, rfl⟩ := h
    exact isWritable_stay
  · simp only [bind_eq_ok, pure_eq_ok] at h
    obtain ⟨regex, -, labels, -, next, hnext, rfl⟩ := h
    exact isWritable_of_readTransition hnext
  · simp at h
  · simp at h

/-- An entry that has been read is an include, or a rule that has been read. -/
theorem isWritable_of_readEntry {j : Json} {e : Entry} (h : readEntry j = .ok e) :
    e.IsWritable := by
  unfold readEntry at h
  split at h
  · obtain rfl := Except.ok.inj h
    rintro _ ⟨⟩
  · split at h
    · next r hr =>
      obtain rfl := Except.ok.inj h
      rintro _ ⟨⟩
      exact isWritable_of_readRule hr
    · simp at h

/-- What holds of all that is read holds of the items of an array. -/
theorem forall_of_readItemsWith {α : Type} {read : Json → Except ShapeError α} {P : α → Prop}
    (hread : ∀ {j a}, read j = .ok a → P a) {j : Json} {as : List α}
    (h : readItemsWith read j = .ok as) : ∀ a ∈ as, P a := by
  unfold readItemsWith at h
  split at h
  · exact forall_of_mapM_eq_ok hread h
  · simp at h

/-- What holds of all that is read holds of the values of a map. -/
theorem forall_of_readMapWith {α : Type} {read : Json → Except ShapeError α} {P : α → Prop}
    (hread : ∀ {j a}, read j = .ok a → P a) {j : Json} {m : KeyMap α}
    (h : readMapWith read j = .ok m) : ∀ e ∈ m.entries, P e.2 := by
  unfold readMapWith at h
  split at h
  · obtain ⟨es, hes, heq⟩ := bind_eq_ok.1 h
    obtain rfl := pure_eq_ok.1 heq
    exact forall_of_mapM_entries (f := read) hread hes
  · simp at h

/-- A definition that has been read consists of entries that have been read. -/
theorem isWritable_of_readDefinition {j : Json} {d : Definition}
    (h : readDefinition j = .ok d) : d.IsWritable := by
  unfold readDefinition at h
  split at h
  · simp only [bind_eq_ok, pure_eq_ok] at h
    obtain ⟨_, -, _, -, name, -, _, -, baseMode, -, defaultToken, -, ignoreCase, -, patterns, -, _,
      -, modes, hmodes, rfl⟩ := h
    exact forall_of_readMapWith (forall_of_readItemsWith isWritable_of_readEntry) hmodes
  · simp only [bind_eq_ok, pure_eq_ok] at h
    obtain ⟨name, -, baseMode, -, defaultToken, -, ignoreCase, -, patterns, -, modes, hmodes,
      rfl⟩ := h
    exact forall_of_readMapWith (forall_of_readItemsWith isWritable_of_readEntry) hmodes
  · simp at h
  · simp at h

end Json

namespace Yaml.Node

/-- A transition that has been read from YAML has come from a notation. -/
theorem isWritable_of_readTransition {node : Tree} {t : Transition}
    (h : readTransition node = .ok t) : t.IsWritable := by
  obtain ⟨text, -, hread⟩ := bind_eq_ok.1 h
  exact isWritable_of_read hread

/-- A rule that has been read from YAML has a transition with a notation. -/
theorem isWritable_of_readRule {node : Tree} {r : RuleSpec} (h : readRule node = .ok r) :
    r.next.IsWritable := by
  unfold readRule at h
  split at h
  · simp only [bind_eq_ok, pure_eq_ok] at h
    obtain ⟨_, -, members, -, _, -, regex, -, _, -, labels, -, next, hnext, rfl⟩ := h
    exact isWritable_of_readOr isWritable_of_readTransition hnext
  · obtain ⟨_, -, h⟩ := bind_eq_ok.1 h
    split at h
    · simp only [bind_eq_ok, pure_eq_ok] at h
      obtain ⟨regex, -, labels, -, rfl⟩ := h
      exact isWritable_stay
    · simp only [bind_eq_ok, pure_eq_ok] at h
      obtain ⟨regex, -, labels, -, next, hnext, rfl⟩ := h
      exact isWritable_of_readTransition hnext
    · cases h
  · simp at h

/-- An entry that has been read from YAML is an include, or a rule that has been read. -/
theorem isWritable_of_readEntry {node : Tree} {e : Entry} (h : readEntry node = .ok e) :
    e.IsWritable := by
  unfold readEntry at h
  split at h
  · obtain rfl := Except.ok.inj h
    rintro _ ⟨⟩
  · split at h
    · next r hr =>
      obtain rfl := Except.ok.inj h
      rintro _ ⟨⟩
      exact isWritable_of_readRule hr
    · simp at h

/-- What holds of all that a reader gives holds of the items of a sequence. -/
theorem forall_of_readItemsWith {α : Type} {read : Tree → Except ShapeError α} {P : α → Prop}
    (hread : ∀ {n a}, read n = .ok a → P a) {node : Tree} {as : List α}
    (h : readItemsWith read node = .ok as) : ∀ a ∈ as, P a := by
  unfold readItemsWith at h
  split at h
  · exact forall_of_mapM_eq_ok hread h
  · obtain rfl := Except.ok.inj h
    exact List.forall_mem_nil _
  · simp at h

/-- What holds of all that a reader gives holds of the values of a mapping. -/
theorem forall_of_readMapWith {α : Type} {read : Tree → Except ShapeError α} {P : α → Prop}
    (hread : ∀ {n a}, read n = .ok a → P a) {node : Tree} {m : KeyMap α}
    (h : readMapWith read node = .ok m) : ∀ e ∈ m.entries, P e.2 := by
  obtain ⟨members, -, h⟩ := bind_eq_ok.1 h
  obtain ⟨es, hes, heq⟩ := bind_eq_ok.1 h
  obtain rfl := pure_eq_ok.1 heq
  exact forall_of_mapM_entries (f := read) hread hes

/-- A definition that has been read from YAML consists of entries that have been read. -/
theorem isWritable_of_readDefinition {node : Tree} {d : Definition}
    (h : readDefinition node = .ok d) : d.IsWritable := by
  simp only [readDefinition, bind_eq_ok, pure_eq_ok] at h
  obtain ⟨members, -, _, -, _, -, name, -, _, -, baseMode, -, defaultToken, -, ignoreCase, -,
    patterns, -, _, -, modes, hmodes, rfl⟩ := h
  exact forall_of_readMapWith (forall_of_readItemsWith isWritable_of_readEntry) hmodes

end Yaml.Node

namespace Definition

/-- What has been read can be written, whichever notation it was in. -/
theorem isWritable_of_ofText {text : String} {d : Definition}
    (h : ofJsonText text = .ok d ∨ ofYamlText text = .ok d) : d.IsWritable := by
  rcases h with h | h
  · obtain ⟨j, -, hread⟩ := bind_eq_ok.1 h
    exact Json.isWritable_of_readDefinition (mapError_eq_ok.1 hread)
  · obtain ⟨node, -, hread⟩ := bind_eq_ok.1 h
    exact Yaml.Node.isWritable_of_readDefinition (mapError_eq_ok.1 hread)

/-- **Writing and reading again.** A definition that has been read, in JSON or in YAML, is written
in JSON as a text that is read as the same definition, of which the same table is built, or the same
mistake found. -/
theorem ofJsonText_toJsonText [Regex.SizeLimit] {text : String} {d : Definition}
    (h : ofJsonText text = .ok d ∨ ofYamlText text = .ok d) :
    ofJsonText d.toJsonText = .ok d ∧
      (ofJsonText d.toJsonText).map RuleTable.build = .ok (RuleTable.build d) := by
  have hread := ofJsonText_of_isWritable (isWritable_of_ofText h)
  exact ⟨hread, by rw [hread]; rfl⟩

/-- A definition with a control character in its name, a rule that is written as an array and a
transition between blanks. -/
def pairText : String :=
  "\x7b\"name\": \"p\\u0001\", \"base_mode\": \"root\", \"modes\": \x7b" ++
    "\"root\": [[\"(a)(\\\"?)\", [\"a\", \"\"], \" pair\\n\"], \x7b\"include\": \"pair\"\x7d], " ++
    "\"pair\": [\x7b\"token\": \"b\", \"regex\": \"b\", \"next\": \"@pop\"\x7d]\x7d\x7d"

/-- What is read from it. -/
def pair : Definition :=
  Definition.new "p\x01" "root"
    |>.addMode "root" [(Entry.tokens "(a)(\"?)" ["a", ""]).push "pair", .includeMode "pair"]
    |>.addMode "pair" [(Entry.token "b" "b").pop]

/-- What has been read of that text is read again from what is written for it. -/
theorem pair_read_again :
    ofJsonText pairText = .ok pair ∧ ofJsonText pair.toJsonText = .ok pair := by
  have hread : ofJsonText pairText = .ok pair := by decide +kernel
  exact ⟨hread, (ofJsonText_toJsonText (.inl hread)).1⟩

end Definition

end ModeLexer
