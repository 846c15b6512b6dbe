import ModeLexer.Definition.FromJson
import ModeLexer.Proofs.Json.Grammar
import ModeLexer.Proofs.Table.FirstMistake

/-!
# Accepted definitions

Which texts are definitions in JSON, told without the reader. What a definition, a rule, an include
and each of their values may look like is a predicate of its own, which also says what the value
stands for (`Shape`), and the reader takes exactly what has the shape, for what it stands for
(`Reads`). There is one such law for each reader, up to that of whole texts
(`Definition.ofJsonText_eq_ok`).

How the fields of a record are written down is a parameter of the shapes. An object with the names
of the fields is the plain way (`Named`), but not the only one: an array of their values in order is
read as the object that it stands for (`NamedOrInOrder`). So there are more definitions than those
with names (`Definition.ofJsonText_accepts_unnamed`).
-/

namespace ModeLexer

/-! ### Look-up in lists of fields -/

namespace KeyMap

/-- Of several entries with one key the last one counts. -/
theorem get?_ofList {α : Type} (es : List (String × α)) (key : String) :
    (ofList es).get? key = es.reverse.lookup key := by
  induction es using List.reverseRecOn with
  | nil => rfl
  | append_singleton es e ih =>
    rw [ofList_concat, get?_insert, List.reverse_concat, lookup_cons_eq, ih]

end KeyMap

namespace Fields

variable {α β : Type} {ms : List (String × α)} {name : String}

/-- A check passes if no key stands twice and all of them are allowed. -/
theorem check_eq_ok {allowed : List String} : check allowed ms = .ok () ↔
    (ms.map (·.1)).Nodup ∧ ∀ m ∈ ms, m.1 ∈ allowed := by
  induction ms with
  | nil => simp [check]
  | cons m ms ih =>
    obtain ⟨key, v⟩ := m
    rw [check, List.map_cons, List.nodup_cons, List.forall_mem_cons]
    by_cases hallowed : key ∈ allowed
    · by_cases hkey : key ∈ ms.map (·.1)
      · have hany : ms.any (·.1 == key) := by simpa using hkey
        simp [hallowed, hany, hkey]
      · have hany : ms.any (·.1 == key) = false := List.any_eq_false.2 fun m hm heq ↦
          hkey (List.mem_map.2 ⟨m, hm, by simpa using heq⟩)
        simp [hallowed, hany, hkey, ih]
    · simp [hallowed]

/-- If no key stands twice, each field is found. -/
theorem lookup_eq_some (h : (ms.map (·.1)).Nodup) {v : α} :
    ms.lookup name = some v ↔ (name, v) ∈ ms := by
  refine ⟨KeyMap.mem_of_lookup_eq_some, fun hmem ↦ ?_⟩
  induction ms with
  | nil => simp at hmem
  | cons m ms ih =>
    rw [List.map_cons, List.nodup_cons] at h
    rw [KeyMap.lookup_cons_eq]
    rcases List.mem_cons.1 hmem with rfl | hmem
    · rw [if_pos rfl]
    · have hne : name ≠ m.1 := fun heq ↦ h.1 (heq ▸ List.mem_map_of_mem hmem)
      rw [if_neg hne, ih h.2 hmem]

/-- A field that must be there is found exactly if it is among the fields. -/
theorem require_eq_ok (h : (ms.map (·.1)).Nodup) {v : α} :
    require name ms = .ok v ↔ (name, v) ∈ ms := by
  rw [← lookup_eq_some h, require]
  cases ms.lookup name <;> simp

/-- A field that may be missing is read where it is, and has its default where it is not. -/
theorem readOr_eq_ok (h : (ms.map (·.1)).Nodup) {default : β} {read : α → Except ShapeError β}
    {b : β} : readOr name default read ms = .ok b ↔
      (∃ v, (name, v) ∈ ms ∧ read v = .ok b) ∨ (∀ v, (name, v) ∉ ms) ∧ b = default := by
  simp only [← lookup_eq_some h, readOr]
  cases ms.lookup name <;> simp [eq_comm]

end Fields

namespace Json

/-! ### The description -/

/-- A way to write a record down: of the names that its fields have, of a value and of fields it
tells whether the value holds these fields. -/
def RecordNotation : Type := List String → Json → List (String × Json) → Prop

/-- The fields with their names, in any order, and none of them twice. -/
def Named : RecordNotation := fun names j fields ↦
  j = .object fields ∧ (fields.map (·.1)).Nodup ∧ ∀ field ∈ fields, field.1 ∈ names

/-- The values of the fields in order, where the last ones may be missing. -/
def InOrder : RecordNotation := fun names j fields ↦
  ∃ items, j = .array items ∧ items.length ≤ names.length ∧ fields = names.zip items

def NamedOrInOrder : RecordNotation := fun names j fields ↦
  Named names j fields ∨ InOrder names j fields

/-- A value of type `α` in JSON: what the JSON looks like, and what it stands for. -/
def Shape (α : Type) : Type := Json → α → Prop

def IsText : Shape String := fun j s ↦ j = .string s

def IsFlag : Shape Bool := fun j b ↦ j = .bool b

/-- A string that is the notation of a transition. -/
def IsTransition : Shape Transition := fun j t ↦ ∃ s, IsText j s ∧ Transition.parse s = .ok t

section

variable {α : Type} (P : Shape α)

/-- An array of what has a shape. -/
def IsList : Shape (List α) := fun j as ↦ ∃ items, j = .array items ∧ List.Forall₂ P items as

/-- An object with members of one shape, the last of several members with one key counting. -/
def IsMap : Shape (KeyMap α) := fun j m ↦
  ∃ members entries, j = .object members ∧
    List.Forall₂ (fun member entry ↦ member.1 = entry.1 ∧ P member.2 entry.2) members entries ∧
    ∀ key, m.get? key = entries.reverse.lookup key

variable (name : String) (fields : List (String × Json)) (a : α)

/-- Whether there is a field of a name, of a shape and for a value. -/
def HasField : Prop := ∃ j, (name, j) ∈ fields ∧ P j a

/-- Whether there is such a field, or none of the name and the value is the default. -/
def HasFieldOr (default : α) : Prop :=
  HasField P name fields a ∨ (∀ j, (name, j) ∉ fields) ∧ a = default

end

/-- One string, or an array of strings. -/
inductive IsLabels : Json → Labels → Prop
  | whole {j : Json} {label : String} (h : IsText j label) : IsLabels j (.whole label)
  | groups {j : Json} {labels : List String} (h : IsList IsText j labels) :
    IsLabels j (.groups labels)

/-- Whether these are the fields of a rule. -/
structure HoldsRule (fields : List (String × Json)) (r : RuleSpec) : Prop where
  regex : HasField IsText "regex" fields r.regex
  labels : HasField IsLabels "token" fields r.labels
  next : HasFieldOr IsTransition "next" fields r.next .stay

variable (R : RecordNotation)

/-- A mode to include, or a rule. -/
inductive IsEntry : Json → Entry → Prop
  | includeMode {j : Json} {fields : List (String × Json)} {mode : String}
    (h : R ["include"] j fields) (hmode : HasField IsText "include" fields mode) :
    IsEntry j (.includeMode mode)
  | rule {j : Json} {fields : List (String × Json)} {r : RuleSpec}
    (h : R ["regex", "token", "next"] j fields) (hr : HoldsRule fields r) : IsEntry j (.rule r)

/-- Whether these are the fields of a definition. -/
structure HoldsDefinition (fields : List (String × Json)) (d : Definition) : Prop where
  name : HasField IsText "name" fields d.name
  baseMode : HasField IsText "base_mode" fields d.baseMode
  defaultToken : HasFieldOr IsText "default_token" fields d.defaultToken "unclassified"
  ignoreCase : HasFieldOr IsFlag "ignore_case" fields d.ignoreCase false
  patterns : HasFieldOr (IsMap IsText) "patterns" fields d.patterns .empty
  modes : HasField (IsMap (IsList (IsEntry R))) "modes" fields d.modes

def IsDefinition : Shape Definition := fun j d ↦
  ∃ fields, R ["name", "base_mode", "default_token", "ignore_case", "patterns", "modes"] j fields ∧
    HoldsDefinition R fields d

/-! ### Readers of shapes -/

/-- Whether a reader takes what has a shape, for what it stands for, and nothing else. -/
def Reads {α : Type} (read : Json → Except ShapeError α) (P : Shape α) : Prop :=
  ∀ j a, read j = .ok a ↔ P j a

/-- The reader of texts takes the strings. -/
theorem reads_text : Reads readText IsText := fun j s ↦ by
  cases j <;> simp [readText, IsText]

/-- The reader of flags takes the truth values. -/
theorem reads_flag : Reads readBool IsFlag := fun j b ↦ by
  cases j <;> simp [readBool, IsFlag]

section

variable {α : Type} {read : Json → Except ShapeError α} {P : Shape α}

/-- A reader of lists takes the arrays of what its reader of items takes. -/
theorem Reads.list (h : Reads read P) : Reads (readItemsWith read) (IsList P) := fun j as ↦ by
  cases j with
  | array items =>
    have hread : (fun j a ↦ read j = .ok a) = P := funext₂ fun j a ↦ propext (h j a)
    simp [readItemsWith, mapM_eq_ok, IsList, hread]
  | _ => simp [readItemsWith, IsList]

/-- A reader of maps takes the objects of what its reader of values takes. -/
theorem Reads.map (h : Reads read P) : Reads (readMapWith read) (IsMap P) := fun j m ↦ by
  cases j with
  | object members =>
    have hentry (member : String × Json) (entry : String × α) :
        (do return (member.1, ← read member.2) : Except ShapeError (String × α)) = .ok entry ↔
          member.1 = entry.1 ∧ P member.2 entry.2 := by
      simp only [bind_eq_ok, pure_eq_ok, h _ _]
      constructor
      · rintro ⟨a, ha, rfl⟩
        exact ⟨rfl, ha⟩
      · rintro ⟨hkey, ha⟩
        exact ⟨entry.2, ha, Prod.ext hkey rfl⟩
    have hmap (entries : List (String × α)) :
        KeyMap.ofList entries = m ↔ ∀ key, m.get? key = entries.reverse.lookup key := by
      simp only [← KeyMap.get?_ofList]
      exact ⟨fun h key ↦ by rw [h], fun h ↦ KeyMap.ext_get? fun key ↦ (h key).symm⟩
    rw [readMapWith, bind_eq_ok]
    simp only [mapM_eq_ok, pure_eq_ok, hentry, hmap]
    constructor
    · rintro ⟨entries, hentries, hm⟩
      exact ⟨members, entries, rfl, hentries, hm⟩
    · rintro ⟨_, entries, ⟨rfl⟩, hentries, hm⟩
      exact ⟨entries, hentries, hm⟩
  | _ => simp [readMapWith, IsMap]

end

/-- The reader of labels takes one string, or an array of strings. -/
theorem reads_labels : Reads readLabels IsLabels := fun j l ↦ by
  have hlist := Reads.list reads_text
  constructor
  · intro h
    cases j with
    | string s =>
      obtain rfl := Except.ok.inj h
      exact .whole rfl
    | array items =>
      obtain ⟨labels, hlabels, rfl⟩ := map_eq_ok.1 h
      exact .groups ((hlist _ labels).1 hlabels)
    | _ => simp [readLabels, readItemsWith, Except.map] at h
  · rintro (⟨⟨⟩⟩ | ⟨h⟩)
    · rfl
    · obtain ⟨items, rfl, -⟩ := id h
      exact map_eq_ok.2 ⟨_, (hlist _ _).2 h, rfl⟩

/-- The reader of transitions takes the strings that are notations. -/
theorem reads_transition : Reads readTransition IsTransition := fun j t ↦ by
  simp only [readTransition, bind_eq_ok, reads_text j _, Transition.read, mapError_eq_ok,
    IsTransition]

/-! ### Readers of records -/

section

variable {α : Type} {fields : List (String × Json)} {name : String} {a : α}
  {read : Json → Except ShapeError α} {P : Shape α}

/-- A field is found and read. -/
theorem Reads.require (h : Reads read P) (hfields : (fields.map (·.1)).Nodup) :
    (∃ j, Fields.require name fields = .ok j ∧ read j = .ok a) ↔ HasField P name fields a := by
  simp only [Fields.require_eq_ok hfields, h _ _, HasField]

/-- A field that may be missing is read with the reader of its shape. -/
theorem Reads.readOr (h : Reads read P) (hfields : (fields.map (·.1)).Nodup) {default : α} :
    Fields.readOr name default read fields = .ok a ↔ HasFieldOr P name fields a default := by
  simp only [Fields.readOr_eq_ok hfields, h _ _, HasFieldOr, HasField]

end

/-- A reader that takes the fields of a record by name, and the bare values in order for the fields
that they are the values of, takes both notations. -/
theorem reads_record {α : Type} {names : List String} {read : Json → Except ShapeError α}
    {Holds : List (String × Json) → α → Prop} (hnames : names.Nodup)
    (hobject : ∀ fields a, read (.object fields) = .ok a ↔
      (fields.map (·.1)).Nodup ∧ (∀ field ∈ fields, field.1 ∈ names) ∧ Holds fields a)
    (harray : ∀ items a, read (.array items) = .ok a ↔
      items.length ≤ names.length ∧ read (.object (names.zip items)) = .ok a)
    (hother : ∀ j a, read j = .ok a → (∃ fields, j = .object fields) ∨ ∃ items, j = .array items) :
    Reads read fun j a ↦ ∃ fields, NamedOrInOrder names j fields ∧ Holds fields a := fun j a ↦ by
  constructor
  · intro h
    rcases hother j a h with ⟨fields, rfl⟩ | ⟨items, rfl⟩
    · obtain ⟨hnodup, hmem, hholds⟩ := (hobject fields a).1 h
      exact ⟨fields, .inl ⟨rfl, hnodup, hmem⟩, hholds⟩
    · obtain ⟨hlength, hread⟩ := (harray items a).1 h
      obtain ⟨-, -, hholds⟩ := (hobject _ a).1 hread
      exact ⟨_, .inr ⟨items, rfl, hlength, rfl⟩, hholds⟩
  · rintro ⟨fields, ⟨rfl, hnodup, hmem⟩ | ⟨items, rfl, hlength, rfl⟩, hholds⟩
    · exact (hobject fields a).2 ⟨hnodup, hmem, hholds⟩
    · have hkeys : ((names.zip items).map (·.1)).Sublist names := by
        rw [List.zip_eq_zip_take_min, List.map_fst_zip (by simp)]
        exact List.take_sublist ..
      refine (harray items a).2 ⟨hlength, (hobject _ a).2 ⟨hnames.sublist hkeys, ?_, hholds⟩⟩
      exact fun field hfield ↦ hkeys.subset (List.mem_map_of_mem hfield)

/-- Of objects, the reader of includes takes those with the name of a mode and nothing else. -/
theorem readInclude_object {fields : List (String × Json)} {mode : String} :
    (object fields).readInclude = .ok mode ↔ (fields.map (·.1)).Nodup ∧
      (∀ field ∈ fields, field.1 ∈ ["include"]) ∧ HasField IsText "include" fields mode := by
  simp only [readInclude, bind_eq_ok]
  constructor
  · rintro ⟨_, hcheck, hmode⟩
    obtain ⟨hnodup, hmem⟩ := Fields.check_eq_ok.1 hcheck
    exact ⟨hnodup, hmem, (reads_text.require hnodup).1 hmode⟩
  · rintro ⟨hnodup, hmem, hmode⟩
    exact ⟨(), Fields.check_eq_ok.2 ⟨hnodup, hmem⟩, (reads_text.require hnodup).2 hmode⟩

/-- The reader of includes takes them in either notation. -/
theorem reads_include : Reads readInclude fun j mode ↦
    ∃ fields, NamedOrInOrder ["include"] j fields ∧ HasField IsText "include" fields mode := by
  refine reads_record (by decide) (fun _ _ ↦ readInclude_object) (fun items mode ↦ ?_)
    fun j mode h ↦ by cases j <;> simp_all [readInclude]
  match items with
  | [] =>
    refine ⟨fun h ↦ by simp [readInclude] at h, fun ⟨_, h⟩ ↦ ?_⟩
    obtain ⟨_, hmode, -⟩ := (readInclude_object.1 h).2.2
    simp at hmode
  | [_] => exact (and_iff_right (Nat.le_refl 1)).symm
  | _ :: _ :: _ => simp [readInclude]

/-- Of objects, the reader of rules takes those that hold the fields of a rule and no others. -/
theorem readRule_object {fields : List (String × Json)} {r : RuleSpec} :
    (object fields).readRule = .ok r ↔ (fields.map (·.1)).Nodup ∧
      (∀ field ∈ fields, field.1 ∈ ["regex", "token", "next"]) ∧ HoldsRule fields r := by
  simp only [readRule, bind_eq_ok, pure_eq_ok]
  constructor
  · rintro ⟨_, hcheck, _, hjregex, regex, hregex, _, hjlabels, labels, hlabels, next, hnext, rfl⟩
    obtain ⟨hnodup, hmem⟩ := Fields.check_eq_ok.1 hcheck
    exact ⟨hnodup, hmem, (reads_text.require hnodup).1 ⟨_, hjregex, hregex⟩,
      (reads_labels.require hnodup).1 ⟨_, hjlabels, hlabels⟩,
      (reads_transition.readOr hnodup).1 hnext⟩
  · rintro ⟨hnodup, hmem, hregex, hlabels, hnext⟩
    obtain ⟨_, hjregex, hregex⟩ := (reads_text.require hnodup).2 hregex
    obtain ⟨_, hjlabels, hlabels⟩ := (reads_labels.require hnodup).2 hlabels
    exact ⟨(), Fields.check_eq_ok.2 ⟨hnodup, hmem⟩, _, hjregex, _, hregex, _, hjlabels, _,
      hlabels, _, (reads_transition.readOr hnodup).2 hnext, rfl⟩

/-- The reader of rules takes them in either notation. -/
theorem reads_rule : Reads readRule fun j r ↦
    ∃ fields, NamedOrInOrder ["regex", "token", "next"] j fields ∧ HoldsRule fields r := by
  refine reads_record (by decide) (fun _ _ ↦ readRule_object) (fun items r ↦ ?_)
    fun j r h ↦ by cases j <;> simp_all [readRule]
  match items with
  | [] | [_] =>
    refine ⟨fun h ↦ by simp [readRule] at h, fun ⟨_, h⟩ ↦ ?_⟩
    obtain ⟨_, hlabels, -⟩ := (readRule_object.1 h).2.2.labels
    simp at hlabels
  | [_, _] | [_, _, _] => exact (and_iff_right (by simp)).symm
  | _ :: _ :: _ :: _ :: _ => simp [readRule]

/-- What is an include is no rule. -/
theorem not_holdsRule_of_include {j : Json} {fields fields' : List (String × Json)} {mode : String}
    {r : RuleSpec} (h : NamedOrInOrder ["include"] j fields)
    (hmode : HasField IsText "include" fields mode)
    (h' : NamedOrInOrder ["regex", "token", "next"] j fields') : ¬ HoldsRule fields' r := by
  intro hr
  obtain ⟨_, hinclude, -⟩ := hmode
  obtain ⟨_, hlabels, -⟩ := hr.labels
  rcases h with ⟨rfl, -, -⟩ | ⟨items, rfl, hlength, rfl⟩
  · -- an object with a field that a rule does not have
    rcases h' with ⟨⟨⟩, -, hmem⟩ | ⟨_, ⟨⟩, -⟩
    simpa using hmem _ hinclude
  · -- an array that is too short
    rcases h' with ⟨⟨⟩, -⟩ | ⟨_, ⟨⟩, -, rfl⟩
    match items with
    | [] | [_] => simp at hlabels
    | _ :: _ :: _ => simp at hlength

/-- What can be read as an include is one; everything else must be a rule. -/
theorem reads_entry : Reads readEntry (IsEntry NamedOrInOrder) := fun j e ↦ by
  rw [readEntry]
  constructor
  · intro h
    split at h
    · next mode hmode =>
      obtain rfl := Except.ok.inj h
      obtain ⟨fields, hfields, hmode⟩ := (reads_include j mode).1 hmode
      exact .includeMode hfields hmode
    · split at h
      · next r hr =>
        obtain rfl := Except.ok.inj h
        obtain ⟨fields, hfields, hr⟩ := (reads_rule j r).1 hr
        exact .rule hfields hr
      · simp at h
  · rintro (⟨hfields, hmode⟩ | ⟨hfields, hr⟩)
    · rw [(reads_include j _).2 ⟨_, hfields, hmode⟩]
    · have hinclude (mode : String) : j.readInclude ≠ .ok mode := fun h ↦ by
        obtain ⟨fields, hfields', hmode⟩ := (reads_include j mode).1 h
        exact not_holdsRule_of_include hfields' hmode hfields hr
      rw [(reads_rule j _).2 ⟨_, hfields, hr⟩]
      cases h : j.readInclude with
      | ok mode => exact absurd h (hinclude mode)
      | error e => rfl

/-- The reader of patterns takes maps of texts. -/
theorem reads_patterns : Reads (readMapWith readText) (IsMap IsText) := reads_text.map

/-- The reader of modes takes maps of lists of entries. -/
theorem reads_modes : Reads (readMapWith (readItemsWith readEntry))
    (IsMap (IsList (IsEntry NamedOrInOrder))) :=
  reads_entry.list.map

/-- Of objects, the reader of definitions takes those that hold the fields of a definition and no
others. -/
theorem readDefinition_object {fields : List (String × Json)} {d : Definition} :
    (object fields).readDefinition = .ok d ↔ (fields.map (·.1)).Nodup ∧
      (∀ field ∈ fields, field.1 ∈
        ["name", "base_mode", "default_token", "ignore_case", "patterns", "modes"]) ∧
      HoldsDefinition NamedOrInOrder fields d := by
  simp only [readDefinition, bind_eq_ok, pure_eq_ok]
  constructor
  · rintro ⟨_, hcheck, _, hjname, name, hname, _, hjbase, base, hbase, token, htoken, ignore,
      hignore, patterns, hpatterns, _, hjmodes, modes, hmodes, rfl⟩
    obtain ⟨hnodup, hmem⟩ := Fields.check_eq_ok.1 hcheck
    exact ⟨hnodup, hmem, (reads_text.require hnodup).1 ⟨_, hjname, hname⟩,
      (reads_text.require hnodup).1 ⟨_, hjbase, hbase⟩, (reads_text.readOr hnodup).1 htoken,
      (reads_flag.readOr hnodup).1 hignore, (reads_patterns.readOr hnodup).1 hpatterns,
      (reads_modes.require hnodup).1 ⟨_, hjmodes, hmodes⟩⟩
  · rintro ⟨hnodup, hmem, hname, hbase, htoken, hignore, hpatterns, hmodes⟩
    obtain ⟨_, hjname, hname⟩ := (reads_text.require hnodup).2 hname
    obtain ⟨_, hjbase, hbase⟩ := (reads_text.require hnodup).2 hbase
    obtain ⟨_, hjmodes, hmodes⟩ := (reads_modes.require hnodup).2 hmodes
    exact ⟨(), Fields.check_eq_ok.2 ⟨hnodup, hmem⟩, _, hjname, _, hname, _, hjbase, _, hbase, _,
      (reads_text.readOr hnodup).2 htoken, _, (reads_flag.readOr hnodup).2 hignore, _,
      (reads_patterns.readOr hnodup).2 hpatterns, _, hjmodes, _, hmodes, rfl⟩

/-- The reader of definitions takes them in either notation. -/
theorem reads_definition : Reads readDefinition (IsDefinition NamedOrInOrder) := by
  refine reads_record (by decide) (fun _ _ ↦ readDefinition_object) (fun items d ↦ ?_)
    fun j d h ↦ by cases j <;> simp_all [readDefinition]
  match items with
  | [] | [_] | [_, _] | [_, _, _] | [_, _, _, _] | [_, _, _, _, _] =>
    refine ⟨fun h ↦ by simp [readDefinition] at h, fun ⟨_, h⟩ ↦ ?_⟩
    obtain ⟨_, hmodes, -⟩ := (readDefinition_object.1 h).2.2.modes
    simp at hmodes
  | [_, _, _, _, _, _] => exact (and_iff_right (by simp)).symm
  | _ :: _ :: _ :: _ :: _ :: _ :: _ :: _ => simp [readDefinition]

end Json

/-! ### Definitions in JSON -/

namespace Definition

/-- **A text is read as a definition exactly if it spells one**, and then as the one that it
spells. -/
theorem ofJsonText_eq_ok (text : String) (d : Definition) : ofJsonText text = .ok d ↔
    ∃ j, Json.SpellsElement text.toList j ∧ Json.IsDefinition Json.NamedOrInOrder j d := by
  rw [ofJsonText, bind_eq_ok]
  refine exists_congr fun j ↦ ?_
  rw [mapError_eq_ok, mapError_eq_ok, Json.parse_eq_ok]
  exact and_congr_right fun _ ↦ Json.reads_definition j d

/-- A definition written down without the names of the fields. -/
def unnamedText : String :=
  "[\"j\",\"root\",\"inv\",true,\x7b\"p\":\"q\"\x7d,\x7b\"root\":[[\"@p\",\"y\"]]\x7d]"

/-- The names of the fields can be left out. -/
theorem ofJsonText_accepts_unnamed : ¬ ((∃ d, ofJsonText unnamedText = .ok d) ↔
    ∃ j d, Json.SpellsElement unnamedText.toList j ∧ Json.IsDefinition Json.Named j d) := by
  intro h
  have hread : (ofJsonText unnamedText).toOption.isSome := by decide +kernel
  have hparse : (Json.parse unnamedText).toOption.any fun j ↦
      (j.readItemsWith .ok).toOption.isSome := by
    decide +kernel
  obtain ⟨j, d, hspells, fields, ⟨rfl, -⟩, -⟩ := h.1 (exists_ok_of_isSome hread)
  -- a text spells one value only, and here it is an array
  rw [Json.parse_eq_ok.2 hspells] at hparse
  simp [Except.toOption, Json.readItemsWith] at hparse

end Definition

end ModeLexer
