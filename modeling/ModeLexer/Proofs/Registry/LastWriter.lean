import Mathlib.Data.List.Induction
import ModeLexer.Document.Tokenizer
import ModeLexer.LanguageRegistry
import ModeLexer.Proofs.Asm.Outline
import ModeLexer.Proofs.Table.Compiled

/-!
# What a registry answers

A registry is used by calls, of which some add a language and the others only ask. What it answers
depends on the calls before in one way: under a name there is the table that was added last under
that name, and nothing if none was (`LanguageRegistry.get?_after_of_latest`,
`LanguageRegistry.get?_after_of_forall`). A definition that cannot be built adds nothing, so the
call that tried to register it might as well not have been made.

The registry with the languages that are always there is no exception. All of them are built, so it
is the empty registry after the calls that register them (`LanguageRegistry.Start.registry_eq`).
-/

namespace ModeLexer.LanguageRegistry

/-! ### Calls -/

/-- A call on a registry. -/
inductive Call where
  | register (d : Definition)
  | registerTable (t : RuleTable)
  | has (name : String)
  | get (name : String)
  | tokenize (name : String) (d : Document)
  | list

/-- What a call comes to. -/
inductive Answer where
  | added (notices : List Notice)
  | refused (e : ConfigError)
  | presence (value : Bool)
  | table (t : Option RuleTable)
  | tokens (d : Option TokenizedDocument)
  | names (ns : List String)

/-- What tokenizes documents in the language with a name. -/
def tokenizer? (r : LanguageRegistry) (name : String) : Option (Document → TokenizedDocument) :=
  (r.get? name).map RuleTable.tokenize

/-- The answer to a call and the registry after it. -/
def perform (r : LanguageRegistry) : Call → Answer × LanguageRegistry
  | .register d =>
    match r.register d with
    | .ok (r', notices) => (.added notices, r')
    | .error e => (.refused e, r)
  | .registerTable t => (.added [r.registerNotice t], r.registerTable t)
  | .has name => (.presence (r.contains name), r)
  | .get name => (.table (r.get? name), r)
  | .tokenize name d => (.tokens ((r.tokenizer? name).map fun tokenize ↦ tokenize d), r)
  | .list => (.names r.names, r)

/-- The registry after calls. -/
def after (r : LanguageRegistry) (calls : List Call) : LanguageRegistry :=
  calls.foldl (fun r c ↦ (r.perform c).2) r

/-- The answers to calls. -/
def answers (r : LanguageRegistry) : List Call → List Answer
  | [] => []
  | c :: calls => (r.perform c).1 :: (r.perform c).2.answers calls

/-- Whether a call adds a table under a name. -/
inductive Call.Adds : Call → String → RuleTable → Prop
  | register {d : Definition} {t : RuleTable} (h : RuleTable.build d = .ok t) :
    Adds (.register d) d.name t
  | registerTable (t : RuleTable) : Adds (.registerTable t) t.language t

/-- Whether a table is the one that calls have added last under a name. -/
def Latest (calls : List Call) (name : String) (t : RuleTable) : Prop :=
  ∃ before c rest, calls = before ++ c :: rest ∧ c.Adds name t ∧
    ∀ c' ∈ rest, ∀ t', ¬c'.Adds name t'

variable {r : LanguageRegistry} {c : Call} {calls : List Call} {name : String} {t : RuleTable}

/-! ### One call -/

/-- A table is found under its own name, and what is under other names stays. -/
theorem get?_registerTable (r : LanguageRegistry) (t : RuleTable) (name : String) :
    (r.registerTable t).get? name = if name = t.language then some t else r.get? name :=
  KeyMap.get?_insert ..

/-- A definition that is built is registered as its table. -/
theorem register_of_build_eq_ok {d : Definition} (h : RuleTable.build d = .ok t) :
    r.register d = .ok (r.registerTable t, [t.builtNotice, r.registerNotice t]) := by
  rw [register, h]
  rfl

/-- A definition that is not built is not registered. -/
theorem register_of_build_eq_error {d : Definition} {e : ConfigError}
    (h : RuleTable.build d = .error e) : r.register d = .error e := by
  rw [register, h]
  rfl

theorem perform_register_of_ok {d : Definition} (h : RuleTable.build d = .ok t) :
    (r.perform (.register d)).2 = r.registerTable t := by
  rw [perform, register_of_build_eq_ok h]

/-- A registration that fails leaves the registry as it was. -/
theorem perform_register_of_error {d : Definition} {e : ConfigError}
    (h : RuleTable.build d = .error e) : r.perform (.register d) = (.refused e, r) := by
  rw [perform, register_of_build_eq_error h]

/-- The table of a definition is kept under the name of the definition. -/
theorem language_of_build {d : Definition} (h : RuleTable.build d = .ok t) :
    t.language = d.name := by
  obtain ⟨library, hbuilt⟩ := RuleTable.build_eq_ok.1 h
  exact hbuilt.language_eq

/-- A table that a call adds under a name is found under it. -/
theorem get?_perform_of_adds (h : c.Adds name t) : (r.perform c).2.get? name = some t := by
  cases h with
  | register h =>
    rw [perform_register_of_ok h, get?_registerTable, if_pos (language_of_build h).symm]
  | registerTable => exact (get?_registerTable r t _).trans (if_pos rfl)

/-- A call that adds nothing under a name leaves what is there. -/
theorem get?_perform_of_forall (h : ∀ t, ¬c.Adds name t) :
    (r.perform c).2.get? name = r.get? name := by
  cases c with
  | register d =>
    cases hbuild : RuleTable.build d with
    | error e => rw [perform_register_of_error hbuild]
    | ok t =>
      have hne : name ≠ t.language := by
        rintro rfl
        exact h t (language_of_build hbuild ▸ .register hbuild)
      rw [perform_register_of_ok hbuild, get?_registerTable, if_neg hne]
  | registerTable t =>
    have hne : name ≠ t.language := by
      rintro rfl
      exact h t (.registerTable t)
    exact (get?_registerTable r t name).trans (if_neg hne)
  | has | get | tokenize | list => rfl

/-! ### All calls -/

/-- Calls are made in two parts, one after the other. -/
theorem after_append (r : LanguageRegistry) (calls calls' : List Call) :
    r.after (calls ++ calls') = (r.after calls).after calls' :=
  List.foldl_append

theorem after_cons (r : LanguageRegistry) (c : Call) (calls : List Call) :
    r.after (c :: calls) = (r.perform c).2.after calls := rfl

/-- Calls that add nothing under a name leave what is there. -/
theorem get?_after_of_forall (h : ∀ c ∈ calls, ∀ t, ¬c.Adds name t) :
    (r.after calls).get? name = r.get? name := by
  induction calls generalizing r with
  | nil => rfl
  | cons c calls ih =>
    obtain ⟨hc, hcalls⟩ := List.forall_mem_cons.1 h
    rw [after_cons, ih hcalls, get?_perform_of_forall hc]

/-- What calls have added last under a name is found under it. -/
theorem get?_after_of_latest (h : Latest calls name t) : (r.after calls).get? name = some t := by
  obtain ⟨before, c, rest, rfl, hc, hrest⟩ := h
  rw [after_append, after_cons, get?_after_of_forall hrest, get?_perform_of_adds hc]

/-- If something was added under a name, then something was added last. -/
theorem exists_latest (h : ∃ c ∈ calls, ∃ t, c.Adds name t) : ∃ t, Latest calls name t := by
  induction calls using List.reverseRecOn with
  | nil => simp at h
  | append_singleton calls c ih =>
    by_cases hc : ∃ t, c.Adds name t
    · obtain ⟨t, hc⟩ := hc
      exact ⟨t, calls, c, [], rfl, hc, List.forall_mem_nil _⟩
    · obtain ⟨c', hmem, hc'⟩ := h
      have hmem' : c' ∈ calls := by
        rcases List.mem_append.1 hmem with hmem | hmem
        · exact hmem
        · exact absurd (List.mem_singleton.1 hmem ▸ hc') hc
      obtain ⟨t, before, c₀, rest, rfl, hc₀, hrest⟩ := ih ⟨c', hmem', hc'⟩
      refine ⟨t, before, c₀, rest ++ [c], by simp, hc₀, ?_⟩
      exact List.forall_mem_append.2 ⟨hrest, List.forall_mem_singleton.2 (not_exists.1 hc)⟩

/-! ### The registry at the start -/

/-- Registering definitions one after the other is a sequence of calls, if all of them are built. -/
theorem exists_registerAll {ds : List Definition}
    (h : ∀ d ∈ ds, ∃ t, RuleTable.build d = .ok t) :
    ∃ notices, r.registerAll ds = .ok (r.after (ds.map .register), notices) := by
  induction ds generalizing r with
  | nil => exact ⟨[], rfl⟩
  | cons d ds ih =>
    obtain ⟨⟨t, hbuild⟩, hds⟩ := List.forall_mem_cons.1 h
    obtain ⟨notices, hall⟩ := ih (r := r.registerTable t) hds
    rw [registerAll, register_of_build_eq_ok hbuild, List.map_cons, after_cons,
      perform_register_of_ok hbuild]
    exact ⟨_, bind_eq_ok.2 ⟨_, rfl, bind_eq_ok.2 ⟨_, hall, rfl⟩⟩⟩

/-- What a registry begins as. -/
inductive Start where
  | empty
  | defaults

/-- The registry at the start. -/
def Start.registry : Start → Except ConfigError LanguageRegistry
  | empty => .ok .empty
  | defaults => LanguageRegistry.default.map (·.1)

/-- The registrations that are behind a registry at the start. -/
def Start.past : Start → List Call
  | empty => []
  | defaults => builtins.map .register

/-- A registry at the start is the empty one after the calls that are behind it. -/
theorem Start.registry_eq (s : Start) : s.registry = .ok (LanguageRegistry.empty.after s.past) := by
  cases s with
  | empty => rfl
  | defaults =>
    have hbuild : ∀ d ∈ builtins, ∃ t, RuleTable.build d = .ok t :=
      List.forall_mem_singleton.2 ⟨Asm.table, Asm.build_definition⟩
    obtain ⟨notices, hall⟩ := exists_registerAll (r := LanguageRegistry.empty) hbuild
    rw [registry, past, LanguageRegistry.default, hall, Except.map]

/-! ### What is answered -/

/-- What calls have left in a registry that began empty. -/
structure Reflects (r : LanguageRegistry) (calls : List Call) : Prop where
  /-- A language is there exactly if some call has added it. -/
  isSome_tokenizer?_iff : ∀ name, (r.tokenizer? name).isSome ↔ ∃ c ∈ calls, ∃ t, c.Adds name t
  /-- Documents are tokenized by the table that was added last. -/
  tokenizer?_eq : ∀ name t, Latest calls name t →
    r.get? name = some t ∧ r.tokenizer? name = some t.tokenize
  /-- A registration that fails changes no answer, whatever is asked and done later. -/
  answers_of_error : ∀ d e, RuleTable.build d = .error e →
    ∀ later, r.answers (.register d :: later) = .refused e :: r.answers later
  names_sorted : r.names.Pairwise (· < ·)
  mem_names_iff : ∀ name, name ∈ r.names ↔ r.contains name

/-- The names that are listed are those of the languages that are there. -/
theorem mem_names_iff_contains (r : LanguageRegistry) (name : String) :
    name ∈ r.names ↔ r.contains name := by
  rw [names, contains, KeyMap.contains, KeyMap.mem_keys_iff, Option.isSome_iff_exists]

/-- After a registration that fails the answers are those without it. -/
theorem answers_register_of_error {d : Definition} {e : ConfigError}
    (h : RuleTable.build d = .error e) (later : List Call) :
    r.answers (.register d :: later) = .refused e :: r.answers later := by
  rw [answers, perform_register_of_error h]

/-- A registry that began empty has a table under a name exactly if some call has added one. -/
theorem isSome_get?_after_empty_iff :
    ((LanguageRegistry.empty.after calls).get? name).isSome ↔
      ∃ c ∈ calls, ∃ t, c.Adds name t := by
  constructor
  · intro h
    by_contra hnone
    have hnone' : ∀ c ∈ calls, ∀ t, ¬c.Adds name t := fun c hc t hadds ↦ hnone ⟨c, hc, t, hadds⟩
    rw [get?_after_of_forall hnone'] at h
    cases h
  · intro h
    obtain ⟨t, ht⟩ := exists_latest h
    rw [get?_after_of_latest ht, Option.isSome_some]

/-- What a registry that began empty answers is told by its calls. -/
theorem reflects_after_empty (calls : List Call) :
    (LanguageRegistry.empty.after calls).Reflects calls where
  isSome_tokenizer?_iff name := by
    rw [tokenizer?, Option.isSome_map, isSome_get?_after_empty_iff]
  tokenizer?_eq name t h := by
    have hget : (LanguageRegistry.empty.after calls).get? name = some t := get?_after_of_latest h
    exact ⟨hget, by rw [tokenizer?, hget, Option.map_some]⟩
  answers_of_error _ _ := answers_register_of_error
  names_sorted := List.pairwise_map.2 (LanguageRegistry.empty.after calls).tables.sorted
  mem_names_iff := mem_names_iff_contains _

/-- **The last one wins.** After any calls on the empty registry, or on the one with the languages
that are always there, a language is there exactly if some call so far has added it, and documents
are tokenized by the table that was added last. A registration that fails changes no later answer.
The names are listed in strictly increasing order, and they are the names of the languages that are
there. -/
theorem last_writer_wins (s : Start) (calls : List Call) :
    ∃ r, s.registry = .ok r ∧ (r.after calls).Reflects (s.past ++ calls) := by
  refine ⟨_, s.registry_eq, ?_⟩
  rw [← after_append]
  exact reflects_after_empty (s.past ++ calls)

end ModeLexer.LanguageRegistry
