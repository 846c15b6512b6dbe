import ModeLexer.Proofs.Table.FirstMistake
import ModeLexer.Table.Build

/-!
# What a table consists of

A built table is taken apart here once. It has the modes of its definition under the same numbers
(`CompiledFrom.names_eq`), the rules of a mode are its spliced rules, one by one
(`CompiledFrom.exists_specs`), and of each rule it is known what pattern and what action it has
(`compileRule_eq_ok`). So every mode that a rule names is one of the table
(`CompiledFrom.targetsDefined`), and the base mode stays where it is (`BuiltFrom.stays_of_base`).
-/

namespace ModeLexer

namespace RuleTable

variable {t : RuleTable}

/-! ### Transitions -/

/-- A target is resolved to the place of its name among the names of modes. -/
theorem resolveTarget_eq_ok {names : List String} {mode target : String} {index : Nat}
    {id : ModeId} :
    resolveTarget names mode index target = .ok id ↔ names.idxOf? target = some id := by
  unfold resolveTarget
  split
  · next h => simp [h]
  · next h => simp [h]

section

variable {names : List String} {mode : String} {id m : ModeId} {index : Nat} {next : Transition}

/-- A rule pushes the mode that it names, or its own. -/
theorem resolveTransition_eq_push :
    resolveTransition names mode id index next = .ok (.push m) ↔
      (∃ target, next = .push target ∧ names.idxOf? target = some m) ∨
        next = .pushSelf ∧ id = m := by
  cases next <;> simp [resolveTransition, map_eq_ok, resolveTarget_eq_ok]

/-- An exchange has the mode of the name that it is written with. -/
theorem resolveTransition_eq_switchTo :
    resolveTransition names mode id index next = .ok (.switchTo m) ↔
      ∃ target, next = .switchTo target ∧ names.idxOf? target = some m := by
  cases next <;> simp [resolveTransition, map_eq_ok, resolveTarget_eq_ok]

/-- Only what is written as a pop is one. -/
theorem resolveTransition_eq_pop :
    resolveTransition names mode id index next = .ok .pop ↔ next = .pop := by
  cases next <;> simp [resolveTransition, map_eq_ok]

/-- Only what is written as a rematch is one. -/
theorem resolveTransition_eq_rematch :
    resolveTransition names mode id index next = .ok .rematch ↔ next = .rematch := by
  cases next <;> simp [resolveTransition, map_eq_ok]

end

/-- Whether every mode that a rule pushes or switches to is one of the table. -/
def TargetsDefined (t : RuleTable) : Prop :=
  ∀ id m, .push m ∈ t.actionsOf id ∨ .switchTo m ∈ t.actionsOf id → m < t.modes.length

/-- A mode with an action is one of the table. -/
theorem lt_of_mem_actionsOf {id : ModeId} {a : Action} (h : a ∈ t.actionsOf id) :
    id < t.modes.length := by
  by_contra hge
  rw [actionsOf, rulesOf, List.getElem?_eq_none (Nat.le_of_not_lt hge)] at h
  simp at h

/-! ### What the checks of the whole table say -/

/-- A table passes its checks if neither finds anything. -/
theorem check_eq_ok : t.check = .ok () ↔ t.unwindingRule? = none ∧ t.rematchChain? = none := by
  unfold check
  cases t.unwindingRule? with
  | some found => simp
  | none => cases t.rematchChain? <;> simp

/-- The base mode has no rule that would leave it. -/
theorem unwindingRule?_eq_none :
    t.unwindingRule? = none ↔ ∀ a ∈ t.actionsOf t.base, a = .stay ∨ ∃ m, a = .push m := by
  have hunwinding : ∀ a, t.unwinding? a = none ↔ a = .stay ∨ ∃ m, a = .push m := by
    intro a
    cases a <;> simp [unwinding?]
  simp only [unwindingRule?, List.findSome?_eq_none_iff, Option.map_eq_none_iff, hunwinding]
  constructor
  · intro h a ha
    obtain ⟨i, hi⟩ := List.mem_iff_getElem?.1 ha
    exact h (a, i) (List.mem_zipIdx_iff_getElem?.2 hi)
  · rintro h ⟨a, i⟩ ha
    exact h a (List.mem_of_getElem? (List.mem_zipIdx_iff_getElem?.1 ha))

/-- No mode with a rematch can be on top of one that begins with a rematch. -/
theorem rematchChain?_eq_none :
    t.rematchChain? = none ↔ ∀ id < t.modes.length, .rematch ∈ t.actionsOf id →
      ∀ under ∈ t.underModes id, t.startsWithRematch under = false := by
  simp only [rematchChain?, List.findSome?_eq_none_iff, List.mem_filter, List.mem_range,
    Option.map_eq_none_iff, List.find?_eq_none, Bool.not_eq_true, List.contains_eq_mem,
    decide_eq_true_eq, and_imp]

variable [Regex.SizeLimit] {d : Definition} {library : PatternLibrary}

/-! ### Rules and modes in sequence -/

/-- The rules of a mode are compiled one by one, each with its index. -/
theorem compileRules_eq_mapM (d : Definition) (library : PatternLibrary) (mode : String)
    (id : ModeId) (index : Nat) (specs : List RuleSpec) :
    compileRules d library mode id index specs =
      (specs.zipIdx index).mapM fun s ↦ compileRule d library mode id s.2 s.1 := by
  induction specs generalizing index with
  | nil => rfl
  | cons spec specs ih => rw [compileRules, List.zipIdx_cons, List.mapM_cons, ih]

/-- Modes are compiled one by one, each with its number. -/
theorem compileModes_eq_mapM (d : Definition) (library : PatternLibrary) (id : ModeId)
    (names : List String) :
    compileModes d library id names =
      (names.zipIdx id).mapM fun n ↦ compileMode d library n.2 n.1 := by
  induction names generalizing id with
  | nil => rfl
  | cons name names ih => rw [compileModes, List.zipIdx_cons, List.mapM_cons, ih]

/-- The parts of a compiled rule. -/
theorem compileRule_eq_ok {mode : String} {id : ModeId} {index : Nat} {spec : RuleSpec}
    {r : Rule} :
    compileRule d library mode id index spec = .ok r ↔
      ∃ source, library.expand spec.regex (.rule mode index) = .ok source ∧
        PatternLibrary.compileAt (.rule mode index) source d.ignoreCase = .ok r.pattern ∧
        resolveTransition d.modes.keys mode id index spec.next = .ok r.action ∧
        resolveLabels d.defaultToken spec.labels = r.emission := by
  unfold compileRule
  simp only [bind_eq_ok, pure_eq_ok]
  constructor
  · rintro ⟨source, hsource, pattern, hpattern, action, haction, rfl⟩
    exact ⟨source, hsource, hpattern, haction, rfl⟩
  · rintro ⟨source, hsource, hpattern, haction, hemission⟩
    exact ⟨source, hsource, _, hpattern, _, haction, by rw [hemission]⟩

/-- The parts of a compiled mode. -/
theorem compileMode_eq_ok {id : ModeId} {name : String} {m : Mode} :
    compileMode d library id name = .ok m ↔
      m.name = name ∧ ∃ specs, d.splice name = .ok specs ∧ specs ≠ [] ∧
        compileRules d library name id 0 specs = .ok m.rules := by
  unfold compileMode
  constructor
  · intro h
    obtain ⟨specs, hspecs, h⟩ := bind_eq_ok.1 h
    split at h
    · simp at h
    · next hne =>
      obtain ⟨rules, hrules, h⟩ := bind_eq_ok.1 h
      obtain rfl := pure_eq_ok.1 h
      exact ⟨rfl, specs, hspecs, by simpa using hne, hrules⟩
  · rintro ⟨rfl, specs, hspecs, hne, hrules⟩
    refine bind_eq_ok.2 ⟨specs, hspecs, ?_⟩
    rw [if_neg (by simpa using hne)]
    exact bind_eq_ok.2 ⟨m.rules, hrules, rfl⟩

/-! ### Whole tables -/

/-- What it takes for a table to be compiled from a definition with a library. -/
structure CompiledFrom (d : Definition) (library : PatternLibrary) (t : RuleTable) : Prop where
  library_eq : PatternLibrary.ofSources d.patterns = .ok library
  base_eq : d.modes.keys.idxOf? d.baseMode = some t.base
  modes_eq : compileModes d library 0 d.modes.keys = .ok t.modes
  language_eq : t.language = d.name
  defaultToken_eq : t.defaultToken = d.defaultToken

/-- A compiled table that passes the checks of the whole table. -/
structure BuiltFrom (d : Definition) (library : PatternLibrary) (t : RuleTable) : Prop
    extends CompiledFrom d library t where
  check_eq : t.check = .ok ()

/-- A definition is built if its patterns make a library, its modes can be compiled with that
library and the table passes its checks. -/
theorem build_eq_ok : build d = .ok t ↔ ∃ library, BuiltFrom d library t := by
  unfold build
  constructor
  · intro h
    split at h
    · simp at h
    · next base hbase =>
      obtain ⟨library, hlibrary, h⟩ := bind_eq_ok.1 h
      obtain ⟨modes, hmodes, h⟩ := bind_eq_ok.1 h
      obtain ⟨_, hcheck, h⟩ := bind_eq_ok.1 h
      obtain rfl := pure_eq_ok.1 h
      exact ⟨library, ⟨hlibrary, hbase, hmodes, rfl, rfl⟩, hcheck⟩
  · rintro ⟨library, ⟨hlibrary, hbase, hmodes, hlanguage, hdefault⟩, hcheck⟩
    rw [hbase]
    have heq : t = { language := d.name, modes := t.modes, base := t.base,
                     defaultToken := d.defaultToken } := by
      rw [← hlanguage, ← hdefault]
    refine bind_eq_ok.2 ⟨library, hlibrary, bind_eq_ok.2 ⟨t.modes, hmodes, ?_⟩⟩
    rw [← heq]
    exact bind_eq_ok.2 ⟨(), hcheck, rfl⟩

/-- Where a definition is not built: the base mode, the library, a mode or the whole table is at
fault. -/
theorem build_eq_error {e : ConfigError} (h : build d = .error e) :
    (d.modes.keys.idxOf? d.baseMode = none ∧ e = .undefinedBaseMode d.baseMode) ∨
      PatternLibrary.ofSources d.patterns = .error e ∨
      (∃ library, PatternLibrary.ofSources d.patterns = .ok library ∧
        compileModes d library 0 d.modes.keys = .error e) ∨
      ∃ library t, CompiledFrom d library t ∧ t.check = .error e := by
  unfold build at h
  split at h
  · next hbase => exact .inl ⟨hbase, (Except.error.inj h).symm⟩
  · next base hbase =>
    rcases bind_eq_error.1 h with hlibrary | ⟨library, hlibrary, h⟩
    · exact .inr (.inl hlibrary)
    · rcases bind_eq_error.1 h with hmodes | ⟨modes, hmodes, h⟩
      · exact .inr (.inr (.inl ⟨library, hlibrary, hmodes⟩))
      · rcases bind_eq_error.1 h with hcheck | ⟨_, -, h⟩
        · exact .inr (.inr (.inr ⟨library, _, ⟨hlibrary, hbase, hmodes, rfl, rfl⟩, hcheck⟩))
        · simp [pure, Except.pure] at h

/-- Modes are numbered as their names are listed. -/
theorem CompiledFrom.names_eq (h : CompiledFrom d library t) :
    t.modes.map (·.name) = d.modes.keys := by
  have hmodes := mapM_eq_ok.1 (compileModes_eq_mapM d library 0 d.modes.keys ▸ h.modes_eq)
  have hnames : ∀ {ns : List (String × Nat)} {ms : List Mode},
      List.Forall₂ (fun n m ↦ compileMode d library n.2 n.1 = .ok m) ns ms →
      ms.map (·.name) = ns.map (·.1) := by
    intro ns ms hms
    induction hms with
    | nil => rfl
    | cons hm _ ih => rw [List.map_cons, List.map_cons, ih, (compileMode_eq_ok.1 hm).1]
  rw [hnames hmodes, List.zipIdx_map_fst]

/-- There is one mode in the table for each mode of the definition. -/
theorem CompiledFrom.length_eq (h : CompiledFrom d library t) :
    t.modes.length = d.modes.keys.length := by
  rw [← h.names_eq, List.length_map]

/-- A mode keeps its name. -/
theorem CompiledFrom.nameOf_eq (h : CompiledFrom d library t) {id : ModeId} {name : String}
    (hname : d.modes.keys[id]? = some name) : t.nameOf id = name := by
  rw [← h.names_eq, List.getElem?_map, Option.map_eq_some_iff] at hname
  obtain ⟨mode, hmode, hname⟩ := hname
  rw [nameOf, hmode]
  exact hname

/-- The base mode of the table is that of the definition. -/
theorem CompiledFrom.getElem?_base (h : CompiledFrom d library t) :
    d.modes.keys[t.base]? = some d.baseMode :=
  KeyMap.idxOf?_keys_eq_some_iff.1 h.base_eq

/-- The base mode is one of the table. -/
theorem CompiledFrom.base_lt (h : CompiledFrom d library t) : t.base < t.modes.length := by
  rw [h.length_eq]
  exact (List.getElem?_eq_some_iff.1 h.getElem?_base).1

/-- The rules of a mode are its spliced rules, compiled one by one. -/
theorem CompiledFrom.exists_specs (h : CompiledFrom d library t) {id : ModeId} {name : String}
    (hname : d.modes.keys[id]? = some name) :
    ∃ specs, d.splice name = .ok specs ∧ specs ≠ [] ∧
      compileRules d library name id 0 specs = .ok (t.rulesOf id) := by
  have hmodes := mapM_eq_ok.1 (compileModes_eq_mapM d library 0 d.modes.keys ▸ h.modes_eq)
  obtain ⟨hid, -⟩ := List.getElem?_eq_some_iff.1 hname
  rw [← h.length_eq] at hid
  have hmode : t.modes[id]? = some t.modes[id] := List.getElem?_eq_getElem hid
  obtain ⟨⟨name', id'⟩, hat, hcompiled⟩ := exists_getElem?_of_forall₂ hmodes hmode
  simp only [List.getElem?_zipIdx, hname, Option.map_some, Nat.zero_add, Option.some.injEq,
    Prod.mk.injEq] at hat
  obtain ⟨rfl, rfl⟩ := hat
  obtain ⟨-, specs, hspecs, hne, hrules⟩ := compileMode_eq_ok.1 hcompiled
  refine ⟨specs, hspecs, hne, ?_⟩
  rw [rulesOf, hmode]
  exact hrules

/-- Every rule of a mode comes from the spliced rule at its index. -/
theorem exists_spec_of_compileRules {mode : String} {id : ModeId} {specs : List RuleSpec}
    {rules : List Rule} (h : compileRules d library mode id 0 specs = .ok rules) {i : Nat}
    {r : Rule} (hr : rules[i]? = some r) :
    ∃ spec, specs[i]? = some spec ∧ compileRule d library mode id i spec = .ok r := by
  rw [compileRules_eq_mapM, mapM_eq_ok] at h
  obtain ⟨⟨spec, i'⟩, hat, hrule⟩ := exists_getElem?_of_forall₂ h hr
  rw [List.getElem?_zipIdx, Option.map_eq_some_iff] at hat
  obtain ⟨spec', hspec, heq⟩ := hat
  simp only [Nat.zero_add, Prod.mk.injEq] at heq
  obtain ⟨rfl, rfl⟩ := heq
  exact ⟨spec', hspec, hrule⟩

/-- A rule there is for every spliced rule. -/
theorem length_of_compileRules {mode : String} {id : ModeId} {index : Nat}
    {specs : List RuleSpec} {rules : List Rule}
    (h : compileRules d library mode id index specs = .ok rules) :
    rules.length = specs.length := by
  rw [compileRules_eq_mapM, mapM_eq_ok] at h
  rw [← h.length_eq, List.length_zipIdx]

/-! ### Definitions with the same table -/

section

variable {d' : Definition} {library' : PatternLibrary}

/-- Rules that are compiled to the same after a change are compiled to the same in sequence. -/
theorem compileRules_map {f : RuleSpec → RuleSpec} {mode : String} {id : ModeId}
    (hrule : ∀ i spec r, compileRule d library mode id i spec = .ok r →
      compileRule d' library' mode id i (f spec) = .ok r)
    {index : Nat} {specs : List RuleSpec} {rules : List Rule}
    (h : compileRules d library mode id index specs = .ok rules) :
    compileRules d' library' mode id index (specs.map f) = .ok rules := by
  induction specs generalizing index rules with
  | nil => exact h
  | cons spec specs ih =>
    obtain ⟨rule, hspec, h⟩ := bind_eq_ok.1 h
    obtain ⟨rules, hspecs, h⟩ := bind_eq_ok.1 h
    exact bind_eq_ok.2 ⟨rule, hrule _ _ _ hspec, bind_eq_ok.2 ⟨rules, ih hspecs, h⟩⟩

/-- A definition whose modes come to the rules of another, each changed to one that is compiled to
the same, has the other's table. -/
theorem BuiltFrom.of_rules (h : BuiltFrom d library t) (f : RuleSpec → RuleSpec)
    (hname : d'.name = d.name) (hbase : d'.baseMode = d.baseMode)
    (hdefault : d'.defaultToken = d.defaultToken) (hkeys : d'.modes.keys = d.modes.keys)
    (hlibrary : PatternLibrary.ofSources d'.patterns = .ok library')
    (hsplice : ∀ mode specs, d.splice mode = .ok specs → d'.splice mode = .ok (specs.map f))
    (hrule : ∀ mode id i spec r, compileRule d library mode id i spec = .ok r →
      compileRule d' library' mode id i (f spec) = .ok r) :
    BuiltFrom d' library' t where
  library_eq := hlibrary
  base_eq := by rw [hkeys, hbase, h.base_eq]
  modes_eq := by
    have hmodes := h.modes_eq
    rw [compileModes_eq_mapM, mapM_eq_ok] at hmodes
    rw [hkeys, compileModes_eq_mapM, mapM_eq_ok]
    refine hmodes.imp fun n m hm ↦ ?_
    obtain ⟨hm, specs, hspecs, hne, hrules⟩ := compileMode_eq_ok.1 hm
    exact compileMode_eq_ok.2 ⟨hm, _, hsplice _ _ hspecs, by simpa using hne,
      compileRules_map (hrule _ _) hrules⟩
  language_eq := by rw [hname, h.language_eq]
  defaultToken_eq := by rw [hdefault, h.defaultToken_eq]
  check_eq := h.check_eq

end

/-! ### Actions -/

/-- An action of a mode is that of the transition of one of its spliced rules. -/
theorem CompiledFrom.exists_transition (h : CompiledFrom d library t) {id : ModeId} {name : String}
    (hname : d.modes.keys[id]? = some name) {a : Action} {i : Nat}
    (ha : (t.actionsOf id)[i]? = some a) :
    ∃ specs spec, d.splice name = .ok specs ∧ specs[i]? = some spec ∧
      resolveTransition d.modes.keys name id i spec.next = .ok a := by
  obtain ⟨specs, hspecs, -, hrules⟩ := h.exists_specs hname
  rw [actionsOf, List.getElem?_map, Option.map_eq_some_iff] at ha
  obtain ⟨r, hr, rfl⟩ := ha
  obtain ⟨spec, hspec, hrule⟩ := exists_spec_of_compileRules hrules hr
  obtain ⟨-, -, -, haction, -⟩ := compileRule_eq_ok.1 hrule
  exact ⟨specs, spec, hspecs, hspec, haction⟩

/-- A mode of the table has a name. -/
theorem CompiledFrom.exists_name (h : CompiledFrom d library t) {id : ModeId}
    (hid : id < t.modes.length) : ∃ name, d.modes.keys[id]? = some name := by
  rw [h.length_eq] at hid
  exact ⟨_, List.getElem?_eq_getElem hid⟩

/-- Every mode that a rule of a compiled table names is one of the table. -/
theorem CompiledFrom.targetsDefined (h : CompiledFrom d library t) : t.TargetsDefined := by
  have hlt : ∀ {target : String} {m : ModeId}, d.modes.keys.idxOf? target = some m →
      m < t.modes.length := by
    intro target m hm
    rw [h.length_eq]
    exact (List.idxOf?_eq_some_iff.1 hm).1
  intro id m hm
  obtain ⟨a, ha, hmem⟩ : ∃ a, (a = .push m ∨ a = .switchTo m) ∧ a ∈ t.actionsOf id := by
    rcases hm with hm | hm
    · exact ⟨_, .inl rfl, hm⟩
    · exact ⟨_, .inr rfl, hm⟩
  have hid := lt_of_mem_actionsOf hmem
  obtain ⟨name, hname⟩ := h.exists_name hid
  obtain ⟨i, hi⟩ := List.mem_iff_getElem?.1 hmem
  obtain ⟨-, spec, -, -, haction⟩ := h.exists_transition hname hi
  rcases ha with rfl | rfl
  · rcases resolveTransition_eq_push.1 haction with ⟨target, -, htarget⟩ | ⟨-, rfl⟩
    · exact hlt htarget
    · exact hid
  · obtain ⟨target, -, htarget⟩ := resolveTransition_eq_switchTo.1 haction
    exact hlt htarget

/-- The base mode of a built table has no rule that would leave it. -/
theorem BuiltFrom.stays_of_base (h : BuiltFrom d library t) :
    ∀ a ∈ t.actionsOf t.base, a = .stay ∨ ∃ m, a = .push m :=
  unwindingRule?_eq_none.1 (check_eq_ok.1 h.check_eq).1

end RuleTable

end ModeLexer
