import ModeLexer.Proofs.Definition.Splicing
import ModeLexer.Proofs.Pattern.Resolution
import ModeLexer.Proofs.Table.Under

/-!
# Which definitions are built

`Definition.Valid` lists what is asked of a definition, in terms of the definition alone: of the
texts that its patterns come to, of the rules that its modes come to, and of which mode can be on
top of which. `Definition.Violates` says for each kind of mistake which of these conditions it
names, and where.

`build_iff_valid` is that the valid definitions are those that are built, and that the mistake which
is reported for any other is one that the definition has. The proof has three parts. What is built
is valid (`BuiltFrom.valid`); a mistake that is reported is there (`violates_of_build_eq_error`);
and with a mistake that is there a definition is not valid (`Definition.not_valid_of_violates`).
-/

namespace ModeLexer

open Pattern RuleTable

/-- Whether a transition would leave the mode it is used in. -/
def Transition.unwinds : Transition → Bool
  | pop | rematch | switchTo _ => true
  | stay | push _ | pushSelf => false

namespace Definition

variable {d : Definition}

/-- A mode in which a rule stands is one of the definition. -/
theorem RuleAt.mem_keys {mode : String} {i : Nat} {r : RuleSpec} (h : d.RuleAt mode i r) :
    mode ∈ d.modes.keys := by
  obtain ⟨-, ⟨entries, hentries, -⟩, -⟩ := h
  exact KeyMap.mem_keys_iff.2 ⟨entries, hentries⟩

/-- Whether mode `mode` can come to stand directly on top of mode `under`, by the rules that the
modes come to. -/
inductive SitsOn (d : Definition) (under : String) : String → Prop
  | push {i : Nat} {r : RuleSpec} {target : String} (hr : d.RuleAt under i r)
      (hnext : r.next = .push target) : SitsOn d under target
  | pushSelf {i : Nat} {r : RuleSpec} (hr : d.RuleAt under i r) (hnext : r.next = .pushSelf) :
      SitsOn d under under
  | switch {mode target : String} {i : Nat} {r : RuleSpec} (h : SitsOn d under mode)
      (hr : d.RuleAt mode i r) (hnext : r.next = .switchTo target) : SitsOn d under target

variable [Regex.SizeLimit]

/-- What is asked of a definition. -/
structure Valid (d : Definition) : Prop where
  base_defined : ∃ entries, d.modes.get? d.baseMode = some entries
  /-- References in the library name patterns of the library. -/
  references_defined : ∀ name target, RefersTo d.patterns name target →
    ∃ source, d.patterns.get? target = some source
  references_acyclic : Acyclic (RefersTo d.patterns)
  includes_defined : ∀ mode target, d.Includes mode target →
    ∃ entries, d.modes.get? target = some entries
  includes_acyclic : Acyclic d.Includes
  /-- Every mode comes to a rule at least. -/
  modes_nonempty : ∀ mode entries, d.modes.get? mode = some entries → ∃ r, d.RuleAt mode 0 r
  /-- References in rules name patterns of the library. -/
  rules_defined : ∀ mode i r, d.RuleAt mode i r → ∀ name ∈ references r.regex.toList,
    ∃ source, d.patterns.get? name = some source
  /-- What the pattern of a rule comes to can be compiled. -/
  rules_compile : ∀ mode i r text, d.RuleAt mode i r →
    Expands d.patterns (Piece.ofChars r.regex.toList) text →
      ∃ p, Pattern.compile (String.ofList text) d.ignoreCase = .ok p
  targets_defined : ∀ mode i r target, d.RuleAt mode i r → r.next.target? = some target →
    ∃ entries, d.modes.get? target = some entries
  /-- No rule of the base mode leaves it. -/
  base_stays : ∀ i r, d.RuleAt d.baseMode i r → r.next.unwinds = false
  /-- No mode that can rematch is on top of one whose first rule rematches. -/
  no_rematch_chain : ∀ mode i r under s, d.RuleAt mode i r → r.next = .rematch →
    d.SitsOn under mode → d.RuleAt under 0 s → s.next ≠ .rematch

/-- Whether a definition has the mistake that an error reports. What is never reported of a
definition is none of its mistakes. -/
def Violates (d : Definition) : ConfigError → Prop
  | .undefinedBaseMode mode => mode = d.baseMode ∧ d.modes.get? mode = none
  | .unknownPattern name (.pattern source) =>
    RefersTo d.patterns source name ∧ d.patterns.get? name = none
  | .unknownPattern name (.rule mode i) =>
    ∃ r, d.RuleAt mode i r ∧ name ∈ references r.regex.toList ∧ d.patterns.get? name = none
  | .unknownPattern _ _ => False
  | .patternCycle names => Closes (RefersTo d.patterns) names
  | .undefinedInclude mode target => d.Includes mode target ∧ d.modes.get? target = none
  | .includeCycle modes => Closes d.Includes modes
  | .emptyMode mode => d.SplicedRules mode []
  | .invalidPattern (.rule mode i) reason =>
    ∃ r text, d.RuleAt mode i r ∧ Expands d.patterns (Piece.ofChars r.regex.toList) text ∧
      Pattern.compile (String.ofList text) d.ignoreCase = .error reason
  | .invalidPattern _ _ => False
  | .undefinedMode mode i target =>
    ∃ r, d.RuleAt mode i r ∧ r.next.target? = some target ∧ d.modes.get? target = none
  | .baseModeUnwinds mode i transition =>
    mode = d.baseMode ∧ ∃ r, d.RuleAt mode i r ∧ r.next = transition ∧ transition.unwinds
  | .rematchChain mode under =>
    (∃ i r, d.RuleAt mode i r ∧ r.next = .rematch) ∧ d.SitsOn under mode ∧
      ∃ s, d.RuleAt under 0 s ∧ s.next = .rematch

/-- With a mistake a definition is not valid. -/
theorem not_valid_of_violates {e : ConfigError} (h : d.Violates e) : ¬d.Valid := by
  intro hv
  cases e with
  | undefinedBaseMode mode =>
    obtain ⟨rfl, hmode⟩ := h
    exact Option.ne_none_iff_exists'.2 hv.base_defined hmode
  | undefinedMode mode i target =>
    obtain ⟨r, hr, hnext, htarget⟩ := h
    exact Option.ne_none_iff_exists'.2 (hv.targets_defined mode i r target hr hnext) htarget
  | emptyMode mode =>
    have hrules : d.SplicedRules mode [] := h
    obtain ⟨entries, hentries, -⟩ := hrules
    obtain ⟨r, hr⟩ := hv.modes_nonempty mode entries hentries
    simpa using hr.getElem?_eq h
  | undefinedInclude mode target =>
    exact Option.ne_none_iff_exists'.2 (hv.includes_defined mode target h.1) h.2
  | includeCycle modes => exact not_acyclic_of_closes h hv.includes_acyclic
  | patternCycle names => exact not_acyclic_of_closes h hv.references_acyclic
  | unknownPattern name site =>
    cases site with
    | pattern source =>
      exact Option.ne_none_iff_exists'.2 (hv.references_defined source name h.1) h.2
    | rule mode i =>
      obtain ⟨r, hr, hmem, hname⟩ := h
      exact Option.ne_none_iff_exists'.2 (hv.rules_defined mode i r hr name hmem) hname
    | library | caller | described => exact h
  | invalidPattern site reason =>
    cases site with
    | rule mode i =>
      obtain ⟨r, text, hr, htext, hcompile⟩ := h
      obtain ⟨p, hp⟩ := hv.rules_compile mode i r text hr htext
      simp [hcompile] at hp
    | library | pattern | caller | described => exact h
  | baseModeUnwinds mode i transition =>
    obtain ⟨rfl, r, hr, rfl, hunwinds⟩ := h
    simp [hv.base_stays i r hr] at hunwinds
  | rematchChain mode under =>
    obtain ⟨⟨i, r, hr, hnext⟩, hsits, s, hs, hs'⟩ := h
    exact hv.no_rematch_chain mode i r under s hr hnext hsits hs hs'

end Definition

namespace RuleTable

variable {d : Definition} {library : PatternLibrary} {t : RuleTable} {id : ModeId}
  {name : String} {i : Nat}

/-! ### Transitions -/

/-- A transition that is resolved names a mode, if it names any. -/
theorem exists_idxOf?_of_resolveTransition {names : List String} {mode target : String}
    {next : Transition} {a : Action} (h : resolveTransition names mode id i next = .ok a)
    (htarget : next.target? = some target) : ∃ m, names.idxOf? target = some m := by
  cases next with
  | push | switchTo =>
    obtain ⟨m, hm, -⟩ := map_eq_ok.1 h
    obtain rfl := Option.some.inj htarget
    exact ⟨m, resolveTarget_eq_ok.1 hm⟩
  | stay | pushSelf | pop | rematch => simp [Transition.target?] at htarget

/-- The actions that stay above the mode they are used in are those of transitions that do not leave
it. -/
theorem unwinds_of_resolveTransition {names : List String} {mode : String} {next : Transition}
    {a : Action} (h : resolveTransition names mode id i next = .ok a) :
    next.unwinds = false ↔ a = .stay ∨ ∃ m, a = .push m := by
  cases next with
  | push | switchTo =>
    obtain ⟨m, -, rfl⟩ := map_eq_ok.1 h
    simp [Transition.unwinds]
  | stay | pushSelf | pop | rematch =>
    obtain rfl := Except.ok.inj h
    simp [Transition.unwinds]

/-- A transition is refused only because its target is no mode of the definition. -/
theorem resolveTransition_eq_error {names : List String} {mode : String} {next : Transition}
    {e : ConfigError} (h : resolveTransition names mode id i next = .error e) :
    ∃ target, next.target? = some target ∧ names.idxOf? target = none ∧
      e = .undefinedMode mode i target := by
  have htarget : ∀ target, resolveTarget names mode i target = .error e →
      names.idxOf? target = none ∧ e = .undefinedMode mode i target := by
    intro target h
    unfold resolveTarget at h
    split at h
    · simp at h
    · next hnone => exact ⟨hnone, (Except.error.inj h).symm⟩
  cases next with
  | push target => exact ⟨target, rfl, htarget target (map_eq_error.1 h)⟩
  | switchTo target => exact ⟨target, rfl, htarget target (map_eq_error.1 h)⟩
  | stay | pushSelf | pop | rematch => simp [resolveTransition] at h

theorem get?_eq_none_of_idxOf? {target : String} (h : d.modes.keys.idxOf? target = none) :
    d.modes.get? target = none := by
  refine Option.eq_none_iff_forall_ne_some.2 fun entries hentries ↦ ?_
  have hmem : target ∈ d.modes.keys := KeyMap.mem_keys_iff.2 ⟨entries, hentries⟩
  exact List.idxOf?_eq_none_iff.1 h hmem

section

variable [Regex.SizeLimit]

/-! ### Rules and actions by the names of modes -/

/-- A rule that a mode comes to is compiled at its index. -/
theorem CompiledFrom.exists_rule (h : CompiledFrom d library t)
    (hname : d.modes.keys[id]? = some name) {r : RuleSpec} (hr : d.RuleAt name i r) :
    ∃ rule, (t.rulesOf id)[i]? = some rule ∧ compileRule d library name id i r = .ok rule := by
  obtain ⟨specs, hspecs, -, hrules⟩ := h.exists_specs hname
  have hspec := hr.getElem?_eq (Definition.splice_eq_ok hspecs)
  have hi : i < (t.rulesOf id).length := by
    rw [length_of_compileRules hrules]
    exact (List.getElem?_eq_some_iff.1 hspec).1
  obtain ⟨spec', hspec', hcompiled⟩ :=
    exists_spec_of_compileRules hrules (List.getElem?_eq_getElem hi)
  obtain rfl := Option.some.inj (hspec.symm.trans hspec')
  exact ⟨_, List.getElem?_eq_getElem hi, hcompiled⟩

/-- Every rule of the definition has been compiled. -/
theorem CompiledFrom.exists_compiled (h : CompiledFrom d library t) {r : RuleSpec}
    (hr : d.RuleAt name i r) : ∃ id rule, compileRule d library name id i r = .ok rule := by
  obtain ⟨id, hid⟩ := List.mem_iff_getElem?.1 hr.mem_keys
  obtain ⟨rule, -, hcompiled⟩ := h.exists_rule hid hr
  exact ⟨id, rule, hcompiled⟩

/-- A mode of the definition comes to rules, and not to none. -/
theorem CompiledFrom.exists_spliced (h : CompiledFrom d library t) {entries : List Entry}
    (hentries : d.modes.get? name = some entries) :
    ∃ specs, d.SplicedRules name specs ∧ specs ≠ [] := by
  obtain ⟨id, hid⟩ := List.mem_iff_getElem?.1 (KeyMap.mem_keys_iff.2 ⟨entries, hentries⟩)
  obtain ⟨specs, hspecs, hne, -⟩ := h.exists_specs hid
  exact ⟨specs, Definition.splice_eq_ok hspecs, hne⟩

/-- The actions of a mode are those of the rules that it comes to. -/
theorem CompiledFrom.getElem?_actionsOf (h : CompiledFrom d library t)
    (hname : d.modes.keys[id]? = some name) {a : Action} :
    (t.actionsOf id)[i]? = some a ↔
      ∃ r, d.RuleAt name i r ∧ resolveTransition d.modes.keys name id i r.next = .ok a := by
  constructor
  · intro ha
    obtain ⟨specs, r, hspecs, hr, haction⟩ := h.exists_transition hname ha
    exact ⟨r, ⟨specs, Definition.splice_eq_ok hspecs, hr⟩, haction⟩
  · rintro ⟨r, hr, haction⟩
    obtain ⟨rule, hrule, hcompiled⟩ := h.exists_rule hname hr
    obtain ⟨-, -, -, haction', -⟩ := compileRule_eq_ok.1 hcompiled
    obtain rfl := Except.ok.inj (haction'.symm.trans haction)
    rw [actionsOf, List.getElem?_map, hrule]
    rfl

/-- The actions of a mode are those of its rules, includes among them. -/
theorem CompiledFrom.mem_actionsOf (h : CompiledFrom d library t)
    (hname : d.modes.keys[id]? = some name) {a : Action} :
    a ∈ t.actionsOf id ↔
      ∃ i r, d.RuleAt name i r ∧ resolveTransition d.modes.keys name id i r.next = .ok a := by
  rw [List.mem_iff_getElem?]
  exact exists_congr fun i ↦ h.getElem?_actionsOf hname

/-- Modes sit on each other in the table as they do in the definition. -/
theorem CompiledFrom.sitsOn_iff (h : CompiledFrom d library t) {under m : ModeId}
    {underName modeName : String} (hunder : d.modes.keys[under]? = some underName)
    (hm : d.modes.keys[m]? = some modeName) :
    t.SitsOn under m ↔ d.SitsOn underName modeName := by
  constructor
  · intro hsits
    induction hsits generalizing modeName with
    | push hpush =>
      obtain ⟨i, r, hr, haction⟩ := (h.mem_actionsOf hunder).1 hpush
      rcases resolveTransition_eq_push.1 haction with ⟨target, hnext, htarget⟩ | ⟨hnext, rfl⟩
      · rw [KeyMap.idxOf?_keys_eq_some_iff, hm] at htarget
        obtain rfl := Option.some.inj htarget
        exact .push hr hnext
      · obtain rfl := Option.some.inj (hunder.symm.trans hm)
        exact .pushSelf hr hnext
    | @switch mode _ hsits hswitch ih =>
      obtain ⟨name, hname⟩ := h.exists_name (lt_of_mem_actionsOf hswitch)
      obtain ⟨i, r, hr, haction⟩ := (h.mem_actionsOf hname).1 hswitch
      obtain ⟨target, hnext, htarget⟩ := resolveTransition_eq_switchTo.1 haction
      rw [KeyMap.idxOf?_keys_eq_some_iff, hm] at htarget
      obtain rfl := Option.some.inj htarget
      exact .switch (ih hname) hr hnext
  · intro hsits
    induction hsits generalizing m with
    | push hr hnext =>
      refine .push ((h.mem_actionsOf hunder).2 ⟨_, _, hr, resolveTransition_eq_push.2 ?_⟩)
      exact .inl ⟨_, hnext, KeyMap.idxOf?_keys_eq_some_iff.2 hm⟩
    | pushSelf hr hnext =>
      have heq := (KeyMap.idxOf?_keys_eq_some_iff.2 hunder).symm.trans
        (KeyMap.idxOf?_keys_eq_some_iff.2 hm)
      obtain rfl := Option.some.inj heq
      exact .push ((h.mem_actionsOf hunder).2
        ⟨_, _, hr, resolveTransition_eq_push.2 (.inr ⟨hnext, rfl⟩)⟩)
    | switch hsits hr hnext ih =>
      obtain ⟨id, hid⟩ := List.mem_iff_getElem?.1 hr.mem_keys
      refine .switch (ih hid) ((h.mem_actionsOf hid).2
        ⟨_, _, hr, resolveTransition_eq_switchTo.2 ⟨_, hnext, ?_⟩⟩)
      exact KeyMap.idxOf?_keys_eq_some_iff.2 hm

/-- A mode begins with a rematch in the table exactly if it does in the definition. -/
theorem CompiledFrom.startsWithRematch_iff (h : CompiledFrom d library t)
    (hname : d.modes.keys[id]? = some name) :
    t.startsWithRematch id ↔ ∃ r, d.RuleAt name 0 r ∧ r.next = .rematch := by
  rw [startsWithRematch, decide_eq_true_iff, List.head?_eq_getElem?, h.getElem?_actionsOf hname]
  simp only [resolveTransition_eq_rematch]

/-! ### What is built is valid -/

/-- A definition that a table is built from has none of the mistakes. -/
theorem BuiltFrom.valid (h : BuiltFrom d library t) : d.Valid where
  base_defined := KeyMap.mem_keys_iff.1 (List.mem_of_getElem? h.getElem?_base)
  references_defined _ _ := (PatternLibrary.kept_of_ofSources h.library_eq).defined
  references_acyclic := (PatternLibrary.kept_of_ofSources h.library_eq).acyclic
  includes_defined mode target hincludes := by
    have ⟨entries, hentries, _⟩ := hincludes
    obtain ⟨specs, hspliced, -⟩ := h.exists_spliced hentries
    exact hspliced.defined hincludes
  includes_acyclic mode hcycle := by
    obtain ⟨target, ⟨entries, hentries, -⟩, -⟩ := Relation.TransGen.head'_iff.1 hcycle
    obtain ⟨specs, hspliced, -⟩ := h.exists_spliced hentries
    exact hspliced.not_transGen hcycle
  modes_nonempty mode entries hentries := by
    obtain ⟨specs, hspliced, hne⟩ := h.exists_spliced hentries
    obtain ⟨r, rs, rfl⟩ := List.exists_cons_of_ne_nil hne
    exact ⟨r, _, hspliced, rfl⟩
  rules_defined mode i r hr name hmem := by
    obtain ⟨id, rule, hcompiled⟩ := h.exists_compiled hr
    obtain ⟨source, hsource, -⟩ := compileRule_eq_ok.1 hcompiled
    obtain ⟨cs, rfl⟩ := exists_ofList_eq name
    exact (PatternLibrary.expand_eq_ok h.library_eq hsource).defined (mem_references.1 hmem)
  rules_compile mode i r text hr htext := by
    obtain ⟨id, rule, hcompiled⟩ := h.exists_compiled hr
    obtain ⟨source, hsource, hpattern, -⟩ := compileRule_eq_ok.1 hcompiled
    obtain rfl := htext.unique (PatternLibrary.expand_eq_ok h.library_eq hsource)
    rw [String.ofList_toList]
    exact ⟨_, mapError_eq_ok.1 hpattern⟩
  targets_defined mode i r target hr htarget := by
    obtain ⟨id, rule, hcompiled⟩ := h.exists_compiled hr
    obtain ⟨-, -, -, haction, -⟩ := compileRule_eq_ok.1 hcompiled
    obtain ⟨m, hm⟩ := exists_idxOf?_of_resolveTransition haction htarget
    exact KeyMap.mem_keys_iff.1 (List.mem_of_getElem? (KeyMap.idxOf?_keys_eq_some_iff.1 hm))
  base_stays i r hr := by
    obtain ⟨rule, hrule, hcompiled⟩ := h.exists_rule h.getElem?_base hr
    obtain ⟨-, -, -, haction, -⟩ := compileRule_eq_ok.1 hcompiled
    exact (unwinds_of_resolveTransition haction).2
      (h.stays_of_base _ (List.mem_map_of_mem (List.mem_of_getElem? hrule)))
  no_rematch_chain mode i r under s hr hnext hsits hs hs' := by
    obtain ⟨id, hid⟩ := List.mem_iff_getElem?.1 hr.mem_keys
    obtain ⟨underId, hunder⟩ := List.mem_iff_getElem?.1 hs.mem_keys
    have hrematch : .rematch ∈ t.actionsOf id :=
      (h.mem_actionsOf hid).2 ⟨i, r, hr, resolveTransition_eq_rematch.2 hnext⟩
    have hmem : underId ∈ t.underModes id :=
      (mem_underModes_iff h.targetsDefined).2 ((h.sitsOn_iff hunder hid).2 hsits)
    have hstarts := rematchChain?_eq_none.1 (check_eq_ok.1 h.check_eq).2 id
      (lt_of_mem_actionsOf hrematch) hrematch underId hmem
    rw [(h.startsWithRematch_iff hunder).2 ⟨s, hs, hs'⟩] at hstarts
    simp at hstarts

/-! ### What is reported is there -/

/-- What is reported of a rule is a mistake of the definition. -/
theorem violates_of_compileRule {r : RuleSpec} {e : ConfigError}
    (hlibrary : PatternLibrary.ofSources d.patterns = .ok library) (hr : d.RuleAt name i r)
    (h : compileRule d library name id i r = .error e) : d.Violates e := by
  rcases bind_eq_error.1 h with hexpand | ⟨source, hsource, h⟩
  · obtain ⟨target, rfl, hmem, htarget⟩ := PatternLibrary.expand_eq_error hlibrary hexpand
    exact ⟨r, hr, hmem, htarget⟩
  rcases bind_eq_error.1 h with hpattern | ⟨pattern, -, h⟩
  · obtain ⟨reason, hreason, rfl⟩ := mapError_eq_error.1 hpattern
    refine ⟨r, source.toList, hr, PatternLibrary.expand_eq_ok hlibrary hsource, ?_⟩
    rwa [String.ofList_toList]
  rcases bind_eq_error.1 h with haction | ⟨action, -, h⟩
  · obtain ⟨target, hnext, hnone, rfl⟩ := resolveTransition_eq_error haction
    exact ⟨r, hr, hnext, get?_eq_none_of_idxOf? hnone⟩
  · simp [pure, Except.pure] at h

/-- What is reported of a mode is a mistake of the definition. -/
theorem violates_of_compileMode {e : ConfigError}
    (hlibrary : PatternLibrary.ofSources d.patterns = .ok library) (hname : name ∈ d.modes.keys)
    (h : compileMode d library id name = .error e) : d.Violates e := by
  rcases bind_eq_error.1 h with hsplice | ⟨specs, hspecs, h⟩
  · rcases Definition.splice_eq_error hname hsplice with
      ⟨modes, rfl, hcloses⟩ | ⟨source, target, rfl, hincludes, hnone⟩
    · exact hcloses
    · exact ⟨hincludes, hnone⟩
  have hspliced := Definition.splice_eq_ok hspecs
  split at h
  · next hempty =>
    obtain rfl := Except.error.inj h
    rwa [List.isEmpty_iff.1 hempty] at hspliced
  rcases bind_eq_error.1 h with hrules | ⟨rules, -, h⟩
  · rw [compileRules_eq_mapM] at hrules
    obtain ⟨⟨r, i⟩, hmem, hrule⟩ := exists_of_mapM_eq_error hrules
    exact violates_of_compileRule hlibrary
      ⟨specs, hspliced, List.mem_zipIdx_iff_getElem?.1 hmem⟩ hrule
  · simp [pure, Except.pure] at h

/-- The base mode has the rule that is reported to leave it. -/
theorem CompiledFrom.exists_of_unwindingRule? (h : CompiledFrom d library t)
    {transition : Transition} (hrule : t.unwindingRule? = some (i, transition)) :
    ∃ r, d.RuleAt d.baseMode i r ∧ r.next = transition ∧ transition.unwinds := by
  obtain ⟨⟨a, j⟩, hmem, hunwinding⟩ := List.exists_of_findSome?_eq_some hrule
  obtain ⟨transition', htransition, heq⟩ := Option.map_eq_some_iff.1 hunwinding
  obtain ⟨rfl, rfl⟩ := Prod.mk.inj heq
  obtain ⟨r, hr, haction⟩ :=
    (h.getElem?_actionsOf h.getElem?_base).1 (List.mem_zipIdx_iff_getElem?.1 hmem)
  refine ⟨r, hr, ?_⟩
  cases a with
  | stay | push => simp [unwinding?] at htransition
  | pop =>
    obtain rfl := Option.some.inj htransition
    exact ⟨resolveTransition_eq_pop.1 haction, rfl⟩
  | rematch =>
    obtain rfl := Option.some.inj htransition
    exact ⟨resolveTransition_eq_rematch.1 haction, rfl⟩
  | switchTo m =>
    obtain rfl := Option.some.inj htransition
    obtain ⟨target, hnext, htarget⟩ := resolveTransition_eq_switchTo.1 haction
    rw [h.nameOf_eq (KeyMap.idxOf?_keys_eq_some_iff.1 htarget)]
    exact ⟨hnext, rfl⟩

/-- The modes that are reported make a chain of rematches. -/
theorem CompiledFrom.violates_of_rematchChain? (h : CompiledFrom d library t) {under : ModeId}
    (hchain : t.rematchChain? = some (id, under)) :
    d.Violates (.rematchChain (t.nameOf id) (t.nameOf under)) := by
  obtain ⟨id', hid, hfound⟩ := List.exists_of_findSome?_eq_some hchain
  obtain ⟨under', hunder, heq⟩ := Option.map_eq_some_iff.1 hfound
  obtain ⟨rfl, rfl⟩ := Prod.mk.inj heq
  obtain ⟨hrange, hcontains⟩ := List.mem_filter.1 hid
  obtain ⟨name, hname⟩ := h.exists_name (List.mem_range.1 hrange)
  have hsits := (mem_underModes_iff h.targetsDefined).1 (List.mem_of_find?_eq_some hunder)
  obtain ⟨underName, hunderName⟩ := h.exists_name hsits.under_lt
  rw [h.nameOf_eq hname, h.nameOf_eq hunderName]
  refine ⟨?_, (h.sitsOn_iff hunderName hname).1 hsits,
    (h.startsWithRematch_iff hunderName).1 (List.find?_some hunder)⟩
  obtain ⟨i, r, hr, haction⟩ := (h.mem_actionsOf hname).1 (List.contains_iff_mem.1 hcontains)
  exact ⟨i, r, hr, resolveTransition_eq_rematch.1 haction⟩

/-- What is reported of a whole table is a mistake of the definition. -/
theorem CompiledFrom.violates_of_check (h : CompiledFrom d library t) {e : ConfigError}
    (hcheck : t.check = .error e) : d.Violates e := by
  unfold check at hcheck
  split at hcheck
  · next hrule =>
    obtain rfl := Except.error.inj hcheck
    rw [h.nameOf_eq h.getElem?_base]
    exact ⟨rfl, h.exists_of_unwindingRule? hrule⟩
  · split at hcheck
    · next hchain =>
      obtain rfl := Except.error.inj hcheck
      exact h.violates_of_rematchChain? hchain
    · simp at hcheck

/-- What is reported of a definition is one of its mistakes, at whatever stage. -/
theorem violates_of_build_eq_error {e : ConfigError} (h : build d = .error e) : d.Violates e := by
  rcases build_eq_error h with
    ⟨hbase, rfl⟩ | hlibrary | ⟨library, hlibrary, hmodes⟩ | ⟨library, t, ht, hcheck⟩
  · exact ⟨rfl, get?_eq_none_of_idxOf? hbase⟩
  · rcases PatternLibrary.ofSources_eq_error hlibrary with
      ⟨names, rfl, hcloses⟩ | ⟨source, target, rfl, hrefers, hnone⟩
    · exact hcloses
    · exact ⟨hrefers, hnone⟩
  · rw [compileModes_eq_mapM] at hmodes
    obtain ⟨⟨name, id⟩, hmem, hmode⟩ := exists_of_mapM_eq_error hmodes
    have hname := List.mem_of_getElem? (List.mem_zipIdx_iff_getElem?.1 hmem)
    exact violates_of_compileMode hlibrary hname hmode
  · exact ht.violates_of_check hcheck

/-- **Validity.** The definitions that are built are the valid ones. The mistake that is reported
for any other definition is one that it has, and no valid definition has any. -/
theorem build_iff_valid (d : Definition) :
    ((∃ t, build d = .ok t) ↔ d.Valid) ∧
      (∀ e, build d = .error e → d.Violates e) ∧ ∀ e, d.Violates e → ¬d.Valid := by
  refine ⟨⟨?_, fun hvalid ↦ ?_⟩, fun e ↦ violates_of_build_eq_error,
    fun e ↦ Definition.not_valid_of_violates⟩
  · rintro ⟨t, ht⟩
    obtain ⟨library, h⟩ := build_eq_ok.1 ht
    exact h.valid
  · cases hbuild : build d with
    | ok t => exact ⟨t, rfl⟩
    | error e =>
      exact absurd hvalid (Definition.not_valid_of_violates (violates_of_build_eq_error hbuild))

end

/-- A language with a mode that two others include, one of which gives lines back to the other. -/
def shared : Definition :=
  Definition.new "shared" "root"
    |>.addPattern "zero" "0"
    |>.addPattern "number" "1@zero"
    |>.addMode "common" [Entry.token "@number" "number"]
    |>.addMode "inner" [.includeMode "common", (Entry.token ";" "").rematch]
    |>.addMode "root" [.includeMode "common", (Entry.token "a" "a").push "inner"]

/-- The included mode includes one that includes it. -/
def circular : Definition := shared.addMode "common" [.includeMode "inner"]

theorem shared_valid_and_circular_not_valid :
    shared.Valid ∧
      build circular = .error (.includeCycle ["common", "inner", "common"]) ∧
      Closes circular.Includes ["common", "inner", "common"] ∧ ¬circular.Valid := by
  have hshared : (build shared).toOption.isSome := by rfl
  have hcircular : build circular = .error (.includeCycle ["common", "inner", "common"]) := by rfl
  have hcloses := (build_iff_valid circular).2.1 _ hcircular
  refine ⟨(build_iff_valid shared).1.1 ?_, hcircular, hcloses,
    (build_iff_valid circular).2.2 _ hcloses⟩
  cases hbuild : build shared with
  | ok t => exact ⟨t, rfl⟩
  | error e => simp [hbuild, Except.toOption] at hshared

end RuleTable

end ModeLexer
