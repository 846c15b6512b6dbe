import ModeLexer.Proofs.Pattern.Expansion
import ModeLexer.Proofs.Table.Validity

/-!
# Definitions without references

What is expanded refers to no pattern any more, so that expanding it again changes nothing, whatever
the library. A definition may therefore have the expansions of its rules in the place of their
sources, and no patterns (`Definition.expanded`): each rule is compiled to the same
(`compileRule_expanded`), and the table is the same (`BuiltFrom.expanded`).
-/

namespace ModeLexer

/-! ### Changing the rules of a definition -/

/-- An entry with its rule changed. -/
def Entry.mapRule (f : RuleSpec → RuleSpec) : Entry → Entry
  | .rule r => .rule (f r)
  | .includeMode mode => .includeMode mode

/-- A rule with its expansion in the place of its source. -/
def RuleSpec.expanded (l : PatternLibrary) (r : RuleSpec) : RuleSpec :=
  { r with regex := l.expansion r.regex }

namespace Definition

variable {d d' : Definition} {f : RuleSpec → RuleSpec}

/-- A definition with the expansions of its rules in the place of their sources, and no patterns. -/
def expanded (l : PatternLibrary) (d : Definition) : Definition :=
  { d with
    patterns := .empty
    modes := d.modes.map (List.map (Entry.mapRule (RuleSpec.expanded l))) }

theorem spliceEntries_map (included : String → Except ConfigError (List RuleSpec))
    (es : List Entry) :
    spliceEntries (fun mode ↦ (included mode).map (List.map f)) (es.map (Entry.mapRule f)) =
      (spliceEntries included es).map (List.map f) := by
  induction es with
  | nil => rfl
  | cons e es ih =>
    cases e with
    | rule r =>
      simp only [List.map_cons, Entry.mapRule, spliceEntries, ih]
      cases spliceEntries included es <;> rfl
    | includeMode mode =>
      simp only [List.map_cons, Entry.mapRule, spliceEntries, ih]
      cases included mode with
      | error e => rfl
      | ok first =>
        cases spliceEntries included es with
        | error e => rfl
        | ok rs => exact congrArg Except.ok (List.map_append ..).symm

/-- Where entries have their rules changed, so have the rules that a mode comes to. -/
theorem spliceFrom_mapRule (h : d'.modes = d.modes.map (List.map (Entry.mapRule f))) (fuel : Nat)
    (visiting : List String) (mode : String) :
    d'.spliceFrom fuel visiting mode = (d.spliceFrom fuel visiting mode).map (List.map f) := by
  induction fuel generalizing visiting mode with
  | zero => rfl
  | succ fuel ih =>
    rw [spliceFrom, spliceFrom, h, KeyMap.get?_map]
    split
    · rfl
    · cases d.modes.get? mode with
      | none => rfl
      | some entries =>
        rw [Option.map_some, ← spliceEntries_map]
        exact congrArg (spliceEntries · _) (funext fun target ↦ ih _ target)

theorem splice_mapRule (h : d'.modes = d.modes.map (List.map (Entry.mapRule f))) (mode : String) :
    d'.splice mode = (d.splice mode).map (List.map f) := by
  rw [splice, splice, spliceFrom_mapRule h, h, KeyMap.size_map]

end Definition

namespace RuleTable

open Pattern PatternLibrary

section

variable [Regex.SizeLimit] {d : Definition} {l : PatternLibrary} {t : RuleTable}

/-- A rule is compiled to the same as the rule with its expansion. -/
theorem compileRule_expanded (h : ofSources d.patterns = .ok l) {mode : String} {id : ModeId}
    {i : Nat} {spec : RuleSpec} {r : Rule} (hrule : compileRule d l mode id i spec = .ok r)
    (l' : PatternLibrary) :
    compileRule (d.expanded l) l' mode id i (spec.expanded l) = .ok r := by
  obtain ⟨source, hsource, hpattern, haction, hemission⟩ := compileRule_eq_ok.1 hrule
  obtain ⟨-, rfl⟩ := expand_eq_ok_iff.1 hsource
  refine compileRule_eq_ok.2 ⟨_, expand_of_references (references_expansion h _), hpattern, ?_,
    hemission⟩
  rw [Definition.expanded, KeyMap.keys_map]
  exact haction

theorem BuiltFrom.expanded (h : BuiltFrom d l t) : BuiltFrom (d.expanded l) ⟨.empty⟩ t := by
  refine h.of_rules (RuleSpec.expanded l) rfl rfl rfl (KeyMap.keys_map _ _) rfl
    (fun mode specs hspecs ↦ ?_) fun mode id i spec r hrule ↦
      compileRule_expanded h.library_eq hrule _
  rw [Definition.splice_mapRule rfl, hspecs]
  rfl

/-- Of every rule that is written in a definition the library knows all references. -/
theorem BuiltFrom.expand_eq (h : BuiltFrom d l t) {mode : String} {entries : List Entry}
    (hentries : d.modes.get? mode = some entries) {r : RuleSpec} (hr : .rule r ∈ entries)
    (site : PatternSite) : l.expand r.regex site = .ok (l.expansion r.regex) := by
  obtain ⟨specs, ⟨entries', hentries', hspecs⟩, -⟩ := h.exists_spliced hentries
  obtain rfl := Option.some.inj (hentries.symm.trans hentries')
  obtain ⟨i, hi⟩ := List.mem_iff_getElem?.1 (hspecs.mem hr)
  obtain ⟨id, rule, hrule⟩ := h.exists_compiled ⟨specs, ⟨entries, hentries, hspecs⟩, hi⟩
  obtain ⟨source, hsource, -⟩ := compileRule_eq_ok.1 hrule
  exact expand_eq_ok_iff.2 ⟨(expand_eq_ok_iff.1 hsource).1, rfl⟩

/-- **Expansion.** What is expanded with a library refers to no pattern, and is expanded to itself
with any other. A definition that is built may have the expansions of its rules in their place, and
no patterns: what results is built too and has the same table. -/
theorem expanded_closed :
    (∀ sources l source site text, ofSources sources = .ok l → l.expand source site = .ok text →
      references text.toList = [] ∧ ∀ l' site', PatternLibrary.expand l' text site' = .ok text) ∧
    ∀ d t, build d = .ok t → ∃ l, ofSources d.patterns = .ok l ∧
      (∀ mode entries r, d.modes.get? mode = some entries → .rule r ∈ entries →
        ∀ site, l.expand r.regex site = .ok (l.expansion r.regex)) ∧
      build (d.expanded l) = .ok t := by
  refine ⟨fun sources l source site text hl htext ↦ ?_, fun d t h ↦ ?_⟩
  · obtain ⟨-, rfl⟩ := expand_eq_ok_iff.1 htext
    have hclosed := references_expansion hl source
    exact ⟨hclosed, fun l' site' ↦ expand_of_references hclosed⟩
  · obtain ⟨l, hbuilt⟩ := build_eq_ok.1 h
    exact ⟨l, hbuilt.library_eq, fun mode entries r hentries hr site ↦
      hbuilt.expand_eq hentries hr site, build_eq_ok.2 ⟨_, hbuilt.expanded⟩⟩

end

/-- At-signs before a digit, a reference, a backslash and nothing, and a text that ends in one. -/
def atSigns : Definition :=
  Definition.new "at-signs" "root"
    |>.addPattern "at" "a@"
    |>.addPattern "ats" "@0@at\\@at@@at@"
    |>.addMode "root" [Entry.token "@ats@\\@" "at"]

theorem atSigns_expanded :
    (∃ l, PatternLibrary.ofSources atSigns.patterns = .ok l ∧
      l.get? "ats" = some "@0(?:a@)\\@at@(?:a@)@" ∧
      ∀ l' site, PatternLibrary.expand l' "@0(?:a@)\\@at@(?:a@)@" site =
        .ok "@0(?:a@)\\@at@(?:a@)@") ∧
    ∃ t, build atSigns = .ok t ∧
      build (Definition.new "at-signs" "root" |>.addMode "root"
        [Entry.token "(?:@0(?:a@)\\@at@(?:a@)@)@\\@" "at"]) = .ok t := by
  obtain ⟨hexpand, hbuild⟩ := expanded_closed
  have hl : PatternLibrary.ofSources atSigns.patterns =
      .ok ⟨.ofList [("at", "a@"), ("ats", "@0(?:a@)\\@at@(?:a@)@")]⟩ := by rfl
  refine ⟨⟨_, hl, by rfl, (hexpand _ _ "@0@at\\@at@@at@" .caller _ hl (by rfl)).2⟩, ?_⟩
  have hbuilt : (build atSigns).toOption.isSome := by rfl
  cases hbuild' : build atSigns with
  | error e => simp [hbuild', Except.toOption] at hbuilt
  | ok t =>
    obtain ⟨l, hl', -, ht⟩ := hbuild atSigns t hbuild'
    obtain rfl := Except.ok.inj (hl.symm.trans hl')
    exact ⟨t, rfl, ht⟩

end RuleTable

end ModeLexer
