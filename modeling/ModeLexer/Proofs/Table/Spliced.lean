import ModeLexer.Proofs.Table.Validity

/-!
# Includes written out

An include stands for the entries of the included mode. `build_spliced` is that these may be written
in its place: the definition is still built, and its table is the same. What every mode comes to
stays the same (`SplicedRules.addMode`), and a mode is compiled of what it comes to under its own
name and number. So a rule that pushes its own mode pushes the one that it has come to
(`CompiledFrom.exists_pushSelf`).
-/

namespace ModeLexer

namespace Definition

variable {d : Definition} {mode target : String} {before included after : List Entry}

/-- Entries come to what they came to before when an include in `mode` is written out. -/
theorem Splices.addMode (htarget : d.modes.get? target = some included) (hne : target ≠ mode)
    (hmode : d.modes.get? mode = some (before ++ .includeMode target :: after))
    {es : List Entry} {rs : List RuleSpec} (h : d.Splices es rs) :
    (d.addMode mode (before ++ (included ++ after))).Splices es rs := by
  have hget (name : String) :
      (d.addMode mode (before ++ (included ++ after))).modes.get? name =
        if name = mode then some (before ++ (included ++ after)) else d.modes.get? name :=
    KeyMap.get?_insert ..
  induction h with
  | nil => exact .nil
  | rule _ ih => exact .rule ih
  | @includeMode name entries es inner rs hentries _ _ ihinner ih =>
    by_cases hname : name = mode
    · subst hname
      obtain rfl := Option.some.inj (hmode.symm.trans hentries)
      obtain ⟨rs₁, _, rfl, h₁, h₂⟩ := splices_append.1 ihinner
      cases h₂ with
      | @includeMode _ entries' _ inner' rs₂ hentries' hinner' h₂ =>
        rw [hget, if_neg hne, htarget] at hentries'
        obtain rfl := Option.some.inj hentries'
        have hwritten := splices_append.2
          ⟨rs₁, _, rfl, h₁, splices_append.2 ⟨inner', rs₂, rfl, hinner', h₂⟩⟩
        exact .includeMode (by rw [hget, if_pos rfl]) hwritten ih
    · exact .includeMode (by rw [hget, if_neg hname, hentries]) ihinner ih

/-- Every mode comes to what it came to before when an include in `mode` is written out. -/
theorem SplicedRules.addMode (htarget : d.modes.get? target = some included)
    (hmode : d.modes.get? mode = some (before ++ .includeMode target :: after))
    (hne : target ≠ mode) {name : String} {rs : List RuleSpec} (h : d.SplicedRules name rs) :
    (d.addMode mode (before ++ (included ++ after))).SplicedRules name rs := by
  obtain ⟨entries, hentries, hrs⟩ := h
  -- the mode is what an include of it comes to
  have hinclude : d.Splices [.includeMode name] (rs ++ []) := .includeMode hentries hrs .nil
  generalize hrs' : rs ++ [] = rs' at hinclude
  cases hinclude.addMode htarget hne hmode with
  | @includeMode _ entries' _ inner rs₂ hentries' hinner hnil =>
    cases hnil
    obtain rfl : rs = inner := by simpa using hrs'
    exact ⟨entries', hentries', hinner⟩

end Definition

namespace RuleTable

open Definition

section

variable [Regex.SizeLimit] {d : Definition} {library : PatternLibrary} {t : RuleTable}

/-- A rule that pushes its own mode pushes the mode that it comes to stand in. -/
theorem CompiledFrom.exists_pushSelf (h : CompiledFrom d library t) {name : String} {i : Nat}
    {r : RuleSpec} (hr : d.RuleAt name i r) (hnext : r.next = .pushSelf) :
    ∃ id rule, t.idOf? name = some id ∧ (t.rulesOf id)[i]? = some rule ∧
      rule.action = .push id := by
  obtain ⟨id, hid⟩ := List.mem_iff_getElem?.1 hr.mem_keys
  obtain ⟨rule, hrule, hcompiled⟩ := h.exists_rule hid hr
  obtain ⟨-, -, -, haction, -⟩ := compileRule_eq_ok.1 hcompiled
  rw [hnext, resolveTransition] at haction
  refine ⟨id, rule, ?_, hrule, (Except.ok.inj haction).symm⟩
  rw [idOf?, h.names_eq, KeyMap.idxOf?_keys_eq_some_iff, hid]

/-- **Splicing.** In a definition that is built, any include may be replaced by the entries of the
included mode: what results is built too and has the same table. A rule that pushes its own mode
pushes the mode that it has come to, whichever mode it is written in. -/
theorem build_spliced {d : Definition} {t : RuleTable} (h : build d = .ok t)
    {mode target : String} {before after : List Entry}
    (hmode : d.modes.get? mode = some (before ++ .includeMode target :: after)) :
    (∃ included, d.modes.get? target = some included ∧
      build (d.addMode mode (before ++ (included ++ after))) = .ok t) ∧
    ∀ name i r, d.RuleAt name i r → r.next = .pushSelf →
      ∃ id rule, t.idOf? name = some id ∧ (t.rulesOf id)[i]? = some rule ∧
        rule.action = .push id := by
  obtain ⟨library, hbuilt⟩ := build_eq_ok.1 h
  refine ⟨?_, fun name i r hr hnext ↦ hbuilt.exists_pushSelf hr hnext⟩
  obtain ⟨rs, hrs, -⟩ := hbuilt.exists_spliced hmode
  have hincludes : d.Includes mode target := ⟨_, hmode, by simp⟩
  obtain ⟨included, htarget⟩ := hrs.defined hincludes
  have hne : target ≠ mode := by
    rintro rfl
    exact hrs.not_transGen (.single hincludes)
  have hkeys : (d.addMode mode (before ++ (included ++ after))).modes.keys = d.modes.keys :=
    KeyMap.keys_insert_of_mem (KeyMap.mem_keys_iff.2 ⟨_, hmode⟩) _
  have hall : ∀ name ∈ (d.addMode mode (before ++ (included ++ after))).modes.keys,
      ∃ rs, (d.addMode mode (before ++ (included ++ after))).SplicedRules name rs := by
    intro name hname
    rw [hkeys] at hname
    obtain ⟨entries, hentries⟩ := KeyMap.mem_keys_iff.1 hname
    obtain ⟨rs, hrs, -⟩ := hbuilt.exists_spliced hentries
    exact ⟨rs, hrs.addMode htarget hmode hne⟩
  refine ⟨included, htarget, build_eq_ok.2 ⟨library, hbuilt.of_rules id rfl rfl rfl hkeys
    hbuilt.library_eq (fun name specs hspecs ↦ ?_) fun mode id i spec r hrule ↦ ?_⟩⟩
  · rw [List.map_id]
    exact splice_eq_ok_of_splicedRules hall ((splice_eq_ok hspecs).addMode htarget hmode hne)
  · -- of the modes of the definition only the names count for a rule
    rwa [compileRule, hkeys]

end

/-- The rule that opens a bracket, whatever mode it comes to stand in. -/
def opening : Entry := (Entry.token "\\(" "open").pushSelf

/-- A language in which two modes include a rule that pushes its own mode, and one mode is included
by way of two others. -/
def bracketed : Definition :=
  Definition.new "bracketed" "root"
    |>.addMode "blank" [Entry.token " " ""]
    |>.addMode "brackets" [opening, .includeMode "blank"]
    |>.addMode "inner" [.includeMode "brackets", (Entry.token "\\)" "close").pop]
    |>.addMode "root" [.includeMode "blank", .includeMode "brackets",
      (Entry.token "x" "x").push "inner"]

/-- Its rules in the mode that the brackets are not written in. -/
theorem bracketed_spliced :
    ∃ t, build bracketed = .ok t ∧
      build (bracketed.addMode "root" [.includeMode "blank", opening, .includeMode "blank",
        (Entry.token "x" "x").push "inner"]) = .ok t ∧
      ∃ id rule, t.idOf? "root" = some id ∧ (t.rulesOf id)[1]? = some rule ∧
        rule.action = .push id := by
  have hbuilt : (build bracketed).toOption.isSome := by rfl
  have hrules : ∃ rs, bracketed.splice "root" = .ok rs ∧
      rs[1]? = some { regex := "\\(", labels := .whole "open", next := .pushSelf } := ⟨_, rfl, rfl⟩
  obtain ⟨rs, hrs, hr⟩ := hrules
  cases hbuild : build bracketed with
  | error e => simp [hbuild, Except.toOption] at hbuilt
  | ok t =>
    have hroot : bracketed.modes.get? "root" = some ([.includeMode "blank"] ++
      .includeMode "brackets" :: [(Entry.token "x" "x").push "inner"]) := by rfl
    obtain ⟨⟨included, htarget, hwritten⟩, hpush⟩ := build_spliced hbuild hroot
    obtain rfl : [opening, .includeMode "blank"] = included := Option.some.inj htarget
    exact ⟨t, rfl, hwritten, hpush "root" 1 _ ⟨rs, splice_eq_ok hrs, hr⟩ rfl⟩

end RuleTable

end ModeLexer
