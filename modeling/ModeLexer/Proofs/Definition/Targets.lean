import ModeLexer.Proofs.Definition.RoundTrip
import ModeLexer.Proofs.Table.Validity

/-!
# Transitions that can be read back

Building a table asks of the modes that transitions name only that they are there, while the
notation of transitions has names for some modes only. So a table may be built of a definition with
transitions that are not read back from their notations. `Definition.carried_read_back` says which
ones these are: those that name a mode whose name cannot be written, and no others. Where a
definition has been read there are none of them, since its transitions have come from notations.
-/

namespace ModeLexer

namespace Transition

/-- A transition is read back from its notation exactly if the mode that it names can be named. -/
theorem parse_toText_eq_ok_iff {next : Transition} :
    parse next.toText = .ok next ↔ ∀ m ∈ next.target?, isModeName m.toList :=
  ⟨isWritable_of_parse, parse_toText⟩

end Transition

namespace Definition

variable {d : Definition}

/-- Whether a rule of a definition has a transition. -/
def Carries (d : Definition) (next : Transition) : Prop :=
  ∃ mode entries, d.modes.get? mode = some entries ∧ ∃ r, .rule r ∈ entries ∧ r.next = next

theorem IsWritable.of_carries (h : d.IsWritable) {next : Transition} (hnext : d.Carries next) :
    next.IsWritable := by
  obtain ⟨mode, entries, hentries, r, hr, rfl⟩ := hnext
  exact h _ (KeyMap.get?_eq_some_iff.1 hentries) _ hr r rfl

/-- In a definition that is built, a rule stands somewhere among what its mode comes to. -/
theorem exists_ruleAt [Regex.SizeLimit] {library : PatternLibrary} {t : RuleTable}
    (h : RuleTable.BuiltFrom d library t) {mode : String} {entries : List Entry}
    (hentries : d.modes.get? mode = some entries) {r : RuleSpec} (hr : .rule r ∈ entries) :
    ∃ i, d.RuleAt mode i r := by
  obtain ⟨specs, ⟨entries', hget, hspecs⟩, -⟩ := h.exists_spliced hentries
  obtain rfl := Option.some.inj (hentries.symm.trans hget)
  obtain ⟨i, hi⟩ := List.mem_iff_getElem?.1 (hspecs.mem hr)
  exact ⟨i, specs, ⟨entries, hentries, hspecs⟩, hi⟩

/-- **Transitions that are read back.** In a definition that is built, every transition of a rule
names a mode of the definition, if it names any, and is read back from its notation exactly if the
name of that mode can be written. In a definition that has been read, all transitions are read
back. -/
theorem carried_read_back [Regex.SizeLimit] (d : Definition) (next : Transition)
    (hnext : d.Carries next) :
    (∀ t, RuleTable.build d = .ok t →
      (∀ m ∈ next.target?, m ∈ d.modes.keys) ∧
        (Transition.parse next.toText = .ok next ↔
          ∀ m ∈ next.target?, Transition.isModeName m.toList)) ∧
    ∀ text, ofJsonText text = .ok d ∨ ofYamlText text = .ok d →
      Transition.parse next.toText = .ok next := by
  refine ⟨fun t hbuild ↦ ⟨fun m hm ↦ ?_, Transition.parse_toText_eq_ok_iff⟩, fun text hread ↦ ?_⟩
  · obtain ⟨library, hbuilt⟩ := RuleTable.build_eq_ok.1 hbuild
    obtain ⟨mode, entries, hentries, r, hr, rfl⟩ := hnext
    obtain ⟨i, hi⟩ := exists_ruleAt hbuilt hentries hr
    exact KeyMap.mem_keys_iff.2 (hbuilt.valid.targets_defined mode i r m hi hm)
  · exact Transition.parse_toText ((isWritable_of_ofText hread).of_carries hnext)

/-- A language with two kinds of remarks, in modes of which one can be named in a transition and the
other cannot. -/
def twoRemarks : Definition :=
  Definition.new "remarks" "root"
    |>.addMode "block-remark" [(Entry.token "#" "remark").pop, Entry.token "[^#]+" "remark"]
    |>.addMode "line remark" [(Entry.token "$" "").pop, Entry.token ".+" "remark"]
    |>.addMode "root" [(Entry.token "#" "remark").push "block-remark",
      (Entry.token ";" "remark").push "line remark"]

theorem exists_build_twoRemarks : ∃ t, RuleTable.build twoRemarks = .ok t :=
  exists_ok_of_isSome (by rfl)

theorem twoRemarks_block_read_back :
    (∃ t, RuleTable.build twoRemarks = .ok t ∧ twoRemarks.Carries (.push "block-remark") ∧
      Transition.parse (Transition.push "block-remark").toText = .ok (.push "block-remark")) ∧
    (ofJsonText pair.toJsonText = .ok pair ∧ pair.Carries (.push "pair") ∧
      Transition.parse (Transition.push "pair").toText = .ok (.push "pair")) := by
  obtain ⟨t, hbuild⟩ := exists_build_twoRemarks
  have hblock : twoRemarks.Carries (.push "block-remark") :=
    ⟨"root", _, rfl, _, List.mem_cons_self .., rfl⟩
  have hread : ofJsonText pair.toJsonText = .ok pair := ofJsonText_of_isWritable (by decide)
  have hpair : pair.Carries (.push "pair") := ⟨"root", _, rfl, _, List.mem_cons_self .., rfl⟩
  refine ⟨⟨t, hbuild, hblock, ?_⟩, hread, hpair,
    (carried_read_back _ _ hpair).2 _ (.inl hread)⟩
  exact ((carried_read_back _ _ hblock).1 t hbuild).2.2 (by decide)

/-- The notation of the transition to the mode with a blank in its name is refused. -/
theorem twoRemarks_line_not_read_back :
    (∃ t, RuleTable.build twoRemarks = .ok t) ∧ twoRemarks.Carries (.push "line remark") ∧
      Transition.parse (Transition.push "line remark").toText =
        .error (.malformed "@push line remark") :=
  ⟨exists_build_twoRemarks,
    ⟨"root", _, rfl, _, List.mem_cons_of_mem _ (List.mem_cons_self ..), rfl⟩, by cbv⟩

end Definition

end ModeLexer
