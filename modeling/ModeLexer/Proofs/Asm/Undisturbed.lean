import ModeLexer.Proofs.Asm.Traits

/-!
# The built-in language needs no way out

The table of the built-in language is steady. So whatever the lines of a document are, also with
line breaks in them, no rematch is taken for a pop, empty matches never run out, and no pop or
switch is ignored: nothing that is reported is a warning. What no rule accounts for is passed one
character after the other (`scans_undisturbed`).
-/

namespace ModeLexer.Asm

/-- **No way out.** Over a document in the built-in language no warning is reported, and every token
of the default class is one character. After any lines and at any stage of a next one, no rematch is
taken for a pop, empty matches are still allowed, and no pop or switch is refused. -/
theorem scans_undisturbed :
    ∃ t, RuleTable.build definition = .ok t ∧ t.defaultToken = "invalid" ∧ ∀ lines : List String,
      (∀ n ∈ t.tokenizeNotices lines, n.level ≠ .warn) ∧
      (∀ (i : Nat) (line : String), lines[i]? = some line →
        ∀ k ∈ (t.tokenizeLines lines).line i, k.cls = "invalid" →
          ∃ c, k.text? line.toList = some [c]) ∧
      ∀ (line : String) (n : Nat),
        let s := (Session.begin t).after t lines
        let p := t.stage s.nextLine s.state.stack line.toList n
        p.demotes t = false ∧ p.allowsZeroWidth ∧ ¬p.Refuses t := by
  obtain ⟨t, hbuild, ht⟩ := exists_traits
  obtain ⟨library, hbuilt⟩ := RuleTable.build_eq_ok.1 hbuild
  refine ⟨t, hbuild, ht.defaultToken_eq, fun lines ↦
    ⟨ht.steady.level_ne_tokenizeNotices hbuilt lines, fun i line hline k hk hcls ↦ ?_,
      fun line n ↦ ?_⟩⟩
  · exact ht.steady.text?_eq_of_mem_line hbuilt hline k hk (hcls.trans ht.defaultToken_eq.symm)
  · have h := ht.steady.undisturbed_stage hbuilt (hbuilt.regular_after lines)
      ((Session.begin t).after t lines).nextLine line.toList n
    refine ⟨h.demotes_eq_false hbuilt ht.steady, ?_, hbuilt.not_refuses h.bottom_eq⟩
    rw [Progress.allowsZeroWidth, h.zeroWidthSteps_eq]
    rfl

/-- An escape in quotes, and a percent sign that no rule accounts for. -/
def lonePercent : String := "mov '\\n', %"

/-- The tokens that it comes to. -/
def lonePercentTokens : List Token :=
  [⟨"keyword", 0, ⟨0, 3⟩⟩, ⟨"white", 0, ⟨3, 4⟩⟩, ⟨"string", 0, ⟨4, 5⟩⟩,
    ⟨"string.escape", 0, ⟨5, 7⟩⟩, ⟨"string", 0, ⟨7, 8⟩⟩, ⟨"operator", 0, ⟨8, 9⟩⟩,
    ⟨"white", 0, ⟨9, 10⟩⟩, ⟨"invalid", 0, ⟨10, 11⟩⟩]

/-- The escape is laid out without a gap, and the percent sign is one token. -/
theorem lonePercent_undisturbed :
    ∃ t, RuleTable.build definition = .ok t ∧
      (∀ n ∈ t.tokenizeNotices [lonePercent], n.level ≠ .warn) ∧
      (t.tokenizeLines [lonePercent]).line 0 = lonePercentTokens ∧
      ∃ c, Token.text? ⟨"invalid", 0, ⟨10, 11⟩⟩ lonePercent.toList = some [c] := by
  obtain ⟨t, hbuild, -, h⟩ := scans_undisturbed
  obtain ⟨t', hbuild', hend, htokens⟩ : ∃ t, RuleTable.build definition = .ok t ∧
      (t.stage 0 t.initialState.stack lonePercent.toList 6).rest = [] ∧
      (t.stage 0 t.initialState.stack lonePercent.toList 6).result.tokens = lonePercentTokens :=
    ⟨table, build_definition, by decide +kernel⟩
  obtain rfl : t = t' := Except.ok.inj (hbuild.symm.trans hbuild')
  have hfirst : [lonePercent][0]? = some lonePercent := rfl
  have hline : (t.tokenizeLines [lonePercent]).line 0 = lonePercentTokens := by
    rw [← htokens, ← RuleTable.scanChars_eq_result hend]
    exact (t.line_tokenizeLines hfirst).1
  obtain ⟨hnotices, hinvalid, -⟩ := h [lonePercent]
  refine ⟨t, hbuild, hnotices, hline, hinvalid 0 lonePercent hfirst _ ?_ rfl⟩
  rw [hline]
  simp [lonePercentTokens]

end ModeLexer.Asm
