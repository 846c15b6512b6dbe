import ModeLexer.Proofs.Pattern.Anchoring
import ModeLexer.Proofs.Scanner.CaseBlind
import ModeLexer.Proofs.Table.Compiled

/-!
# Languages in which case does not matter

A definition can say that case does not matter in its rules. What is compiled for a pattern then
begins with `(?i)`, so if the pattern nowhere clears the flag again, all its sets are case-blind
(`Pattern.caseBlind_of_compile`). This does not ask for the parts of the pattern to be expressions
of their own: the flag stays in effect where a pattern closes the group around it.

Two lines that differ only in the case of ASCII letters are then scanned alike
(`RuleTable.scanLine_eq_of_ignoreCase`).
-/

namespace ModeLexer

open Regex

namespace Pattern

/-- The expression that is compiled for a pattern. -/
def expressionText (source : String) (ignoreCase : Bool) : List Char :=
  anchoredText ignoreCase (splitLookahead (stripLineStart source.toList).2).1
    (splitLookahead (stripLineStart source.toList).2).2

/-- Whether no group of flags in a pattern clears the flag under which case does not matter. -/
def keepsIgnoringCase (p : Pattern) : Bool :=
  match Term.parse (expressionText p.source true) with
  | .ok t => t.keepsIgnoringCase
  | .error _ => true

theorem source_of_compile [SizeLimit] {source : String} {ignoreCase : Bool} {p : Pattern}
    (h : compile source ignoreCase = .ok p) : p.source = source := by
  obtain ⟨regex, -, h⟩ := bind_eq_ok.1 h
  obtain rfl := pure_eq_ok.1 h
  rfl

/-- What is read behind `(?i)` begins with the flag and has brackets around its classes. -/
theorem reads_of_parse {cs : List Char} {t : Term}
    (h : Term.parse (['(', '?', 'i', ')'] ++ cs) = .ok t) :
    t.startsIgnoringCase ∧ t.BracketsNested := by
  obtain ⟨⟨t', s⟩, hread, h⟩ := bind_eq_ok.1 h
  simp only at h
  split at h
  · obtain rfl := pure_eq_ok.1 h
    rw [readBranches_ignoreCase] at hread
    have hreads := reads_of_readBranches hread
    exact ⟨hreads.startsIgnoringCase rfl (.inl ⟨rfl, [], rfl⟩),
      hreads.bracketsNested (List.forall_mem_singleton.2 trivial) (List.forall_mem_nil _)⟩
  · simp at h

theorem caseBlind_of_compile [SizeLimit] {source : String} {p : Pattern}
    (h : compile source true = .ok p) (hkeeps : p.keepsIgnoringCase) : p.CaseBlind := by
  obtain ⟨hregex, -⟩ := compile_eq_ok h
  obtain ⟨t, e, f, ht, hresolve, hprogram⟩ := Regex.exists_term_of_compile hregex
  have hchanges : ∀ fc ∈ t.changes, fc.value? .ignoreCase ≠ some false := by
    rw [keepsIgnoringCase, source_of_compile h, expressionText, ht] at hkeeps
    exact fun fc hfc ↦ bne_iff_ne.1 (List.all_eq_true.1 hkeeps fc hfc)
  rw [anchoredText_eq, if_pos rfl] at ht
  obtain ⟨hstart, hnested⟩ := reads_of_parse ht
  rw [CaseBlind, hprogram]
  exact (Term.caseBlind_of_resolve hchanges hnested (.inr hstart) hresolve).1.compile false 0

end Pattern

namespace RuleTable

section

variable [SizeLimit] {d : Definition} {library : PatternLibrary} {t : RuleTable}

/-- The pattern of a rule is compiled from its own text. -/
theorem CompiledFrom.compile_of_mem (h : CompiledFrom d library t) {id : ModeId} {r : Rule}
    (hr : r ∈ t.rulesOf id) : Pattern.compile r.pattern.source d.ignoreCase = .ok r.pattern := by
  obtain ⟨name, hname⟩ := h.exists_name (lt_of_mem_actionsOf (List.mem_map_of_mem hr))
  obtain ⟨specs, -, -, hrules⟩ := h.exists_specs hname
  obtain ⟨i, hi⟩ := List.mem_iff_getElem?.1 hr
  obtain ⟨spec, -, hrule⟩ := exists_spec_of_compileRules hrules hi
  obtain ⟨source, -, hpattern, -, -⟩ := compileRule_eq_ok.1 hrule
  have hcompile := mapError_eq_ok.1 hpattern
  rwa [Pattern.source_of_compile hcompile]

/-- The rules of a built table are case-blind if case does not matter in the definition and no
pattern makes it matter. -/
theorem caseBlind_of_build (hbuild : build d = .ok t) (hignore : d.ignoreCase)
    (hkeeps : ∀ m ∈ t.modes, ∀ r ∈ m.rules, r.pattern.keepsIgnoringCase) : t.CaseBlind := by
  obtain ⟨library, hbuilt⟩ := build_eq_ok.1 hbuild
  intro id r hr
  have hcompile := hbuilt.compile_of_mem hr
  rw [hignore] at hcompile
  refine Pattern.caseBlind_of_compile hcompile ?_
  unfold rulesOf at hr
  split at hr
  · next m hm => exact hkeeps m (List.mem_of_getElem? hm) r hr
  · exact absurd hr List.not_mem_nil

/-- **Blindness to case.** Where case does not matter in a definition and no pattern makes it
matter, two lines that differ only in the case of ASCII letters are scanned alike from any state: to
the same tokens, the same notices and the same state. -/
theorem scanLine_eq_of_ignoreCase (hbuild : build d = .ok t) (hignore : d.ignoreCase)
    (hkeeps : ∀ m ∈ t.modes, ∀ r ∈ m.rules, r.pattern.keepsIgnoringCase) {line line' : String}
    (hline : line.toList.map Char.toLower = line'.toList.map Char.toLower) (s : ScanState)
    (number : Nat) : t.scanLine s number line = t.scanLine s number line' := by
  have hblind := caseBlind_of_build hbuild hignore hkeeps
  calc
    t.scanChars number s.stack line.toList =
        t.scanChars number s.stack (line.toList.map Char.toLower) :=
      (hblind.scanChars_lower ..).symm
    _ = t.scanChars number s.stack (line'.toList.map Char.toLower) := by rw [hline]
    _ = t.scanChars number s.stack line'.toList := hblind.scanChars_lower ..

end

/-- A small language in which case does not matter, with a complement and a lookahead in which
there are letters, and a mode for comments. -/
def remarks : Definition :=
  Definition.new "remarks" "root" |>.setIgnoreCase true
    |>.addMode "root" [(Entry.token "rem\\b" "comment").push "line",
      Entry.token "[^\\Wa-f]+(?=;|B)" "name"]
    |>.addMode "line" [(Entry.token "End" "comment").pop]

/-- Two ways of writing one line of it. -/
theorem remarks_scanned_alike :
    ∃ t, build remarks = .ok t ∧ remarks.ignoreCase ∧
      (∀ m ∈ t.modes, ∀ r ∈ m.rules, r.pattern.keepsIgnoringCase) ∧
      "Gh; REM a eND Xb".toList.map Char.toLower = "gH; rem A end xB".toList.map Char.toLower ∧
      t.scanLine t.initialState 0 "Gh; REM a eND Xb" =
        t.scanLine t.initialState 0 "gH; rem A end xB" := by
  obtain ⟨t, hbuild, hkeeps⟩ : ∃ t, build remarks = .ok t ∧
      ∀ m ∈ t.modes, ∀ r ∈ m.rules, r.pattern.keepsIgnoringCase :=
    exists_ok_of_any (by decide +kernel)
  have hline : "Gh; REM a eND Xb".toList.map Char.toLower =
      "gH; rem A end xB".toList.map Char.toLower := by decide +kernel
  exact ⟨t, hbuild, rfl, hkeeps, hline, scanLine_eq_of_ignoreCase hbuild rfl hkeeps hline _ _⟩

end RuleTable

end ModeLexer
