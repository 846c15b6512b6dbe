import ModeLexer.Proofs.Asm.Strings
import ModeLexer.Proofs.Scanner.LineEntry

/-!
# Lines depend on earlier ones through comments only

Without a comment, a line of the built-in language begins with the base mode alone, or with operands
or what follows a string on it (`eq_of_settled`). Those give every line back that is not empty
(`Outline.restartsAt_zero`), and with the base mode alone no rematch is tried again
(`Outline.entersAtBase`). So the line is scanned as if it were the only one (`lines_isolated`).
-/

namespace ModeLexer.Asm

open Regex

variable {t : RuleTable}

/-- Without a comment there is at most one mode on the base mode, and one that gives lines back. -/
theorem eq_of_settled {s : ModeStack} (hs : Settled s) (hcomment : comment ∉ s.toList) :
    s = ⟨root, []⟩ ∨ ∃ id ∈ [rest, segDirMsvcRest], s = ⟨root, [id]⟩ := by
  rcases hs.eq_or_exists with rfl | ⟨n, operands, hoperands, rfl⟩
  · exact .inr ⟨segDirMsvcRest, by simp, rfl⟩
  cases n with
  | succ n => simp [ModeStack.toList, List.replicate_succ] at hcomment
  | zero =>
    simp only [List.mem_cons, List.not_mem_nil, or_false] at hoperands
    rcases hoperands with rfl | rfl
    · exact .inl rfl
    · exact .inr ⟨rest, by simp, rfl⟩

/-- The program for whole lines takes every line. -/
theorem takes_wholeLine {line : List Char} (hline : '\n' ∉ line) :
    wholeLine.Takes none line [] := by
  have hrounds : ∀ {cs : List Char} (before : Option Char), '\n' ∉ cs →
      Rounds (Program.set (.compl (.single '\n'))).Takes before cs [] := by
    intro cs
    induction cs with
    | nil => exact fun _ _ ↦ .done
    | cons c cs ih =>
      intro before hcs
      obtain ⟨hc, hcs⟩ : c ≠ '\n' ∧ '\n' ∉ cs := by simpa [eq_comm] using hcs
      exact .more (u := [c]) ⟨c, by simp [Unicode.CharSet.contains_single, hc], rfl⟩ (ih _ hcs)
  exact ⟨[], line, rfl, ⟨rfl, rfl⟩, line, [], by simp, hrounds none hline, rfl, rfl⟩

namespace Outline

theorem entersAtBase (ht : Outline t) : t.EntersAtBase where
  lineStartOnly _ _ hr hrematch := ht.lineStartOnly_of_mem hr hrematch
  consumes r hr m haction := ht.consumes r (ht.base_eq ▸ hr) (by simp [haction])

/-- What is left on the base mode by an earlier line gives the next one back, unless it is empty. -/
theorem restartsAt_zero (ht : Outline t) {id : ModeId} (hid : id ∈ [rest, segDirMsvcRest])
    {line : List Char} (hline : '\n' ∉ line) (hne : line ≠ []) (number : Nat) :
    t.restartsAt number ⟨root, [id]⟩ line 0 := by
  obtain ⟨r, hr, hrematch, hprogram⟩ := ht.givesLineBack id hid
  obtain ⟨rules, hrules⟩ : ∃ rules, t.rulesOf id = r :: rules := List.head?_eq_some_iff.1 hr
  have htakes : r.pattern.regex.program.Takes none line [] := hprogram ▸ takes_wholeLine hline
  have hplain : r.pattern.regex.program.plain := by
    rw [hprogram]
    rfl
  have hsome : (r.pattern.matchRest 0 (line ++ [])).isSome :=
    Pattern.isSome_matchRest hplain (fun _ ↦ rfl) htakes
  obtain ⟨m, hm⟩ := Option.isSome_iff_exists.1 hsome
  rw [List.append_nil] at hm
  refine Progress.restarts_iff.2 ⟨hne, r, m, ?_, hrematch, rfl⟩
  have hactive : (t.stage number ⟨root, [id]⟩ line 0).stack.active = id := rfl
  rw [Progress.firstMatch?, hactive, hrules, List.findSome?_cons]
  have husable : (t.stage number ⟨root, [id]⟩ line 0).isUsable r.action m := by
    rw [Progress.isUsable, hrematch]
    simp [Progress.start, ModeStack.canPop]
  have hfound : r.pattern.matchRest (t.stage number ⟨root, [id]⟩ line 0).cursor
      (t.stage number ⟨root, [id]⟩ line 0).rest = some m := hm
  rw [hfound]
  simp only [husable, if_true]

/-- Without an open comment a line comes to what it comes to alone. -/
theorem scanLine_alone (ht : Outline t) {s : ScanState} (hs : Settled s.stack)
    (hcomment : comment ∉ s.stack.toList) {line : String} (hline : '\n' ∉ line.toList)
    (number number' : Nat) :
    (t.scanLine s number line).tokens.map Token.place =
        (t.scanLine t.initialState number' line).tokens.map Token.place ∧
      (line ≠ "" → (t.scanLine s number line).state =
        (t.scanLine t.initialState number' line).state) := by
  have hinitial : t.initialState.stack = ⟨root, []⟩ := by
    rw [RuleTable.initialState, ht.base_eq]
    rfl
  simp only [RuleTable.scanLine, hinitial]
  obtain ⟨hplaces, hstate⟩ := t.places_scanChars number number' ⟨root, []⟩ line.toList
  rcases eq_of_settled hs hcomment with hstack | ⟨id, hid, hstack⟩
  · rw [hstack]
    exact ⟨hplaces, fun _ ↦ hstate⟩
  by_cases hempty : line.toList = []
  · refine ⟨?_, fun hne ↦ absurd (String.toList_eq_nil_iff.1 hempty) hne⟩
    rw [hempty, RuleTable.scanChars_eq_result (n := 0) rfl,
      RuleTable.scanChars_eq_result (n := 0) rfl]
    rfl
  · have hpop : ModeStack.pop ⟨root, [id]⟩ = ⟨t.base, []⟩ := by
      rw [ht.base_eq]
      rfl
    have houtcome := ht.entersAtBase.outcome_scanChars hpop
      (ht.restartsAt_zero hid hline hempty number)
    rw [ht.base_eq] at houtcome
    obtain ⟨htokens, hstate'⟩ := Prod.mk.inj houtcome
    rw [hstack, htokens, hstate']
    exact ⟨hplaces, fun _ ↦ hstate⟩

end Outline

/-- **Isolation.** In a document in the built-in language whose lines hold no line breaks, a line
with no open comment before it comes to the tokens that it comes to alone, line numbers apart; and
unless it is empty it leaves the state that it leaves alone. -/
theorem lines_isolated :
    ∃ t, RuleTable.build definition = .ok t ∧
      ∀ lines : List String, (∀ l ∈ lines, '\n' ∉ l.toList) →
        ∀ (i : Nat) (line : String) (s : ScanState), lines[i + 1]? = some line →
          (t.tokenizeLines lines).endState? i = some s → "comment" ∉ s.describe t →
            ((t.tokenizeLines lines).line (i + 1)).map Token.place =
                ((t.tokenizeLines [line]).line 0).map Token.place ∧
              (line ≠ "" → (t.tokenizeLines lines).endState? (i + 1) =
                (t.tokenizeLines [line]).endState? 0) := by
  obtain ⟨t, hbuild, ht⟩ := exists_outline
  refine ⟨t, hbuild, fun lines hlines i line s hline hs hcomment ↦ ?_⟩
  have hafter := RuleTable.endState?_tokenizeLines t hs
  have hsettled : Settled s.stack := hafter ▸ ht.settled_after_begin hlines _
  have hnot : comment ∉ s.stack.toList := fun hmem ↦
    hcomment (List.mem_map.2 ⟨comment, hmem, ht.nameOf_comment⟩)
  obtain ⟨htokens, hstate⟩ := t.line_tokenizeLines hline
  have hfirst : [line][0]? = some line := rfl
  obtain ⟨htokens', hstate'⟩ := t.line_tokenizeLines hfirst
  rw [hafter] at htokens hstate
  have halone :=
    ht.scanLine_alone hsettled hnot (hlines line (List.mem_of_getElem? hline)) (i + 1) 0
  rw [htokens, hstate, htokens', hstate']
  exact ⟨halone.1, fun hne ↦ congrArg some (halone.2 hne)⟩

/-- After `ret` the mode for operands is left on the stack, and `nop` does not get to see it. -/
theorem nop_isolated :
    ∃ t, RuleTable.build definition = .ok t ∧
      (t.tokenizeLines ["ret", "nop"]).endState? 0 = some ⟨⟨root, [rest]⟩, 3⟩ ∧
      ((t.tokenizeLines ["ret", "nop"]).line 1).map Token.place =
        ((t.tokenizeLines ["nop"]).line 0).map Token.place ∧
      (t.tokenizeLines ["ret", "nop"]).endState? 1 = (t.tokenizeLines ["nop"]).endState? 0 := by
  obtain ⟨t, hbuild, h⟩ := lines_isolated
  obtain ⟨t', hbuild', hret, hstate, hnames⟩ : ∃ t, RuleTable.build definition = .ok t ∧
      (t.stage 0 ⟨t.base, []⟩ ['r', 'e', 't'] 1).rest = [] ∧
      (t.stage 0 ⟨t.base, []⟩ ['r', 'e', 't'] 1).result.state = ⟨⟨root, [rest]⟩, 3⟩ ∧
      "comment" ∉ ScanState.describe ⟨⟨root, [rest]⟩, 3⟩ t :=
    ⟨table, build_definition, by decide +kernel⟩
  obtain rfl : t = t' := Except.ok.inj (hbuild.symm.trans hbuild')
  have hend : (t.tokenizeLines ["ret", "nop"]).endState? 0 = some ⟨⟨root, [rest]⟩, 3⟩ := by
    have hfirst : ["ret", "nop"][0]? = some "ret" := rfl
    rw [(t.line_tokenizeLines hfirst).2, ← hstate, ← RuleTable.scanChars_eq_result hret]
    rfl
  obtain ⟨htokens, hstate⟩ :=
    h ["ret", "nop"] (by decide) 0 "nop" ⟨⟨root, [rest]⟩, 3⟩ rfl hend hnames
  exact ⟨t, hbuild, hend, htokens, hstate (by decide)⟩

end ModeLexer.Asm
