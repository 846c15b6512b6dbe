import ModeLexer.Proofs.Pattern.Words
import ModeLexer.Proofs.Scanner.Run

/-!
# Which rule is chosen

The first usable rule of the active mode is chosen, so the ones before it could not be used
(`exists_append_of_firstMatch?`), and there is one if any can be used (`isSome_firstMatch?`). A rule
that takes something can be used wherever its program can take a word (`exists_usable_of_takes`), so
where one can some rule is chosen (`exists_firstMatch?_of_takes`), and none of those before it can
(`not_takes_of_unusable`). If the pattern of the chosen rule is anchored, what it takes is a word of
its program at the cursor, and what is left is what stands behind that word
(`exists_word_of_firstMatch?`).
-/

namespace ModeLexer.Progress

open Text

variable {t : RuleTable} {p : Progress} {r : Rule} {m : PatternMatch}

/-- The rules before the one that is chosen could not be used. -/
theorem exists_append_of_firstMatch? (h : p.firstMatch? t = some (r, m)) :
    ∃ before after, t.rulesOf p.stack.active = before ++ r :: after ∧
      ∀ e ∈ before, ∀ m', e.pattern.matchRest p.cursor p.rest = some m' →
        p.isUsable e.action m' = false := by
  obtain ⟨before, r', after, hrules, hr, hbefore⟩ := List.findSome?_eq_some_iff.1 h
  split at hr
  · split at hr
    · obtain ⟨rfl, rfl⟩ := Prod.mk.inj (Option.some.inj hr)
      refine ⟨before, after, hrules, fun e he m' hm' ↦ ?_⟩
      have hnone := hbefore e he
      simpa [hm'] using hnone
    · simp at hr
  · simp at hr

/-- A rule is chosen where one can be used. -/
theorem isSome_firstMatch? (hr : r ∈ t.rulesOf p.stack.active)
    (hm : r.pattern.matchRest p.cursor p.rest = some m) (husable : p.isUsable r.action m) :
    (p.firstMatch? t).isSome := by
  rw [firstMatch?, List.findSome?_isSome_iff]
  exact ⟨r, hr, by simp [hm, husable]⟩

/-- What takes something can be used. -/
theorem isUsable_of_isEmpty_eq_false {a : Action} (h : m.span.isEmpty = false) :
    p.isUsable a m := by
  simp [isUsable, h]

/-- A rule that takes something can be used where it can take a word. -/
theorem exists_usable_of_takes (hr : r.pattern.isAnchored)
    (hstart : r.pattern.lineStartOnly = false) (hplain : r.pattern.regex.program.plain)
    (hconsumes : r.pattern.regex.program.consumes)
    {word rest : List Char} (hrest : p.rest = word ++ rest)
    (hword : r.pattern.regex.program.Takes none word rest) :
    ∃ m, r.pattern.matchRest p.cursor p.rest = some m ∧ p.isUsable r.action m := by
  have hsome : (r.pattern.matchRest p.cursor (word ++ rest)).isSome :=
    Pattern.isSome_matchRest hplain (by simp [hstart]) hword
  obtain ⟨m, hm⟩ := Option.isSome_iff_exists.1 hsome
  rw [← hrest] at hm
  exact ⟨m, hm, isUsable_of_isEmpty_eq_false (Pattern.isEmpty_span_eq_false hr hconsumes hm)⟩

/-- A rule is chosen where one can take a word. -/
theorem exists_firstMatch?_of_takes (hmem : r ∈ t.rulesOf p.stack.active)
    (hr : r.pattern.isAnchored) (hstart : r.pattern.lineStartOnly = false)
    (hplain : r.pattern.regex.program.plain) (hconsumes : r.pattern.regex.program.consumes)
    {word rest : List Char} (hrest : p.rest = word ++ rest)
    (hword : r.pattern.regex.program.Takes none word rest) :
    ∃ r' m, p.firstMatch? t = some (r', m) := by
  obtain ⟨m, hm, husable⟩ := exists_usable_of_takes hr hstart hplain hconsumes hrest hword
  obtain ⟨found, hfound⟩ := Option.isSome_iff_exists.1 (isSome_firstMatch? hmem hm husable)
  exact ⟨found.1, found.2, hfound⟩

/-- A rule that cannot be used can take no word. -/
theorem not_takes_of_unusable (hr : r.pattern.isAnchored)
    (hstart : r.pattern.lineStartOnly = false) (hplain : r.pattern.regex.program.plain)
    (hconsumes : r.pattern.regex.program.consumes)
    (h : ∀ m, r.pattern.matchRest p.cursor p.rest = some m → p.isUsable r.action m = false)
    {word rest : List Char} (hrest : p.rest = word ++ rest) :
    ¬r.pattern.regex.program.Takes none word rest := by
  intro hword
  obtain ⟨m, hm, husable⟩ := exists_usable_of_takes hr hstart hplain hconsumes hrest hword
  simp [h m hm] at husable

/-- An anchored rule takes a word of its program. -/
theorem exists_word_of_firstMatch? (h : p.firstMatch? t = some (r, m))
    (hr : r.pattern.isAnchored) :
    ∃ word rest, p.rest = word ++ rest ∧ r.pattern.regex.program.Takes none word rest ∧
      m.span = ⟨p.cursor, p.cursor + byteLength word⟩ ∧ p.restAt m.span.stop = rest := by
  obtain ⟨-, hmatch, -⟩ := matchRest_of_firstMatch? h
  obtain ⟨word, rest, hrest, hword, hspan⟩ := Pattern.exists_takes_of_matchRest hr hmatch
  refine ⟨word, rest, hrest, hword, hspan, ?_⟩
  rw [restAt, hspan, Nat.add_sub_cancel_left, hrest, splitAt?_byteLength]

end ModeLexer.Progress
