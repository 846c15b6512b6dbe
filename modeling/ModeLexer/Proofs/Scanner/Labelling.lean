import ModeLexer.Proofs.Regex.Capturing
import ModeLexer.Scanner.Layout

/-!
# Rules that label all that they take

The default class is for what no rule accounts for, but a rule with a class for each group leaves to
it what lies between its groups. `Rule.LabelsAll` tells by the form of a rule that it leaves
nothing: either all of a match is one token, or the groups make it up (`Pattern.CapturesAll`) and
each has a class. Then no token of the rule is of the default class (`Rule.LabelsAll.ne_default`).
-/

namespace ModeLexer

/-- Labelled groups that adjoin each other leave nothing to the default class. -/
theorem Layout.mem_classes_of_mem_groups {default : String} {classes : List (Option String)}
    (hsome : ∀ c ∈ classes, c.isSome) {gs : List Span} (hlen : gs.length = classes.length)
    {covered stop : Nat} (hadjoin : Span.Adjoin covered gs stop) {k : String × Span}
    (hk : k ∈ groups default stop covered (pairGroups classes (gs.map some))) :
    some k.1 ∈ classes := by
  induction classes generalizing gs covered with
  | nil =>
    obtain rfl : gs = [] := List.length_eq_zero_iff.1 hlen
    obtain rfl : covered = stop := hadjoin
    simp [pairGroups, groups, gap] at hk
  | cons c classes ih =>
    obtain ⟨hc, htail⟩ := List.forall_mem_cons.1 hsome
    obtain ⟨cls, rfl⟩ := Option.isSome_iff_exists.1 hc
    cases gs with
    | nil => simp at hlen
    | cons g gs =>
      obtain ⟨rfl, hle, hadjoin⟩ := hadjoin
      have hlen := Nat.succ.inj hlen
      rw [List.map_cons, pairGroups, groups] at hk
      split at hk
      · next hskip =>
        -- a group that is left out is empty
        have hstop : g.start = g.stop := by
          have := hadjoin.le
          simp only [Span.isEmpty, decide_eq_true_eq] at hskip
          omega
        rw [hstop] at hk
        exact List.mem_cons_of_mem _ (ih htail hlen hadjoin hk)
      · rw [gap, if_neg (Nat.lt_irrefl _), List.nil_append] at hk
        rcases List.mem_cons.1 hk with rfl | hk
        · exact List.mem_cons_self ..
        · exact List.mem_cons_of_mem _ (ih htail hlen hadjoin hk)

namespace Rule

/-- Whether a rule leaves nothing of what it takes to the default class, by its form. -/
def LabelsAll (default : String) : Rule → Prop
  | ⟨_, .whole cls, _⟩ => cls ≠ default
  | ⟨pattern, .groups classes, _⟩ =>
    pattern.CapturesAll ∧ pattern.groupCount = classes.length ∧
      ∀ c ∈ classes, c.isSome ∧ c ≠ some default

instance (default : String) : (r : Rule) → Decidable (r.LabelsAll default)
  | ⟨_, .whole _, _⟩ => inferInstanceAs (Decidable (_ ≠ _))
  | ⟨_, .groups _, _⟩ => inferInstanceAs (Decidable (_ ∧ _ ∧ _))

theorem LabelsAll.ne_default {default : String} {r : Rule} (hr : r.LabelsAll default)
    {offset : Nat} {rest : List Char} {m : PatternMatch}
    (hm : r.pattern.matchRest offset rest = some m) :
    ∀ k ∈ Layout.ofMatch default r.emission m, k.1 ≠ default := by
  intro k hk
  unfold Layout.ofMatch at hk
  split at hk
  · simp at hk
  obtain ⟨pattern, emission, action⟩ := r
  cases emission with
  | whole cls =>
    rw [List.mem_singleton.1 hk]
    exact hr
  | groups classes =>
    obtain ⟨hcaptures, hcount, hlabels⟩ := hr
    obtain ⟨gs, hgroups, hlen, hadjoin⟩ := Pattern.exists_adjoin_of_matchRest hcaptures hm
    rw [hgroups] at hk
    have hmem := Layout.mem_classes_of_mem_groups (fun c hc ↦ (hlabels c hc).1)
      (hlen.trans hcount) hadjoin hk
    exact fun heq ↦ (hlabels _ hmem).2 (congrArg some heq)

end Rule

end ModeLexer
