import ModeLexer.Proofs.Definition.Trail
import ModeLexer.Proofs.Table.FirstMistake
import ModeLexer.Table.Splice

/-!
# What includes come to

`Splices` says which rules the entries of a mode come to when includes are replaced by the rules of
the included modes; `RuleAt` is the rule of a mode at an index after that. Splicing a mode gives
those rules (`splice_eq_ok`), and where it gives none there is an include of an undefined mode or a
cycle of includes to show for it (`splice_eq_error`).
-/

namespace ModeLexer.Definition

variable {d : Definition} {es : List Entry} {mode : String}

/-! ### The rules of a mode -/

/-- The rules that entries come to, with every include replaced by the rules that the included mode
comes to. -/
inductive Splices (d : Definition) : List Entry → List RuleSpec → Prop
  | nil : Splices d [] []
  | rule {r : RuleSpec} {es : List Entry} {rs : List RuleSpec} (h : Splices d es rs) :
      Splices d (.rule r :: es) (r :: rs)
  | includeMode {mode : String} {entries es : List Entry} {inner rs : List RuleSpec}
      (hentries : d.modes.get? mode = some entries) (hinner : Splices d entries inner)
      (h : Splices d es rs) : Splices d (.includeMode mode :: es) (inner ++ rs)

/-- The rules that a mode comes to. -/
def SplicedRules (d : Definition) (mode : String) (rs : List RuleSpec) : Prop :=
  ∃ entries, d.modes.get? mode = some entries ∧ d.Splices entries rs

/-- Whether `r` is the rule of a mode at an index, after includes are spliced in. -/
def RuleAt (d : Definition) (mode : String) (index : Nat) (r : RuleSpec) : Prop :=
  ∃ rs, d.SplicedRules mode rs ∧ rs[index]? = some r

/-- Whether a mode includes another. -/
def Includes (d : Definition) (mode target : String) : Prop :=
  ∃ entries, d.modes.get? mode = some entries ∧ .includeMode target ∈ entries

theorem Splices.unique {rs rs' : List RuleSpec} (h : d.Splices es rs) (h' : d.Splices es rs') :
    rs = rs' := by
  induction h generalizing rs' with
  | nil =>
    cases h'
    rfl
  | rule _ ih =>
    cases h' with
    | rule h' => rw [ih h']
  | includeMode hentries _ _ ihinner ih =>
    cases h' with
    | includeMode hentries' hinner' h' =>
      obtain rfl := Option.some.inj (hentries.symm.trans hentries')
      rw [ihinner hinner', ih h']

theorem SplicedRules.unique {rs rs' : List RuleSpec} (h : d.SplicedRules mode rs)
    (h' : d.SplicedRules mode rs') : rs = rs' := by
  obtain ⟨entries, hentries, h⟩ := h
  obtain ⟨entries', hentries', h'⟩ := h'
  obtain rfl := Option.some.inj (hentries.symm.trans hentries')
  exact h.unique h'

theorem RuleAt.getElem?_eq {index : Nat} {r : RuleSpec} {rs : List RuleSpec}
    (h : d.RuleAt mode index r) (hrs : d.SplicedRules mode rs) : rs[index]? = some r := by
  obtain ⟨rs', hrs', hr⟩ := h
  rwa [hrs.unique hrs']

theorem Splices.mem {rs : List RuleSpec} (h : d.Splices es rs) {r : RuleSpec}
    (hr : .rule r ∈ es) : r ∈ rs := by
  induction h with
  | nil => simp at hr
  | rule _ ih =>
    rcases List.mem_cons.1 hr with heq | hmem
    · obtain rfl := Entry.rule.inj heq
      exact List.mem_cons_self ..
    · exact List.mem_cons_of_mem _ (ih hmem)
  | includeMode _ _ _ _ ih => exact List.mem_append_right _ (ih (by simpa using hr))

/-- Entries come to what their parts come to. -/
theorem splices_append {es' : List Entry} {rs : List RuleSpec} :
    d.Splices (es ++ es') rs ↔
      ∃ rs₁ rs₂, rs = rs₁ ++ rs₂ ∧ d.Splices es rs₁ ∧ d.Splices es' rs₂ := by
  constructor
  · intro h
    induction es generalizing rs with
    | nil => exact ⟨[], rs, rfl, .nil, h⟩
    | cons e es ih =>
      cases h with
      | rule h =>
        obtain ⟨rs₁, rs₂, rfl, h₁, h₂⟩ := ih h
        exact ⟨_, rs₂, rfl, .rule h₁, h₂⟩
      | includeMode hentries hinner h =>
        obtain ⟨rs₁, rs₂, rfl, h₁, h₂⟩ := ih h
        exact ⟨_, rs₂, by rw [List.append_assoc], .includeMode hentries hinner h₁, h₂⟩
  · rintro ⟨rs₁, rs₂, rfl, h₁, h₂⟩
    induction h₁ with
    | nil => exact h₂
    | rule _ ih => exact .rule ih
    | includeMode hentries hinner _ _ ih =>
      rw [List.append_assoc]
      exact .includeMode hentries hinner ih

/-- Where entries come to rules, every way along includes has an end. -/
theorem Splices.acc {rs : List RuleSpec} (h : d.Splices es rs) {target : String}
    (htarget : .includeMode target ∈ es) : Acc (fun a b ↦ d.Includes b a) target := by
  induction h generalizing target with
  | nil => simp at htarget
  | rule _ ih => exact ih (by simpa using htarget)
  | includeMode hentries _ _ ihinner ih =>
    rcases List.mem_cons.1 htarget with heq | hmem
    · obtain rfl := Entry.includeMode.inj heq
      refine .intro _ fun next hnext ↦ ?_
      obtain ⟨entries', hentries', hmem⟩ := hnext
      obtain rfl := Option.some.inj (hentries.symm.trans hentries')
      exact ihinner hmem
    · exact ih hmem

/-- Where entries come to rules, every include names a mode. -/
theorem Splices.defined {rs : List RuleSpec} (h : d.Splices es rs) {target : String}
    (htarget : .includeMode target ∈ es) : ∃ entries, d.modes.get? target = some entries := by
  induction h with
  | nil => simp at htarget
  | rule _ ih => exact ih (by simpa using htarget)
  | includeMode hentries _ _ _ ih =>
    rcases List.mem_cons.1 htarget with heq | hmem
    · obtain rfl := Entry.includeMode.inj heq
      exact ⟨_, hentries⟩
    · exact ih hmem

/-- A mode that comes to rules includes defined modes only. -/
theorem SplicedRules.defined {rs : List RuleSpec} (h : d.SplicedRules mode rs) {target : String}
    (hincludes : d.Includes mode target) : ∃ entries, d.modes.get? target = some entries := by
  obtain ⟨entries, hentries, h⟩ := h
  obtain ⟨entries', hentries', hmem⟩ := hincludes
  obtain rfl := Option.some.inj (hentries.symm.trans hentries')
  exact h.defined hmem

/-- A mode that comes to rules does not lead back to itself along includes. -/
theorem SplicedRules.not_transGen {rs : List RuleSpec} (h : d.SplicedRules mode rs) :
    ¬Relation.TransGen d.Includes mode mode := by
  obtain ⟨entries, hentries, h⟩ := h
  have hinclude : d.Splices [.includeMode mode] (rs ++ []) := .includeMode hentries h .nil
  exact not_transGen_of_acc (hinclude.acc (List.mem_singleton_self _))

/-! ### Splicing entries -/

section

variable {included : String → Except ConfigError (List RuleSpec)}

/-- Includes that are replaced by what their modes come to leave what the entries come to. -/
theorem splices_of_spliceEntries {rs : List RuleSpec}
    (hincluded : ∀ mode inner, included mode = .ok inner → d.SplicedRules mode inner)
    (h : spliceEntries included es = .ok rs) : d.Splices es rs := by
  induction es generalizing rs with
  | nil =>
    obtain rfl := Except.ok.inj h
    exact .nil
  | cons e es ih =>
    cases e with
    | rule r =>
      obtain ⟨rest, hrest, h⟩ := bind_eq_ok.1 h
      obtain rfl := pure_eq_ok.1 h
      exact .rule (ih hrest)
    | includeMode mode =>
      obtain ⟨inner, hinner, h⟩ := bind_eq_ok.1 h
      obtain ⟨rest, hrest, h⟩ := bind_eq_ok.1 h
      obtain rfl := pure_eq_ok.1 h
      obtain ⟨entries, hentries, hsplices⟩ := hincluded _ _ hinner
      exact .includeMode hentries hsplices (ih hrest)

/-- A mistake in entries is one in an include. -/
theorem exists_of_spliceEntries_eq_error {e : ConfigError}
    (h : spliceEntries included es = .error e) :
    ∃ target, .includeMode target ∈ es ∧ included target = .error e := by
  induction es with
  | nil => simp [spliceEntries] at h
  | cons entry es ih =>
    cases entry with
    | rule r =>
      rcases bind_eq_error.1 h with h | ⟨rest, -, h⟩
      · obtain ⟨target, hmem, htarget⟩ := ih h
        exact ⟨target, List.mem_cons_of_mem _ hmem, htarget⟩
      · simp [pure, Except.pure] at h
    | includeMode mode =>
      rcases bind_eq_error.1 h with h | ⟨inner, -, h⟩
      · exact ⟨mode, List.mem_cons_self .., h⟩
      · rcases bind_eq_error.1 h with h | ⟨rest, -, h⟩
        · obtain ⟨target, hmem, htarget⟩ := ih h
          exact ⟨target, List.mem_cons_of_mem _ hmem, htarget⟩
        · simp [pure, Except.pure] at h

end

/-! ### Splicing a mode -/

theorem spliceFrom_eq_ok {fuel : Nat} {visiting : List String} {rs : List RuleSpec}
    (h : d.spliceFrom fuel visiting mode = .ok rs) : d.SplicedRules mode rs := by
  induction fuel generalizing visiting mode rs with
  | zero => simp [spliceFrom] at h
  | succ fuel ih =>
    rw [spliceFrom] at h
    split at h
    · simp at h
    · split at h
      · simp at h
      · next entries hentries =>
        exact ⟨entries, hentries, splices_of_spliceEntries (fun _ _ hinner ↦ ih hinner) h⟩

/-- What is wrong where a mode is not spliced: a cycle, or an include of an undefined mode. -/
theorem spliceFrom_eq_error {fuel : Nat} {visiting : List String} {e : ConfigError}
    (htrail : Trail d.Includes d.modes.keys visiting mode)
    (hfuel : visiting.length + fuel = d.modes.size + 1)
    (hdefined : visiting = [] → ∃ entries, d.modes.get? mode = some entries)
    (h : d.spliceFrom fuel visiting mode = .error e) :
    (∃ modes, e = .includeCycle modes ∧ Closes d.Includes modes) ∨
      ∃ source target, e = .undefinedInclude source target ∧ d.Includes source target ∧
        d.modes.get? target = none := by
  induction fuel generalizing visiting mode with
  | zero =>
    -- the trail would be longer than there are modes
    have hle := htrail.length_le
    rw [KeyMap.length_keys] at hle
    omega
  | succ fuel ih =>
    rw [spliceFrom] at h
    split at h
    · next hcontains =>
      exact .inl ⟨_, (Except.error.inj h).symm, htrail.closes (by simpa using hcontains)⟩
    · next hcontains =>
      split at h
      · next hnone =>
        have hne : visiting ≠ [] := fun hnil ↦ by
          obtain ⟨entries, hentries⟩ := hdefined hnil
          simp [hnone] at hentries
        exact .inr ⟨_, mode, (Except.error.inj h).symm, htrail.rel_getLastD hne "", hnone⟩
      · next entries hentries =>
        obtain ⟨target, hmem, htarget⟩ := exists_of_spliceEntries_eq_error h
        have hextend := htrail.extend (KeyMap.mem_keys_iff.2 ⟨entries, hentries⟩)
          (by simpa using hcontains) ⟨entries, hentries, hmem⟩
        refine ih hextend ?_ (by simp) htarget
        rw [List.length_append, List.length_singleton]
        omega

theorem splice_eq_ok {rs : List RuleSpec} (h : d.splice mode = .ok rs) :
    d.SplicedRules mode rs :=
  spliceFrom_eq_ok h

theorem splice_eq_error {e : ConfigError} (hmode : mode ∈ d.modes.keys)
    (h : d.splice mode = .error e) :
    (∃ modes, e = .includeCycle modes ∧ Closes d.Includes modes) ∨
      ∃ source target, e = .undefinedInclude source target ∧ d.Includes source target ∧
        d.modes.get? target = none :=
  spliceFrom_eq_error (.start _ _ mode) (Nat.zero_add _) (fun _ ↦ KeyMap.mem_keys_iff.1 hmode) h

/-- Where all modes come to rules, splicing finds those of each. -/
theorem splice_eq_ok_of_splicedRules (hall : ∀ m ∈ d.modes.keys, ∃ rs, d.SplicedRules m rs)
    {rs : List RuleSpec} (h : d.SplicedRules mode rs) : d.splice mode = .ok rs := by
  have ⟨entries, hentries, _⟩ := h
  cases hsplice : d.splice mode with
  | ok rs' => rw [h.unique (splice_eq_ok hsplice)]
  | error e =>
    have hkeys {source target : String} (hincludes : d.Includes source target) :
        ∃ rs, d.SplicedRules source rs :=
      hall source (KeyMap.mem_keys_iff.2 ⟨_, hincludes.choose_spec.1⟩)
    rcases splice_eq_error (KeyMap.mem_keys_iff.2 ⟨entries, hentries⟩) hsplice with
      ⟨modes, -, hcloses⟩ | ⟨source, target, -, hincludes, hnone⟩
    · refine absurd (fun name hcycle ↦ ?_) (not_acyclic_of_closes hcloses)
      obtain ⟨next, hnext, -⟩ := Relation.TransGen.head'_iff.1 hcycle
      obtain ⟨rs', hrs'⟩ := hkeys hnext
      exact hrs'.not_transGen hcycle
    · obtain ⟨rs', hrs'⟩ := hkeys hincludes
      exact absurd hnone (Option.ne_none_iff_exists'.2 (hrs'.defined hincludes))

end ModeLexer.Definition
