import ModeLexer.Proofs.Pattern.Expansion

/-!
# What a library is made of

The texts of a library are found by following references depth first and keeping each text that is
come to. `ofSources_resolves` is that nothing of this shows in the result: a library is had exactly
of patterns whose references are all defined and do not go round, and it holds for each name its
source with the references replaced by what it holds for them, whatever the order in which the names
are resolved. The bound on the depth is never met, since more of it changes nothing
(`resolve_eq_of_le`).
-/

namespace ModeLexer

namespace Pattern

/-- Resolvers that agree on the references of a pattern replace them by the same. -/
theorem substitute_congr {m : Type → Type} [Monad m] {resolve resolve' : String → m (List Char)}
    {ps : List Piece}
    (h : ∀ name, .reference name ∈ ps →
      resolve (String.ofList name) = resolve' (String.ofList name)) :
    substitute resolve ps = substitute resolve' ps := by
  induction ps with
  | nil => rfl
  | cons p ps ih =>
    have hps := ih fun name hname ↦ h name (List.mem_cons_of_mem _ hname)
    cases p with
    | char c => rw [substitute, hps, substitute]
    | reference name => rw [substitute, h name (List.mem_cons_self ..), hps, substitute]

/-- One pattern refers to another where its source has a reference to it. -/
theorem refersTo_iff {sources : KeyMap String} {name target : String} :
    RefersTo sources name target ↔
      ∃ source, sources.get? name = some source ∧ HasReference source.toList target :=
  exists_congr fun _ ↦ and_congr_right fun _ ↦ mem_references_iff

end Pattern

namespace PatternLibrary

open Pattern

variable {sources : KeyMap String} {l : PatternLibrary}

/-! ### The depth -/

/-- With as many steps left as there are names that have not come up, and one, further steps change
nothing. -/
theorem resolve_eq_of_le {fuel fuel' : Nat} {visiting : List String} {site : PatternSite}
    {name : String} (htrail : Trail (RefersTo sources) sources.keys visiting name)
    (hfuel : sources.size < visiting.length + fuel) (hle : fuel ≤ fuel') :
    resolve sources fuel' visiting site name = resolve sources fuel visiting site name := by
  induction fuel generalizing fuel' visiting site name with
  | zero =>
    have hlength := htrail.length_le
    rw [KeyMap.length_keys] at hlength
    omega
  | succ fuel ih =>
    obtain ⟨fuel', rfl⟩ : ∃ k, fuel' = k + 1 := ⟨fuel' - 1, by omega⟩
    -- the references of the pattern are followed with one name more on the trail
    have hreferences {source : String} (hsource : sources.get? name = some source)
        (hnew : name ∉ visiting) :
        substitute (m := Resolving) (resolve sources fuel' (visiting ++ [name]) (.pattern name))
            (Piece.ofChars source.toList) =
          substitute (resolve sources fuel (visiting ++ [name]) (.pattern name))
            (Piece.ofChars source.toList) := by
      refine substitute_congr fun target htarget ↦ ih ?_ ?_ (by omega)
      · exact htrail.extend (KeyMap.mem_keys_iff.2 ⟨source, hsource⟩) hnew
          ⟨source, hsource, mem_references.2 htarget⟩
      · rw [List.length_append, List.length_singleton]
        omega
    funext resolved
    simp only [resolve]
    split
    · rfl
    · split
      · rfl
      · next hnew =>
        split
        · rfl
        · next source hsource => rw [hreferences hsource (by simpa using hnew)]

/-! ### Which patterns make a library -/

/-- What is asked of patterns that are to be a library. -/
structure Resolvable (sources : KeyMap String) : Prop where
  defined : ∀ name target, RefersTo sources name target →
    ∃ source, sources.get? target = some source
  acyclic : Acyclic (RefersTo sources)

theorem Kept.resolvable {resolved : KeyMap String} (h : Kept sources sources.keys resolved) :
    Resolvable sources :=
  ⟨fun _ _ ↦ h.defined, h.acyclic⟩

/-- Names of patterns that can be resolved are, in any order and from any texts kept so far. -/
theorem Resolvable.exists_resolveAll (h : Resolvable sources) {names : List String}
    (hnames : names ⊆ sources.keys) {resolved : KeyMap String} (hkept : Kept sources [] resolved) :
    ∃ resolved', resolveAll sources names resolved = .ok resolved' := by
  cases hresolve : resolveAll sources names resolved with
  | ok resolved' => exact ⟨resolved', rfl⟩
  | error e =>
    rcases resolveAll_eq_error hnames hkept hresolve with
      ⟨cycle, -, hcloses⟩ | ⟨source, target, -, hrefers, hnone⟩
    · exact absurd h.acyclic (not_acyclic_of_closes hcloses)
    · exact absurd hnone (Option.ne_none_iff_exists'.2 (h.defined source target hrefers))

theorem exists_ofSources_iff : (∃ l, ofSources sources = .ok l) ↔ Resolvable sources := by
  constructor
  · rintro ⟨l, h⟩
    exact (kept_of_ofSources h).resolvable
  · intro h
    obtain ⟨resolved, hresolved⟩ := h.exists_resolveAll (List.Subset.refl _) (.empty sources)
    exact ⟨⟨resolved⟩, bind_eq_ok.2 ⟨resolved, hresolved, rfl⟩⟩

/-- Names may be resolved in any order, and repeatedly. -/
theorem resolveAll_eq_ok_iff {names : List String}
    (hnames : ∀ name, name ∈ names ↔ name ∈ sources.keys) :
    resolveAll sources names .empty = .ok l.resolved ↔ ofSources sources = .ok l := by
  have hsub : names ⊆ sources.keys := fun name ↦ (hnames name).1
  have hkept {resolved : KeyMap String} (h : resolveAll sources names .empty = .ok resolved) :
      Kept sources sources.keys resolved :=
    (resolveAll_eq_ok (.empty sources) h).mono fun name hname ↦ by simpa using (hnames name).2 hname
  constructor
  · intro h
    obtain ⟨l', hl'⟩ := exists_ofSources_iff.2 (hkept h).resolvable
    have heq : l' = l := congrArg mk ((kept_of_ofSources hl').unique (hkept h))
    rw [hl', heq]
  · intro h
    obtain ⟨resolved, hresolved⟩ :=
      (kept_of_ofSources h).resolvable.exists_resolveAll hsub (.empty sources)
    rw [hresolved, (hkept hresolved).unique (kept_of_ofSources h)]

/-- **Resolution.** Patterns make a library exactly if all their references are defined and do not
go round. The library then holds for each name its source with every reference replaced by the group
of what it holds for the name referred to. It is had in whatever order the names are resolved, and a
larger bound on the depth changes nothing. Where there is none, a cycle or a reference to a name
without a pattern is reported, and it is there. -/
theorem ofSources_resolves (sources : KeyMap String) :
    (∀ name target, RefersTo sources name target ↔
      ∃ source, sources.get? name = some source ∧ HasReference source.toList target) ∧
    ((∃ l, ofSources sources = .ok l) ↔ Resolvable sources) ∧
    (∀ l, ofSources sources = .ok l →
      (∀ name, l.get? name = none ↔ sources.get? name = none) ∧
      (∀ name source, sources.get? name = some source →
        (∀ target, HasReference source.toList target → ∃ text, l.get? target = some text) ∧
        l.get? name = some (l.expansion source))) ∧
    (∀ names l, (∀ name, name ∈ names ↔ name ∈ sources.keys) →
      (resolveAll sources names .empty = .ok l.resolved ↔ ofSources sources = .ok l)) ∧
    (∀ fuel, sources.size < fuel → ∀ name,
      resolve sources fuel [] .library name = resolveName sources name) ∧
    ∀ e, ofSources sources = .error e →
      (∃ names, e = .patternCycle names ∧ Closes (RefersTo sources) names) ∨
      ∃ source target, e = .unknownPattern target (.pattern source) ∧
        RefersTo sources source target ∧ sources.get? target = none := by
  refine ⟨fun name target ↦ refersTo_iff, exists_ofSources_iff, fun l hl ↦
    ⟨fun name ↦ get?_eq_none_iff hl, fun name source hsource ↦ ⟨fun target htarget ↦ ?_,
      get?_eq_some_expansion hl hsource⟩⟩, fun names l ↦ resolveAll_eq_ok_iff,
    fun fuel hfuel name ↦ resolve_eq_of_le (.start _ _ name) (by simp) hfuel,
    fun e ↦ ofSources_eq_error⟩
  rw [← Option.ne_none_iff_exists', ne_eq, get?_eq_none_iff hl]
  exact Option.ne_none_iff_exists'.2
    ((kept_of_ofSources hl).defined (refersTo_iff.2 ⟨source, hsource, htarget⟩))

/-- Two ways along references lead to one pattern, next to an at-sign that is escaped. -/
def joining : KeyMap String :=
  .ofList [("a", "@b@c"), ("b", "x@d"), ("c", "@d\\@d"), ("d", "0")]

theorem joining_resolves :
    Resolvable joining ∧ ∃ l, ofSources joining = .ok l ∧
      resolveAll joining ["d", "a", "c", "b", "a"] .empty = .ok l.resolved ∧
      l.get? "a" = some "(?:x(?:0))(?:(?:0)\\@d)" := by
  obtain ⟨-, hiff, -, horder, -⟩ := ofSources_resolves joining
  have hl : ofSources joining = .ok ⟨.ofList [("a", "(?:x(?:0))(?:(?:0)\\@d)"),
      ("b", "x(?:0)"), ("c", "(?:0)\\@d"), ("d", "0")]⟩ := by rfl
  have hnames (name : String) : name ∈ ["d", "a", "c", "b", "a"] ↔ name ∈ joining.keys := by
    have hkeys : joining.keys = ["a", "b", "c", "d"] := by rfl
    simp [hkeys]
    tauto
  exact ⟨hiff.1 ⟨_, hl⟩, _, hl, (horder _ _ hnames).2 hl, by rfl⟩

end PatternLibrary

end ModeLexer
