import ModeLexer.Pattern.Library
import ModeLexer.Proofs.Definition.Trail
import ModeLexer.Proofs.Table.FirstMistake

/-!
# What references in patterns come to

`Expands` says which text a pattern comes to when its references are replaced, without a word about
how that is found out; a pattern comes to one text at most (`Expands.unique`). Resolving a name
gives that text (`resolve_eq_ok`), and where it gives none there is a name without a pattern or a
cycle of references to show for it (`resolve_eq_error`). `Kept` is what holds of the texts that have
been kept on the way. Since a text that a pattern comes to has been followed to the end, there is
one for every name only where all references are defined and do not go round (`Kept.defined`,
`Kept.acyclic`).
-/

namespace ModeLexer

namespace Pattern

variable {sources : KeyMap String} {ps : List Piece}

/-! ### The text that a pattern comes to -/

/-- The text that the pieces of a pattern come to, with every reference replaced by a group of the
text that the pattern of that name comes to. -/
inductive Expands (sources : KeyMap String) : List Piece → List Char → Prop
  | nil : Expands sources [] []
  | char {c : Char} {ps : List Piece} {text : List Char} (h : Expands sources ps text) :
      Expands sources (.char c :: ps) (c :: text)
  | reference {name : List Char} {source : String} {ps : List Piece} {inner text : List Char}
      (hsource : sources.get? (String.ofList name) = some source)
      (hinner : Expands sources (Piece.ofChars source.toList) inner)
      (h : Expands sources ps text) :
      Expands sources (.reference name :: ps) (grouped inner ++ text)

/-- The text that the pattern of a name comes to. -/
def ExpandsName (sources : KeyMap String) (name : String) (text : List Char) : Prop :=
  ∃ source, sources.get? name = some source ∧ Expands sources (Piece.ofChars source.toList) text

/-- Whether the pattern of a name refers to another. -/
def RefersTo (sources : KeyMap String) (name target : String) : Prop :=
  ∃ source, sources.get? name = some source ∧ target ∈ references source.toList

/-- A pattern comes to one text at most. -/
theorem Expands.unique {text text' : List Char} (h : Expands sources ps text)
    (h' : Expands sources ps text') : text = text' := by
  induction h generalizing text' with
  | nil =>
    cases h'
    rfl
  | char _ ih =>
    cases h' with
    | char h' => rw [ih h']
  | reference hsource _ _ ihinner ih =>
    cases h' with
    | reference hsource' hinner' h' =>
      obtain rfl := Option.some.inj (hsource.symm.trans hsource')
      rw [ihinner hinner', ih h']

/-- The pattern of a name comes to one text at most. -/
theorem ExpandsName.unique {name : String} {text text' : List Char}
    (h : ExpandsName sources name text) (h' : ExpandsName sources name text') : text = text' := by
  obtain ⟨source, hsource, h⟩ := h
  obtain ⟨source', hsource', h'⟩ := h'
  obtain rfl := Option.some.inj (hsource.symm.trans hsource')
  exact h.unique h'

theorem exists_ofList_eq (name : String) : ∃ cs, name = String.ofList cs :=
  ⟨name.toList, String.ofList_toList.symm⟩

/-- The references of a pattern are the names in its pieces. -/
theorem mem_references {cs : List Char} {name : List Char} :
    String.ofList name ∈ references cs ↔ .reference name ∈ Piece.ofChars cs := by
  rw [references, List.mem_filterMap]
  constructor
  · rintro ⟨_ | name', hmem, heq⟩
    · simp at heq
    · obtain rfl := String.ofList_inj.1 (Option.some.inj heq)
      exact hmem
  · intro h
    exact ⟨_, h, rfl⟩

/-- Where a text is come to, every way along references has an end. -/
theorem Expands.acc {text : List Char} (h : Expands sources ps text) {name : List Char}
    (hname : .reference name ∈ ps) :
    Acc (fun a b ↦ RefersTo sources b a) (String.ofList name) := by
  induction h generalizing name with
  | nil => simp at hname
  | char _ ih => exact ih (by simpa using hname)
  | reference hsource _ _ ihinner ih =>
    rcases List.mem_cons.1 hname with heq | hmem
    · obtain rfl := Piece.reference.inj heq
      refine .intro _ fun target htarget ↦ ?_
      obtain ⟨source', hsource', hmem⟩ := htarget
      obtain rfl := Option.some.inj (hsource.symm.trans hsource')
      obtain ⟨cs, rfl⟩ := exists_ofList_eq target
      exact ihinner (mem_references.1 hmem)
    · exact ih hmem

/-- Where a text is come to, every reference names a pattern. -/
theorem Expands.defined {text : List Char} (h : Expands sources ps text) {name : List Char}
    (hname : .reference name ∈ ps) : ∃ source, sources.get? (String.ofList name) = some source := by
  induction h with
  | nil => simp at hname
  | char _ ih => exact ih (by simpa using hname)
  | reference hsource _ _ _ ih =>
    rcases List.mem_cons.1 hname with heq | hmem
    · obtain rfl := Piece.reference.inj heq
      exact ⟨_, hsource⟩
    · exact ih hmem

/-! ### Replacing references -/

section

variable {σ ε : Type} {resolve : String → StateT σ (Except ε) (List Char)} {P : σ → Prop} {s : σ}

/-- References that are replaced by what their patterns come to leave what the pattern comes to.
What every reference keeps true of the state is kept by all of them. -/
theorem expands_of_substitute {text : List Char} {s' : σ}
    (hresolve : ∀ name inner s s', P s → resolve name s = .ok (inner, s') →
      ExpandsName sources name inner ∧ P s')
    (hs : P s) (h : substitute resolve ps s = .ok (text, s')) :
    Expands sources ps text ∧ P s' := by
  induction ps generalizing s text with
  | nil =>
    obtain ⟨rfl, rfl⟩ := Prod.mk.inj (Except.ok.inj h)
    exact ⟨.nil, hs⟩
  | cons p ps ih =>
    cases p with
    | char c =>
      obtain ⟨⟨rest, s₁⟩, hrest, h⟩ := bind_eq_ok.1 h
      obtain ⟨rfl, rfl⟩ := Prod.mk.inj (Except.ok.inj h)
      obtain ⟨hexpands, hs'⟩ := ih hs hrest
      exact ⟨.char hexpands, hs'⟩
    | reference name =>
      obtain ⟨⟨inner, s₁⟩, hinner, h⟩ := bind_eq_ok.1 h
      obtain ⟨⟨rest, s₂⟩, hrest, h⟩ := bind_eq_ok.1 h
      obtain ⟨rfl, rfl⟩ := Prod.mk.inj (Except.ok.inj h)
      obtain ⟨⟨source, hsource, hsourceText⟩, hs₁⟩ := hresolve _ _ _ _ hs hinner
      obtain ⟨hexpands, hs'⟩ := ih hs₁ hrest
      exact ⟨.reference hsource hsourceText hexpands, hs'⟩

/-- A mistake in a pattern is one in a reference, where those before it have been replaced. -/
theorem exists_of_substitute_eq_error {e : ε}
    (hresolve : ∀ name inner s s', P s → resolve name s = .ok (inner, s') → P s')
    (hs : P s) (h : substitute resolve ps s = .error e) :
    ∃ name s', .reference name ∈ ps ∧ P s' ∧ resolve (String.ofList name) s' = .error e := by
  have hpure {text : List Char} {s : σ} :
      (pure text : StateT σ (Except ε) (List Char)) s ≠ .error e := by
    intro h
    cases h
  induction ps generalizing s with
  | nil => exact absurd h hpure
  | cons p ps ih =>
    cases p with
    | char c =>
      rcases bind_eq_error.1 h with h | ⟨⟨rest, s₁⟩, -, h⟩
      · obtain ⟨name, s', hmem, hs', hname⟩ := ih hs h
        exact ⟨name, s', List.mem_cons_of_mem _ hmem, hs', hname⟩
      · exact absurd h hpure
    | reference name =>
      rcases bind_eq_error.1 h with h | ⟨⟨inner, s₁⟩, hinner, h⟩
      · exact ⟨name, s, List.mem_cons_self .., hs, h⟩
      · rcases bind_eq_error.1 h with h | ⟨⟨rest, s₂⟩, -, h⟩
        · obtain ⟨name', s', hmem, hs', hname⟩ := ih (hresolve _ _ _ _ hs hinner) h
          exact ⟨name', s', List.mem_cons_of_mem _ hmem, hs', hname⟩
        · exact absurd h hpure

/-- References that are replaced without a look at the state leave it as it is. -/
theorem substitute_lift (resolve : String → Except ε (List Char)) (ps : List Piece) :
    substitute (fun name ↦ (monadLift (resolve name) : StateT σ (Except ε) (List Char))) ps =
      monadLift (substitute resolve ps) := by
  induction ps with
  | nil => simp [substitute]
  | cons p ps ih => cases p <;> simp [substitute, ih]

end

end Pattern

namespace PatternLibrary

open Pattern

variable {sources : KeyMap String} {l : PatternLibrary}

/-! ### Resolving a name -/

/-- What holds of the texts that have been kept: each of them is what the pattern of its name comes
to, and there is one for each of some names. -/
structure Kept (sources : KeyMap String) (names : List String) (resolved : KeyMap String) :
    Prop where
  expandsName : ∀ name text, resolved.get? name = some text →
    ExpandsName sources name text.toList
  exists_text : ∀ name ∈ names, ∃ text, resolved.get? name = some text

namespace Kept

variable {names : List String} {resolved : KeyMap String}

/-- Nothing has been kept at the start. -/
theorem empty (sources : KeyMap String) : Kept sources [] .empty :=
  ⟨fun name text h ↦ by simp at h, fun name h ↦ by simp at h⟩

/-- What has been kept for some names has been kept for fewer. -/
theorem mono {names' : List String} (h : Kept sources names resolved) (hsub : names' ⊆ names) :
    Kept sources names' resolved :=
  ⟨h.expandsName, fun name hname ↦ h.exists_text name (hsub hname)⟩

/-- A text that is kept for one more name must be what the pattern of the name comes to. -/
theorem insert (h : Kept sources names resolved) {name : String} {text : List Char}
    (hname : ExpandsName sources name text) :
    Kept sources (name :: names) (resolved.insert name (String.ofList text)) where
  expandsName name' text' h' := by
    rw [KeyMap.get?_insert] at h'
    split at h'
    · next heq =>
      obtain rfl := Option.some.inj h'
      rwa [heq, String.toList_ofList]
    · exact h.expandsName name' text' h'
  exists_text name' hname' := by
    rw [KeyMap.get?_insert]
    split
    · exact ⟨_, rfl⟩
    · next hne => exact h.exists_text name' ((List.mem_cons.1 hname').resolve_left hne)

end Kept

/-- A name that is resolved gives what its pattern comes to, and its text is kept. -/
theorem resolve_eq_ok {fuel : Nat} {visiting names : List String} {site : PatternSite}
    {name : String} {text : List Char} {resolved resolved' : KeyMap String}
    (hkept : Kept sources names resolved)
    (h : resolve sources fuel visiting site name resolved = .ok (text, resolved')) :
    ExpandsName sources name text ∧ Kept sources (name :: names) resolved' := by
  induction fuel generalizing visiting site name text resolved resolved' names with
  | zero => simp [resolve] at h
  | succ fuel ih =>
    simp only [resolve] at h
    split at h
    · next kept hname =>
      obtain ⟨rfl, rfl⟩ := Prod.mk.inj (Except.ok.inj h)
      refine ⟨hkept.expandsName name kept hname, hkept.expandsName, ?_⟩
      exact List.forall_mem_cons.2 ⟨⟨kept, hname⟩, hkept.exists_text⟩
    · split at h
      · simp at h
      · split at h
        · simp at h
        · next source hsource =>
          obtain ⟨⟨text', resolved₁⟩, htext, h⟩ := bind_eq_ok.1 h
          obtain ⟨rfl, rfl⟩ := Prod.mk.inj (pure_eq_ok.1 h)
          obtain ⟨hexpands, hkept'⟩ := expands_of_substitute (P := Kept sources names)
            (fun _ _ _ _ hkept hinner ↦
              (ih hkept hinner).imp_right fun h ↦ h.mono (List.subset_cons_self ..)) hkept htext
          have hname : ExpandsName sources name text' := ⟨source, hsource, hexpands⟩
          exact ⟨hname, hkept'.insert hname⟩

/-- What is wrong where a name is not resolved: a cycle, the name itself, or a reference. -/
theorem resolve_eq_error {fuel : Nat} {visiting : List String} {site : PatternSite}
    {name : String} {resolved : KeyMap String} {e : ConfigError}
    (htrail : Trail (RefersTo sources) sources.keys visiting name)
    (hfuel : visiting.length + fuel = sources.size + 1) (hkept : Kept sources [] resolved)
    (h : resolve sources fuel visiting site name resolved = .error e) :
    (∃ names, e = .patternCycle names ∧ Closes (RefersTo sources) names) ∨
      (e = .unknownPattern name site ∧ sources.get? name = none) ∨
      ∃ source target, e = .unknownPattern target (.pattern source) ∧
        RefersTo sources source target ∧ sources.get? target = none := by
  induction fuel generalizing visiting site name resolved with
  | zero =>
    -- the trail would be longer than there are names
    have hle := htrail.length_le
    rw [KeyMap.length_keys] at hle
    omega
  | succ fuel ih =>
    simp only [resolve] at h
    split at h
    · simp at h
    split at h
    · next hcontains =>
      exact .inl ⟨_, (Except.error.inj h).symm, htrail.closes (by simpa using hcontains)⟩
    · next hcontains =>
      split at h
      · next hnone => exact .inr (.inl ⟨(Except.error.inj h).symm, hnone⟩)
      · next source hsource =>
        rcases bind_eq_error.1 h with h | ⟨_, -, h⟩
        · obtain ⟨target, resolved', hmem, hkept', hresolve⟩ := exists_of_substitute_eq_error
            (P := Kept sources [])
            (fun _ _ _ _ hkept hinner ↦ (resolve_eq_ok hkept hinner).2.mono (List.nil_subset _))
            hkept h
          have hrefers : RefersTo sources name (String.ofList target) :=
            ⟨source, hsource, mem_references.2 hmem⟩
          have hextend := htrail.extend (KeyMap.mem_keys_iff.2 ⟨source, hsource⟩)
            (by simpa using hcontains) hrefers
          have hfuel' : (visiting ++ [name]).length + fuel = sources.size + 1 := by
            rw [List.length_append, List.length_singleton]
            omega
          rcases ih hextend hfuel' hkept' hresolve with hcycle | ⟨rfl, hnone⟩ | hfound
          · exact .inl hcycle
          · exact .inr (.inr ⟨name, _, rfl, hrefers, hnone⟩)
          · exact .inr (.inr hfound)
        · simp [pure, Except.pure] at h

/-- A name that is not resolved leads into a cycle or to a name that is not defined. -/
theorem resolveName_eq_error {name : String} {resolved : KeyMap String} {e : ConfigError}
    (hname : name ∈ sources.keys) (hkept : Kept sources [] resolved)
    (h : resolveName sources name resolved = .error e) :
    (∃ names, e = .patternCycle names ∧ Closes (RefersTo sources) names) ∨
      ∃ source target, e = .unknownPattern target (.pattern source) ∧
        RefersTo sources source target ∧ sources.get? target = none := by
  rcases resolve_eq_error (.start _ _ name) (Nat.zero_add _) hkept h with
    hcycle | ⟨-, hnone⟩ | hfound
  · exact .inl hcycle
  · obtain ⟨source, hsource⟩ := KeyMap.mem_keys_iff.1 hname
    simp [hsource] at hnone
  · exact .inr hfound

/-! ### The library -/

/-- When all names are resolved, there is a text for each of them. -/
theorem resolveAll_eq_ok {names known : List String} {resolved resolved' : KeyMap String}
    (hkept : Kept sources known resolved) (h : resolveAll sources names resolved = .ok resolved') :
    Kept sources (names ++ known) resolved' := by
  induction names generalizing known resolved with
  | nil =>
    obtain rfl := Except.ok.inj h
    exact hkept
  | cons name names ih =>
    obtain ⟨⟨text, resolved₁⟩, hname, h⟩ := bind_eq_ok.1 h
    exact (ih (resolve_eq_ok hkept hname).2 h).mono List.perm_middle.symm.subset

/-- The first name that is not resolved leads into a cycle or to a name that is not defined. -/
theorem resolveAll_eq_error {names : List String} (hnames : names ⊆ sources.keys)
    {resolved : KeyMap String} {e : ConfigError} (hkept : Kept sources [] resolved)
    (h : resolveAll sources names resolved = .error e) :
    (∃ names, e = .patternCycle names ∧ Closes (RefersTo sources) names) ∨
      ∃ source target, e = .unknownPattern target (.pattern source) ∧
        RefersTo sources source target ∧ sources.get? target = none := by
  induction names generalizing resolved with
  | nil => simp [resolveAll] at h
  | cons name names ih =>
    obtain ⟨hname, hnames⟩ := List.cons_subset.1 hnames
    rcases bind_eq_error.1 h with h | ⟨⟨text, resolved₁⟩, hok, h⟩
    · exact resolveName_eq_error hname hkept h
    · exact ih hnames ((resolve_eq_ok hkept hok).2.mono (List.nil_subset _)) h

/-- A library has a text for every name that is defined. -/
theorem kept_of_ofSources (h : ofSources sources = .ok l) :
    Kept sources sources.keys l.resolved := by
  obtain ⟨resolved, hresolved, h⟩ := bind_eq_ok.1 h
  obtain rfl := pure_eq_ok.1 h
  simpa using resolveAll_eq_ok (.empty sources) hresolved

namespace Kept

variable {resolved : KeyMap String} {name : String}

/-- With a text for every name, every name that has a pattern comes to one. -/
theorem exists_expandsName (h : Kept sources sources.keys resolved) {source : String}
    (hsource : sources.get? name = some source) : ∃ text, ExpandsName sources name text := by
  obtain ⟨text, htext⟩ := h.exists_text name (KeyMap.mem_keys_iff.2 ⟨source, hsource⟩)
  exact ⟨_, h.expandsName name text htext⟩

/-- What is kept under all names is what their patterns come to. -/
theorem get?_eq_some_iff (h : Kept sources sources.keys resolved) {text : String} :
    resolved.get? name = some text ↔ ExpandsName sources name text.toList := by
  refine ⟨h.expandsName name text, fun hname ↦ ?_⟩
  have ⟨source, hsource, _⟩ := hname
  obtain ⟨text', htext'⟩ := h.exists_text name (KeyMap.mem_keys_iff.2 ⟨source, hsource⟩)
  rw [htext', String.toList_inj.1 ((h.expandsName name text' htext').unique hname)]

/-- The texts that are kept under all names are determined by the patterns. -/
theorem unique {resolved' : KeyMap String} (h : Kept sources sources.keys resolved)
    (h' : Kept sources sources.keys resolved') : resolved = resolved' :=
  KeyMap.ext_get? fun _ ↦ Option.ext fun _ ↦ h.get?_eq_some_iff.trans h'.get?_eq_some_iff.symm

/-- With a text for every name, all references name patterns. -/
theorem defined (h : Kept sources sources.keys resolved) {target : String}
    (hrefers : RefersTo sources name target) : ∃ source, sources.get? target = some source := by
  obtain ⟨source, hsource, hmem⟩ := hrefers
  obtain ⟨text, source', hsource', htext⟩ := h.exists_expandsName hsource
  obtain rfl := Option.some.inj (hsource.symm.trans hsource')
  obtain ⟨cs, rfl⟩ := exists_ofList_eq target
  exact htext.defined (mem_references.1 hmem)

/-- With a text for every name, references do not go round. -/
theorem acyclic (h : Kept sources sources.keys resolved) : Acyclic (RefersTo sources) := by
  intro name hcycle
  obtain ⟨target, ⟨source, hsource, -⟩, -⟩ := Relation.TransGen.head'_iff.1 hcycle
  obtain ⟨text, source', hsource', hexpands⟩ := h.exists_expandsName hsource
  obtain ⟨cs, rfl⟩ := exists_ofList_eq name
  have hreference : Expands sources [.reference cs] (grouped text ++ []) :=
    .reference hsource' hexpands .nil
  exact not_transGen_of_acc (hreference.acc (List.mem_singleton_self _)) hcycle

end Kept

/-- In a library every name that has a pattern comes to a text. -/
theorem exists_expandsName (h : ofSources sources = .ok l) {name source : String}
    (hsource : sources.get? name = some source) : ∃ text, ExpandsName sources name text :=
  (kept_of_ofSources h).exists_expandsName hsource

/-- The library holds for each name the text that its pattern comes to. -/
theorem get?_eq_some_iff (h : ofSources sources = .ok l) {name text : String} :
    l.get? name = some text ↔ ExpandsName sources name text.toList :=
  (kept_of_ofSources h).get?_eq_some_iff

/-- Names without a pattern are those that the library does not know. -/
theorem get?_eq_none_iff (h : ofSources sources = .ok l) {name : String} :
    l.get? name = none ↔ sources.get? name = none := by
  cases hsource : sources.get? name with
  | none =>
    refine iff_of_true (Option.eq_none_iff_forall_ne_some.2 fun text htext ↦ ?_) rfl
    obtain ⟨source, hsource', -⟩ := (get?_eq_some_iff h).1 htext
    simp [hsource] at hsource'
  | some source =>
    obtain ⟨text, htext⟩ := exists_expandsName h hsource
    have hl : l.get? name = some (String.ofList text) := by
      rw [get?_eq_some_iff h, String.toList_ofList]
      exact htext
    simp [hl]

/-- If there is no library, then some names refer to each other in a circle, or one refers to a name
that is not defined; the error says which. -/
theorem ofSources_eq_error {e : ConfigError} (h : ofSources sources = .error e) :
    (∃ names, e = .patternCycle names ∧ Closes (RefersTo sources) names) ∨
      ∃ source target, e = .unknownPattern target (.pattern source) ∧
        RefersTo sources source target ∧ sources.get? target = none := by
  rcases bind_eq_error.1 h with h | ⟨resolved, -, h⟩
  · exact resolveAll_eq_error (List.Subset.refl _) (.empty sources) h
  · simp [pure, Except.pure] at h

/-! ### Expanding with a library -/

/-- A name is found in a library exactly if it has a text there. -/
theorem lookup_eq_ok {site : PatternSite} {name : String} {text : List Char} :
    l.lookup site name = .ok text ↔ l.get? name = some (String.ofList text) := by
  unfold lookup
  split
  · next found hfound => simp [hfound, String.ext_iff]
  · next hnone => simp [hnone]

/-- The error for a name that is not found says which one and where it stands. -/
theorem lookup_eq_error {site : PatternSite} {name : String} {e : ConfigError} :
    l.lookup site name = .error e ↔ l.get? name = none ∧ e = .unknownPattern name site := by
  unfold lookup
  split
  · next hfound => simp [hfound]
  · next hnone => simp [hnone, eq_comm]

/-- What a pattern is expanded to with a library is what it comes to. -/
theorem expand_eq_ok (h : ofSources sources = .ok l) {source text : String} {site : PatternSite}
    (hexpand : l.expand source site = .ok text) :
    Expands sources (Piece.ofChars source.toList) text.toList := by
  obtain ⟨cs, hcs, hexpand⟩ := bind_eq_ok.1 hexpand
  obtain rfl := pure_eq_ok.1 hexpand
  rw [String.toList_ofList]
  have hstate : substitute (fun name ↦ StateT.lift (l.lookup site name))
      (Piece.ofChars source.toList) () = .ok (cs, ()) :=
    (congrFun (substitute_lift (l.lookup site) _) ()).trans (bind_eq_ok.2 ⟨cs, hcs, rfl⟩)
  refine (expands_of_substitute (P := fun _ ↦ True) (fun name inner _ _ _ hinner ↦ ?_) trivial
    hstate).1
  obtain ⟨inner, hlookup, heq⟩ := bind_eq_ok.1 hinner
  obtain ⟨rfl, -⟩ := Prod.mk.inj (pure_eq_ok.1 heq)
  have hname := (get?_eq_some_iff h).1 (lookup_eq_ok.1 hlookup)
  rw [String.toList_ofList] at hname
  exact ⟨hname, trivial⟩

/-- A pattern that is not expanded refers to a name that is not defined. -/
theorem expand_eq_error (h : ofSources sources = .ok l) {source : String} {site : PatternSite}
    {e : ConfigError} (hexpand : l.expand source site = .error e) :
    ∃ name, e = .unknownPattern name site ∧ name ∈ references source.toList ∧
      sources.get? name = none := by
  rcases bind_eq_error.1 hexpand with hexpand | ⟨cs, -, hexpand⟩
  · have hstate : substitute (fun name ↦ StateT.lift (l.lookup site name))
        (Piece.ofChars source.toList) () = .error e :=
      (congrFun (substitute_lift (l.lookup site) _) ()).trans (bind_eq_error.2 (.inl hexpand))
    obtain ⟨name, _, hmem, -, hname⟩ := exists_of_substitute_eq_error (P := fun _ ↦ True)
      (fun _ _ _ _ _ _ ↦ trivial) trivial hstate
    rcases bind_eq_error.1 hname with hlookup | ⟨_, -, hname⟩
    · obtain ⟨hnone, rfl⟩ := lookup_eq_error.1 hlookup
      exact ⟨_, rfl, mem_references.2 hmem, (get?_eq_none_iff h).1 hnone⟩
    · simp [pure, Except.pure] at hname
  · simp [pure, Except.pure] at hexpand

end PatternLibrary

end ModeLexer
