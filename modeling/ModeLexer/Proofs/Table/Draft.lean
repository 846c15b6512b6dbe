import ModeLexer.Proofs.Table.Compiled
import ModeLexer.Proofs.Text.Ascii

/-!
# Drafts of tables

`build` stops at the first mistake, so whether there is a table at all is known only when all of it
has been built. The *draft* of a table is made without looking for mistakes, with something harmless
in the place of what does not compile; each part of it can be worked out without the others. If all
rules compile and the checks of the whole table are passed, the draft is the table
(`build_eq_draft`).

Drafts are there to be computed with. To decode a text is what takes longest in that, so texts of
ASCII are not decoded (`Text.charsOf`).
-/

namespace ModeLexer

/-! ### Drafts of rules -/

/-- Compiles a pattern given by its characters. -/
def Pattern.compileChars [Regex.SizeLimit] (cs : List Char) (ignoreCase : Bool) :
    Except Regex.Error Pattern := do
  let (lineStartOnly, whole) := stripLineStart cs
  let (body, ahead) := splitLookahead whole
  let regex ← Regex.compile (anchoredText ignoreCase body ahead)
  return { source := String.ofList cs, regex, lineStartOnly, hasLookahead := ahead.isSome }

theorem Pattern.compile_ofList [Regex.SizeLimit] (cs : List Char) (ignoreCase : Bool) :
    compile (String.ofList cs) ignoreCase = compileChars cs ignoreCase := by
  rw [compile, compileChars, String.toList_ofList]

namespace RuleTable

/-- A result that is there is what comes out of it, whatever is taken in its place. -/
theorem eq_ok_getD {ε α : Type} {x : Except ε α} (h : x.toOption.isSome) (a : α) :
    x = .ok (x.toOption.getD a) := by
  cases x with
  | ok b => rfl
  | error e => simp [Except.toOption] at h

/-- What succeeds for each member of a list is a map of it. -/
theorem mapM_eq_map {ε α β : Type} {f : α → Except ε β} {g : α → β} {as : List α}
    (h : ∀ a ∈ as, f a = .ok (g a)) : as.mapM f = .ok (as.map g) :=
  mapM_eq_ok.2 (List.forall₂_map_right_iff.2 (List.forall₂_same.2 h))

variable (d : Definition) (library : PatternLibrary)

/-- The characters that a reference is replaced by. -/
def charsAt (site : PatternSite) (name : String) : Except ConfigError (List Char) :=
  match library.get? name with
  | some text => .ok (Text.charsOf text)
  | none => .error (.unknownPattern name site)

theorem charsAt_eq (site : PatternSite) : charsAt library site = library.lookup site := by
  funext name
  rw [charsAt, PatternLibrary.lookup]
  cases library.get? name with
  | none => rfl
  | some text => exact congrArg Except.ok (Text.charsOf_eq text)

variable [Regex.SizeLimit]

/-- The pattern of a rule, made of characters all the way. -/
def patternAt (site : PatternSite) (regex : String) : Except ConfigError Pattern := do
  let text ← Pattern.substitute (charsAt library site)
    (Pattern.Piece.ofChars (Text.charsOf regex))
  (Pattern.compileChars text d.ignoreCase).mapError (.invalidPattern site)

theorem patternAt_eq_ok {site : PatternSite} {regex : String} {p : Pattern} :
    patternAt d library site regex = .ok p ↔
      ∃ source, library.expand regex site = .ok source ∧
        PatternLibrary.compileAt site source d.ignoreCase = .ok p := by
  simp only [patternAt, PatternLibrary.expand, PatternLibrary.compileAt, charsAt_eq,
    Text.charsOf_eq, bind_eq_ok, pure_eq_ok]
  constructor
  · rintro ⟨text, htext, hp⟩
    exact ⟨_, ⟨text, htext, rfl⟩, Pattern.compile_ofList text d.ignoreCase ▸ hp⟩
  · rintro ⟨_, ⟨text, htext, rfl⟩, hp⟩
    exact ⟨text, htext, Pattern.compile_ofList text d.ignoreCase ▸ hp⟩

/-- The rule that a specification comes to; a pattern that does not compile is replaced by one that
matches the empty text, and a transition without a target by staying. -/
def draftRule (mode : String) (id : ModeId) (index : Nat) (spec : RuleSpec) : Rule where
  pattern := (patternAt d library (.rule mode index) spec.regex).toOption.getD
    ⟨"", ⟨.empty, 0⟩, false, false⟩
  emission := resolveLabels d.defaultToken spec.labels
  action := (resolveTransition d.modes.keys mode id index spec.next).toOption.getD .stay

/-- Whether a specification has a pattern that compiles and a target that is defined. -/
def RuleCompiles (mode : String) (id : ModeId) (index : Nat) (spec : RuleSpec) : Prop :=
  (patternAt d library (.rule mode index) spec.regex).toOption.isSome ∧
    (resolveTransition d.modes.keys mode id index spec.next).toOption.isSome

instance (mode : String) (id : ModeId) (index : Nat) (spec : RuleSpec) :
    Decidable (RuleCompiles d library mode id index spec) :=
  inferInstanceAs (Decidable (_ ∧ _))

variable {d library}

theorem RuleCompiles.compileRule_eq {mode : String} {id : ModeId} {index : Nat} {spec : RuleSpec}
    (h : RuleCompiles d library mode id index spec) :
    compileRule d library mode id index spec = .ok (draftRule d library mode id index spec) := by
  obtain ⟨hpattern, haction⟩ := h
  obtain ⟨source, hsource, hcompile⟩ := (patternAt_eq_ok d library).1 (eq_ok_getD hpattern _)
  exact compileRule_eq_ok.2 ⟨source, hsource, hcompile, eq_ok_getD haction _, rfl⟩

/-! ### Drafts of modes and tables -/

variable (d library)

/-- The spliced rules of a mode, or none if an include does not resolve. -/
def draftSpecs (name : String) : List RuleSpec := (d.splice name).toOption.getD []

/-- The mode that a name comes to. -/
def draftMode (id : ModeId) (name : String) : Mode where
  name := name
  rules := (draftSpecs d name).zipIdx.map fun s ↦ draftRule d library name id s.2 s.1

/-- Whether a mode has rules, all of which compile. -/
def ModeCompiles (id : ModeId) (name : String) : Prop :=
  draftSpecs d name ≠ [] ∧
    ∀ s ∈ (draftSpecs d name).zipIdx, RuleCompiles d library name id s.2 s.1

instance (id : ModeId) (name : String) : Decidable (ModeCompiles d library id name) :=
  inferInstanceAs (Decidable (_ ∧ _))

/-- The table that a definition comes to. -/
def draft (base : ModeId) : RuleTable where
  language := d.name
  modes := d.modes.keys.zipIdx.map fun n ↦ draftMode d library n.2 n.1
  base := base
  defaultToken := d.defaultToken

variable {d library}

theorem ModeCompiles.compileMode_eq {id : ModeId} {name : String}
    (h : ModeCompiles d library id name) :
    compileMode d library id name = .ok (draftMode d library id name) := by
  obtain ⟨hne, hrules⟩ := h
  have hspecs : d.splice name = .ok (draftSpecs d name) := by
    cases hsplice : d.splice name with
    | ok specs => rw [draftSpecs, hsplice]; rfl
    | error e => exact absurd (by rw [draftSpecs, hsplice]; rfl) hne
  refine compileMode_eq_ok.2 ⟨rfl, _, hspecs, hne, ?_⟩
  rw [compileRules_eq_mapM]
  exact mapM_eq_map fun s hs ↦ (hrules s hs).compileRule_eq

/-- If all rules compile and the checks of the whole table are passed, the draft is the table. -/
theorem build_eq_draft {base : ModeId}
    (hlibrary : PatternLibrary.ofSources d.patterns = .ok library)
    (hbase : d.modes.keys.idxOf? d.baseMode = some base)
    (hmodes : ∀ n ∈ d.modes.keys.zipIdx, ModeCompiles d library n.2 n.1)
    (hcheck : (draft d library base).check = .ok ()) :
    build d = .ok (draft d library base) := by
  refine build_eq_ok.2 ⟨library, ⟨hlibrary, hbase, ?_, rfl, rfl⟩, hcheck⟩
  rw [compileModes_eq_mapM]
  exact mapM_eq_map fun n hn ↦ (hmodes n hn).compileMode_eq

end RuleTable

end ModeLexer
