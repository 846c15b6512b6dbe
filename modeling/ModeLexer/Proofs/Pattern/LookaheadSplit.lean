import ModeLexer.Proofs.Pattern.ScanTerm
import ModeLexer.Proofs.Pattern.TrailingLookahead
import ModeLexer.Proofs.Regex.LookAround

/-!
# Which lookaheads are split off

The text of a pattern is cut into a body and a lookahead by a scan that is no reader of expressions.
It finds the lookahead behind every body that it passes over as the reader does (`Scannable`),
unless the body is an alternation, and then the pattern compiles if it is not nested too deep and
not too large (`WithinLimits`); behind an alternation the lookahead stays where it is, and is
refused (`compile_lookahead`).
-/

namespace ModeLexer

namespace Pattern

open Regex LookaheadScan

/-! ### Texts that are passed over -/

/-- Whether a text is an expression of its own that the scan passes over as the reader does. -/
structure Scannable (cs : List Char) (t : Term) (n : Nat) (names : List (List Char)) : Prop where
  standsFor : StandsFor cs t n names
  term : t.isScannable
  /-- No name of a group opens a class for the scan. -/
  names : ∀ name ∈ names, '[' ∉ name

theorem Scannable.passes {cs : List Char} {t : Term} {n : Nat} {names : List (List Char)}
    (h : Scannable cs t n names) : Passes t.isAlternation cs :=
  passes_of_standsFor h.standsFor h.term h.names

/-! ### Splitting -/

/-- Behind a text without a bar outside of all groups a lookahead at the end is found. -/
theorem lookaheadStart?_of_passes {body ahead : List Char} {bar : Bool} (hbody : Passes false body)
    (hahead : Passes bar ahead) :
    lookaheadStart? {} 0 (body ++ lookahead (ahead ++ [')'])) = some body.length := by
  have hscan := hbody {} 0 (lookahead (ahead ++ [')'])) rfl rfl
  rw [lookaheadStart?_append (lookahead_ne_nil _), Nat.zero_add]
  generalize ({} : LookaheadScan).pass 0 body (lookahead (ahead ++ [')'])) = s at hscan
  obtain ⟨candidate, hopen, -, hcandidate⟩ :=
    step_open hscan.escaped hscan.position body.length (['?', '='] ++ ahead ++ [')'])
  obtain rfl := hcandidate hscan.depth rfl
  -- the contents of the lookahead are in a group, where the candidate stays
  have hmark : Passes false ['?', '='] := .of_leads (.of_isPlain (isPlain_of_all (by decide)) rfl)
  have hscan' := hmark.append hahead
    { s with depth := s.depth + 1, candidate := some body.length } (body.length + 1) [')']
    hscan.escaped hscan.position
  have htext : lookahead (ahead ++ [')']) = ('(' :: (['?', '='] ++ ahead)) ++ [')'] := rfl
  have hcloses (s' : LookaheadScan) (h : PassedTo (false || bar)
      { s with depth := s.depth + 1, candidate := some body.length } s') (index : Nat) :
      lookaheadStart? s' index [')'] = some body.length := by
    simp [lookaheadStart?, closesOutermost, h.depth, h.position, h.escaped, h.alternation,
      hscan.depth, hscan.alternation, h.candidate (Nat.succ_pos _)]
  rw [htext, lookaheadStart?_append (List.cons_ne_nil _ _), LookaheadScan.pass, hopen]
  exact hcloses _ hscan' _

theorem splitLookahead_of_passes {body ahead : List Char} {bar : Bool} (hbody : Passes false body)
    (hahead : Passes bar ahead) :
    splitLookahead (body ++ lookahead (ahead ++ [')'])) = (body, some ahead) := by
  rw [splitLookahead, lookaheadStart?_of_passes hbody hahead]
  simp [lookahead]

/-- Behind a text with a bar outside of all groups no lookahead is found. -/
theorem splitLookahead_of_passes_bar {body more : List Char} (hbody : Passes true body)
    (hmore : more ≠ []) : splitLookahead (body ++ more) = (body ++ more, none) := by
  have hscan := hbody {} 0 more rfl rfl
  rw [splitLookahead, lookaheadStart?_append hmore,
    lookaheadStart?_of_alternation (by simp [hscan.alternation])]

/-! ### Compiling -/

section

variable [SizeLimit] {source : String} {caret ignoreCase : Bool} {whole body ahead more : List Char}
  {t u : Term} {n n' : Nat} {names names' : List (List Char)}

/-- Whether what is compiled for a body and a lookahead keeps to the limits of expressions. Two
levels are there for the groups around them. -/
structure WithinLimits (ignoreCase : Bool) (body ahead : List Char) (t u : Term) : Prop where
  body_depth : t.depth + 2 ≤ nestLimit
  ahead_depth : u.depth + 2 ≤ nestLimit
  fits : SizeLimit.fits (anchoredText ignoreCase body (some ahead))

/-- A pattern of which a lookahead is split off compiles exactly within the limits, if the two parts
are expressions of their own that give no name twice. -/
theorem exists_compile_iff_of_split (hsource : stripLineStart source.toList = (caret, whole))
    (hsplit : splitLookahead whole = (body, some ahead)) (hbody : StandsFor body t n names)
    (hahead : StandsFor ahead u n' names') (hnames : names'.Disjoint names) {b a : Expr}
    {f f' : Flags} (ht : t.resolve { ignoreCase } = .ok (b, f))
    (hu : u.resolve { ignoreCase } = .ok (a, f')) :
    (∃ p, compile source ignoreCase = .ok p ∧ p.source = source ∧ p.lineStartOnly = caret ∧
      p.hasLookahead) ↔ WithinLimits ignoreCase body ahead t u := by
  have hparse := (parse_anchoredText_ahead ignoreCase hbody hahead).resolve_right fun herror ↦
    herror.2 hnames
  have hresolve := Term.resolve_anchored ignoreCase
    (.concat (.capture 1 (t.shift 1)) (.group [] (u.shift (n + 1))))
  rw [resolve_groups ht hu] at hresolve
  have hlimits := exists_compile_iff hparse hresolve
  rw [Term.depth_anchored, Term.shift_eq_renumber, Term.shift_eq_renumber, Term.depth_renumber,
    Term.depth_renumber] at hlimits
  constructor
  · rintro ⟨p, hp, -⟩
    have hregex := (compile_eq_ok hp).1
    rw [hsource, hsplit] at hregex
    obtain ⟨hdepth, hfits⟩ := hlimits.1 ⟨_, hregex⟩
    exact ⟨by omega, by omega, hfits⟩
  · rintro ⟨hbody, hahead, hfits⟩
    obtain ⟨r, hr⟩ := hlimits.2 ⟨by omega, hfits⟩
    refine ⟨⟨source, r, caret, true⟩, ?_, rfl, rfl, rfl⟩
    rw [compile, hsource]
    simp only [hsplit, hr]
    rfl

/-- A pattern in which a lookahead is left is refused. -/
theorem compile_of_not_split
    (hsource : stripLineStart source.toList = (caret, body ++ lookahead more))
    (hsplit : splitLookahead (body ++ lookahead more) = (body ++ lookahead more, none))
    (hbody : StandsFor body t n names) : compile source ignoreCase = .error .lookAround := by
  obtain ⟨m, hm, hbegin⟩ :=
    exists_readBranches_anchoredText ignoreCase (body ++ lookahead more) none
  have hgroup := hbody.readBranches_lookahead (m := m + 1) (by simp at hm; omega) (more ++ [')'])
  have hread : readBranches (m + 2) (anchorItems ignoreCase) []
      ⟨groupsText (body ++ lookahead more) none, false, 0, []⟩ = .error .lookAround := by
    have htext : groupsText (body ++ lookahead more) none =
        ['(', '?', ':'] ++ (body ++ lookahead (more ++ [')'])) := by
      simp [groupsText, lookahead]
    have hpart : readPart false (groupsText (body ++ lookahead more) none) =
        .ok (.opening (.plain []), body ++ lookahead (more ++ [')'])) := by
      rw [htext]
      rfl
    have henter : Opening.enter ⟨groupsText (body ++ lookahead more) none, false, 0, []⟩
        (body ++ lookahead (more ++ [')'])) (.plain []) =
          ⟨body ++ lookahead (more ++ [')']), false, 0, []⟩ := rfl
    rw [readBranches_succ, hpart]
    simp only [bind, Except.bind, Part.act, Opening.clashes, henter, hgroup]
    rfl
  have hcompile : Regex.compile (anchoredText ignoreCase (body ++ lookahead more) none) =
      .error .lookAround := by
    rw [Regex.compile, Expr.parse, Term.parse, hbegin, hread]
    rfl
  rw [compile, hsource]
  simp only [hsplit, hcompile]
  rfl

/-- Behind a body that is no alternation a lookahead is split off, and the pattern compiles exactly
within the limits, behind a caret or without; behind an alternation it is left, whatever stands in
it, and is refused. -/
theorem compile_lookahead (hbody : Scannable body t n names) :
    (t.isAlternation = false → ∀ ahead u n' names', Scannable ahead u n' names' →
      splitLookahead (body ++ lookahead (ahead ++ [')'])) = (body, some ahead) ∧
      ∀ source caret ignoreCase b a f f',
        stripLineStart source.toList = (caret, body ++ lookahead (ahead ++ [')'])) →
        names'.Disjoint names →
        t.resolve { ignoreCase } = .ok (b, f) → u.resolve { ignoreCase } = .ok (a, f') →
        ((∃ p, compile source ignoreCase = .ok p ∧ p.source = source ∧ p.lineStartOnly = caret ∧
          p.hasLookahead) ↔ WithinLimits ignoreCase body ahead t u)) ∧
    (t.isAlternation → ∀ more,
      splitLookahead (body ++ lookahead more) = (body ++ lookahead more, none) ∧
      ∀ source caret ignoreCase,
        stripLineStart source.toList = (caret, body ++ lookahead more) →
        compile source ignoreCase = .error .lookAround) := by
  have hpasses := hbody.passes
  refine ⟨fun hsingle ahead u n' names' hahead ↦ ?_, fun halternation more ↦ ?_⟩
  · rw [hsingle] at hpasses
    have hsplit := splitLookahead_of_passes hpasses hahead.passes
    refine ⟨hsplit, fun source caret ignoreCase b a f f' hsource hnames ht hu ↦ ?_⟩
    exact exists_compile_iff_of_split hsource hsplit hbody.standsFor hahead.standsFor hnames ht hu
  · rw [halternation] at hpasses
    have hsplit := splitLookahead_of_passes_bar hpasses (lookahead_ne_nil more)
    refine ⟨hsplit, fun source caret ignoreCase hsource ↦ ?_⟩
    exact compile_of_not_split hsource hsplit hbody.standsFor

end

/-- A body with groups, and with classes within a class, in front of a lookahead with a parenthesis
in a class; and an alternation. -/
theorem classes_in_front_of_lookahead :
    splitLookahead "\\b(a|[b-d)]+)[[:alpha:]_]?(?=[;)]|$)".toList =
        ("\\b(a|[b-d)]+)[[:alpha:]_]?".toList, some "[;)]|$".toList) ∧
      (∃ p, compile "^\\b(a|[b-d)]+)[[:alpha:]_]?(?=[;)]|$)" false = .ok p ∧
        p.lineStartOnly = true ∧ p.hasLookahead) ∧
      compile "^foo|(bar)(?=:)" true = .error .lookAround := by
  have hbody : Scannable "\\b(a|[b-d)]+)[[:alpha:]_]?".toList _ 1 [] :=
    ⟨rfl, by decide, by decide⟩
  have hahead : Scannable "[;)]|$".toList _ 0 [] := ⟨rfl, by decide, by decide⟩
  have halternation : Scannable "foo|(bar)".toList _ 1 [] := ⟨rfl, by decide, by decide⟩
  obtain ⟨hsplit, hcompile⟩ := (compile_lookahead hbody).1 rfl _ _ _ _ hahead
  obtain ⟨p, hp, -, hcaret, hlook⟩ := (hcompile
    "^\\b(a|[b-d)]+)[[:alpha:]_]?(?=[;)]|$)" true false _ _ _ _ (by decide)
    (List.disjoint_nil_left _) rfl rfl).2 ⟨by decide, by decide, by decide⟩
  exact ⟨hsplit, ⟨p, hp, hcaret, hlook⟩,
    ((compile_lookahead halternation).2 rfl [':', ')']).2 _ true true (by decide)⟩

/-- In a class within a class a bar can stand outside of classes for the scan, and the lookahead
behind it is left. -/
theorem nested_class_not_split :
    (∃ t u, StandsFor "[[a]|b]".toList t 0 [] ∧ t.isAlternation = false ∧
      StandsFor ['c'] u 0 []) ∧
      (∃ r, Regex.compile "[[a]|b]".toList = .ok r) ∧ (∃ r, Regex.compile ['c'] = .ok r) ∧
      splitLookahead "[[a]|b](?=c)".toList = ("[[a]|b](?=c)".toList, none) ∧
      compile "[[a]|b](?=c)" false = .error .lookAround :=
  ⟨⟨_, _, rfl, rfl, rfl⟩, ⟨_, rfl⟩, ⟨_, rfl⟩, by decide, by decide⟩

end Pattern

end ModeLexer
