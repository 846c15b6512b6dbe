import ModeLexer.Proofs.Pattern.References

/-!
# What expanding comes to

`PatternLibrary.expansion` is the text of a source with each reference replaced by the group of what
the library holds for it. Expanding fails exactly at references that the library does not know and
gives this text otherwise (`expand_eq_ok_iff`), and the texts that a library holds are the
expansions of its sources (`get?_eq_some_expansion`).

A group is closed behind its text, whatever the text ends in: a name ends at the parenthesis, and a
backslash makes it a character like any other (`Piece.read_append_close`). So what is read from a
replaced text is the characters around the groups and what is read from the texts within them
(`hasNoReference_replaced`), and no text that is expanded refers to a pattern any more
(`references_expansion`).
-/

namespace ModeLexer

namespace Pattern

/-! ### Texts without references -/

/-- Whether no reference is read from a text, after what stands before it. -/
def HasNoReference (s : PieceState) (cs : List Char) : Prop :=
  ∀ name, .reference name ∉ Piece.read s cs

/-- A text has no references exactly if none is read from it. -/
theorem references_eq_nil_iff {cs : List Char} : references cs = [] ↔ HasNoReference .plain cs := by
  rw [List.eq_nil_iff_forall_not_mem]
  refine ⟨fun h name hname ↦ h _ (mem_references.2 hname), fun h name hname ↦ ?_⟩
  obtain ⟨cs', rfl⟩ := exists_ofList_eq name
  exact h cs' (mem_references.1 hname)

namespace Piece

/-- How a piece is written. -/
def spelling : Piece → List Char
  | .char c => [c]
  | .reference name => '@' :: name

/-- A piece with a reference replaced by the group of what `text` gives for its name. -/
def replacement (text : String → List Char) : Piece → List Char
  | .char c => [c]
  | .reference name => grouped (text (String.ofList name))

/-- What has been taken in but is not part of a piece yet. -/
def pending : PieceState → List Char
  | .plain | .escaped => []
  | .named name => '@' :: name

/-- What is flushed is written as what was pending. -/
theorem flatMap_spelling_flush (s : PieceState) : s.flush.flatMap spelling = pending s := by
  rcases s with _ | _ | _ | ⟨c, cs⟩ <;> simp [PieceState.flush, spelling, pending]

/-- Nothing is lost in a step: what is given and what is pending afterwards spell what was pending
and the character. -/
theorem flatMap_spelling_step (s : PieceState) (c : Char) :
    (s.step c).1.flatMap spelling ++ pending (s.step c).2 = pending s ++ [c] := by
  have hstart :
      (PieceState.start c).1.flatMap spelling ++ pending (PieceState.start c).2 = [c] := by
    unfold PieceState.start
    split_ifs with h h' <;> simp [spelling, pending, *]
  rcases s with _ | _ | name
  · exact hstart
  · rfl
  · rw [PieceState.step]
    split_ifs
    · simp [pending]
    · simp [flatMap_spelling_flush, hstart]

/-- Pieces are written as the text that they are read from. -/
theorem flatMap_spelling_read (s : PieceState) (cs : List Char) :
    (read s cs).flatMap spelling = pending s ++ cs := by
  induction cs generalizing s with
  | nil => rw [read, flatMap_spelling_flush, List.append_nil]
  | cons c cs ih =>
    rw [read, List.flatMap_append, ih, ← List.append_assoc, flatMap_spelling_step,
      List.append_assoc, List.singleton_append]

/-- Without references there is nothing to replace. -/
theorem flatMap_replacement_of_references {cs : List Char} (h : references cs = [])
    (text : String → List Char) : (ofChars cs).flatMap (replacement text) = cs := by
  have hclosed := references_eq_nil_iff.1 h
  calc (ofChars cs).flatMap (replacement text)
      = (ofChars cs).flatMap spelling := by
        refine List.flatMap_congr fun p hp ↦ ?_
        cases p with
        | char c => rfl
        | reference name => exact absurd hp (hclosed name)
    _ = cs := flatMap_spelling_read .plain cs

/-- A parenthesis ends the name that is read before it. -/
theorem read_append_close (s : PieceState) (inner rest : List Char) :
    read s (inner ++ ')' :: rest) = read s inner ++ .char ')' :: read .plain rest := by
  induction inner generalizing s with
  | nil =>
    have hends (name : List Char) : PieceState.continuesName name ')' = false := by
      simp [PieceState.continuesName, PieceState.startsName]
    rcases s with _ | _ | name <;> simp [read, PieceState.step, PieceState.start,
      PieceState.flush, hends]
  | cons c inner ih => rw [List.cons_append, read, ih, read, List.append_assoc]

/-- A group is read as its parentheses and its contents. -/
theorem read_grouped (inner rest : List Char) :
    read .plain (grouped inner ++ rest) =
      ['(', '?', ':'].map .char ++ read .plain inner ++ .char ')' :: read .plain rest := by
  simp [grouped, read, PieceState.step, PieceState.start, read_append_close]

end Piece

open Piece

/-- There is no reference in a group of a text that has none. -/
theorem hasNoReference_grouped {inner rest : List Char} (hinner : HasNoReference .plain inner)
    (hrest : HasNoReference .plain rest) : HasNoReference .plain (grouped inner ++ rest) := by
  intro name
  rw [read_grouped]
  simpa using ⟨hinner name, hrest name⟩

/-- A character other than the sign leaves a text without references. -/
theorem hasNoReference_cons {c : Char} {cs : List Char} (hc : c ≠ '@')
    (h : HasNoReference (PieceState.start c).2 cs) : HasNoReference .plain (c :: cs) := by
  have hstart : (PieceState.start c).1 = [.char c] := by
    unfold PieceState.start
    split_ifs <;> rfl
  intro name
  rw [Piece.read, PieceState.step, hstart]
  simpa using h name

/-- A bare at-sign stays one in front of what does not begin a name. -/
theorem hasNoReference_at {cs : List Char} (h : HasNoReference .plain cs)
    (hcs : ∀ c rest, cs = c :: rest → PieceState.continuesName [] c = false) :
    HasNoReference .plain ('@' :: cs) := by
  intro name
  have hread : Piece.read .plain ('@' :: cs) = Piece.read (.named []) cs := rfl
  rw [hread]
  cases cs with
  | nil => simp [Piece.read, PieceState.flush]
  | cons c cs =>
    rw [Piece.read_named (hcs c cs rfl)]
    simpa [PieceState.flush] using h name

/-! ### Replaced texts -/

/-- The state in which what is put in the place of a name is read. -/
def PieceState.resumed : PieceState → PieceState
  | .escaped => .escaped
  | .plain | .named _ => .plain

/-- Behind any other character than the sign nothing is pending that a replacement could change. -/
theorem PieceState.resumed_start {c : Char} (hc : c ≠ '@') :
    (PieceState.start c).2.resumed = (PieceState.start c).2 := by
  unfold PieceState.start
  split_ifs <;> rfl

namespace Piece

/-- The text of what is read from a text, with references replaced. -/
def replaced (text : String → List Char) (s : PieceState) (cs : List Char) : List Char :=
  (read s cs).flatMap (replacement text)

variable {text : String → List Char} {cs : List Char}

/-- Outside of references characters are kept as they are, and the sign begins a reference. -/
theorem replaced_plain_cons (text : String → List Char) (c : Char) (cs : List Char) :
    replaced text .plain (c :: cs) =
      if c = '@' then replaced text (.named []) cs
      else c :: replaced text (PieceState.start c).2 cs := by
  rw [replaced, read, PieceState.step, PieceState.start]
  split_ifs with h h' <;> simp_all [replaced, replacement]

/-- A name goes on as long as it can, and then its reference is replaced. -/
theorem replaced_named_cons {name : List Char} {c : Char} (cs : List Char) :
    replaced text (.named name) (c :: cs) =
      if PieceState.continuesName name c then replaced text (.named (name ++ [c])) cs
      else (PieceState.named name).flush.flatMap (replacement text) ++
        replaced text .plain (c :: cs) := by
  split_ifs with h
  · simp [replaced, read, PieceState.step, h]
  · rw [replaced, read_named (by simpa using h), List.flatMap_append, replaced]

/-- What stands in the place of a name begins with a character that begins no name. -/
theorem replaced_named_eq_cons (text : String → List Char) (name cs : List Char) :
    ∃ c rest, replaced text (.named name) cs = c :: rest ∧
      PieceState.continuesName [] c = false := by
  have hflush (name : List Char) : ∃ c rest,
      (PieceState.named name).flush.flatMap (replacement text) = c :: rest ∧
        PieceState.continuesName [] c = false := by
    cases name with
    | nil => exact ⟨'@', [], rfl, by decide⟩
    | cons d name => exact ⟨'(', _, rfl, by decide⟩
  induction cs generalizing name with
  | nil => exact hflush name
  | cons c cs ih =>
    rw [replaced_named_cons]
    split_ifs
    · exact ih (name ++ [c])
    · obtain ⟨d, rest, hd, hends⟩ := hflush name
      exact ⟨d, _, by rw [hd, List.cons_append], hends⟩

/-- What is put in the place of a text goes on no name before it, if the text does not. -/
theorem replaced_plain_eq_cons {c : Char} (hc : PieceState.continuesName [] c = false)
    (cs : List Char) :
    ∃ d rest, replaced text .plain (c :: cs) = d :: rest ∧
      PieceState.continuesName [] d = false := by
  rw [replaced_plain_cons]
  split_ifs
  · exact replaced_named_eq_cons text [] cs
  · exact ⟨c, _, rfl, hc⟩

end Piece

/-- Where no text that is put in holds a reference, there is none in the whole. The induction is on
what has not been read yet. -/
theorem hasNoReference_replaced {text : String → List Char} (s : PieceState) (cs : List Char)
    (htext : ∀ name, .reference name ∈ Piece.read s cs →
      HasNoReference .plain (text (String.ofList name))) :
    HasNoReference s.resumed (replaced text s cs) := by
  induction cs generalizing s with
  | nil =>
    have hnil (s : PieceState) (hs : s.flush = []) : HasNoReference s [] := by
      simp [HasNoReference, Piece.read, hs]
    rcases s with _ | _ | _ | ⟨c, name⟩
    · exact hnil .plain rfl
    · exact hnil .escaped rfl
    · exact hasNoReference_at (hnil .plain rfl) (by simp)
    · exact hasNoReference_grouped (htext (c :: name) (by simp [Piece.read, PieceState.flush]))
        (hnil .plain rfl)
  | cons c cs ih =>
    have hplain (h : ∀ name, .reference name ∈ Piece.read .plain (c :: cs) →
        HasNoReference .plain (text (String.ofList name))) :
        HasNoReference .plain (replaced text .plain (c :: cs)) := by
      have hrest := ih (PieceState.start c).2 fun name hname ↦
        h name (List.mem_append_right _ hname)
      rw [replaced_plain_cons]
      split_ifs with hat
      · subst hat
        exact hrest
      · rw [PieceState.resumed_start hat] at hrest
        exact hasNoReference_cons hat hrest
    rcases s with _ | _ | name
    · exact hplain htext
    · have hrest := ih .plain fun name hname ↦ htext name (List.mem_append_right _ hname)
      intro name
      simpa [PieceState.resumed, replaced, Piece.read, PieceState.step, replacement]
        using hrest name
    · rw [replaced_named_cons]
      split_ifs with hc
      · exact ih (.named (name ++ [c])) fun name' hname' ↦
          htext name' (by simpa [Piece.read, PieceState.step, hc] using hname')
      · rw [Piece.read_named (by simpa using hc)] at htext
        have hwhole := hplain fun name' hname' ↦ htext name' (List.mem_append_right _ hname')
        cases name with
        | nil =>
          obtain ⟨d, rest, hd, hends⟩ := replaced_plain_eq_cons (by simpa using hc) cs
          rw [hd] at hwhole ⊢
          refine hasNoReference_at hwhole fun c' rest' heq ↦ ?_
          obtain ⟨rfl, -⟩ := List.cons.inj heq
          exact hends
        | cons d name =>
          have hgroup := hasNoReference_grouped
            (htext (d :: name) (List.mem_append_left _ (by simp [PieceState.flush]))) hwhole
          simpa [PieceState.flush, PieceState.resumed, replacement] using hgroup

end Pattern

namespace PatternLibrary

open Pattern

variable {sources : KeyMap String} {l l' : PatternLibrary} {source : String} {site : PatternSite}

/-! ### Expanding with a library -/

/-- What a library holds for a name, and nothing for a name that it does not know. -/
def textOf (l : PatternLibrary) (name : String) : List Char := ((l.get? name).getD "").toList

/-- A source with each reference replaced by the group of what the library holds for it. -/
def expansion (l : PatternLibrary) (source : String) : String :=
  String.ofList (Piece.replaced l.textOf .plain source.toList)

/-- References are replaced exactly if the library holds something for all of them. -/
theorem substitute_lookup_eq_ok {ps : List Piece} {text : List Char} :
    substitute (l.lookup site) ps = .ok text ↔
      (∀ name, .reference name ∈ ps → ∃ inner, l.get? (String.ofList name) = some inner) ∧
        text = ps.flatMap (Piece.replacement l.textOf) := by
  induction ps generalizing text with
  | nil =>
    rw [substitute, pure_eq_ok, List.flatMap_nil, eq_comm]
    simp
  | cons p ps ih =>
    cases p with
    | char c =>
      simp only [substitute, bind_eq_ok, pure_eq_ok, ih, List.mem_cons, reduceCtorEq, false_or,
        List.flatMap_cons, Piece.replacement, List.singleton_append]
      constructor
      · rintro ⟨_, ⟨hdefined, rfl⟩, rfl⟩
        exact ⟨hdefined, rfl⟩
      · rintro ⟨hdefined, rfl⟩
        exact ⟨_, ⟨hdefined, rfl⟩, rfl⟩
    | reference name =>
      simp only [substitute, bind_eq_ok, pure_eq_ok, ih, lookup_eq_ok]
      constructor
      · rintro ⟨inner, hinner, rest, ⟨hdefined, rfl⟩, rfl⟩
        refine ⟨fun name' hname' ↦ ?_, ?_⟩
        · rcases List.mem_cons.1 hname' with heq | hmem
          · obtain rfl := Piece.reference.inj heq
            exact ⟨_, hinner⟩
          · exact hdefined name' hmem
        · simp [Piece.replacement, textOf, hinner]
      · rintro ⟨hdefined, rfl⟩
        obtain ⟨inner, hinner⟩ := hdefined name (List.mem_cons_self ..)
        refine ⟨inner.toList, by rw [hinner, String.ofList_toList], _,
          ⟨fun name' hname' ↦ hdefined name' (List.mem_cons_of_mem _ hname'), rfl⟩, ?_⟩
        simp [Piece.replacement, textOf, hinner]

/-- A source can be expanded exactly if the library knows all that it refers to, and it has one
expansion. -/
theorem expand_eq_ok_iff {text : String} :
    l.expand source site = .ok text ↔
      (∀ name ∈ references source.toList, ∃ inner, l.get? name = some inner) ∧
        text = l.expansion source := by
  have hnames : (∀ name ∈ references source.toList, ∃ inner, l.get? name = some inner) ↔
      ∀ name, .reference name ∈ Piece.ofChars source.toList →
        ∃ inner, l.get? (String.ofList name) = some inner := by
    refine ⟨fun h name hname ↦ h _ (mem_references.2 hname), fun h name hname ↦ ?_⟩
    obtain ⟨cs, rfl⟩ := exists_ofList_eq name
    exact h cs (mem_references.1 hname)
  simp only [expand, bind_eq_ok, pure_eq_ok, substitute_lookup_eq_ok, hnames]
  constructor
  · rintro ⟨_, ⟨hdefined, rfl⟩, rfl⟩
    exact ⟨hdefined, rfl⟩
  · rintro ⟨hdefined, rfl⟩
    exact ⟨_, ⟨hdefined, rfl⟩, rfl⟩

/-- A source without references is expanded to itself, whatever the library. -/
theorem expand_of_references (h : references source.toList = []) :
    l.expand source site = .ok source := by
  refine expand_eq_ok_iff.2 ⟨by simp [h], ?_⟩
  rw [expansion, Piece.replaced, ← Piece.ofChars, Piece.flatMap_replacement_of_references h,
    String.ofList_toList]

/-! ### The texts of a library -/

/-- What a pattern comes to is its pieces with references replaced by the texts of the library. -/
theorem flatMap_replacement_of_expands (h : ofSources sources = .ok l) {ps : List Piece}
    {text : List Char} (htext : Expands sources ps text) :
    text = ps.flatMap (Piece.replacement l.textOf) := by
  induction htext with
  | nil => rfl
  | char _ ih => rw [ih, List.flatMap_cons, Piece.replacement, List.singleton_append]
  | @reference name source ps inner text hsource hinner _ _ ih =>
    have hget : l.get? (String.ofList name) = some (String.ofList inner) := by
      rw [get?_eq_some_iff h, String.toList_ofList]
      exact ⟨source, hsource, hinner⟩
    rw [List.flatMap_cons, ← ih, Piece.replacement, textOf, hget, Option.getD_some,
      String.toList_ofList]

/-- A library holds for each name the expansion of its source. -/
theorem get?_eq_some_expansion (h : ofSources sources = .ok l) {name : String}
    (hsource : sources.get? name = some source) : l.get? name = some (l.expansion source) := by
  obtain ⟨text, htext⟩ := exists_expandsName h hsource
  obtain ⟨source', hsource', hexpands⟩ := htext
  obtain rfl := Option.some.inj (hsource.symm.trans hsource')
  have heq := flatMap_replacement_of_expands h hexpands
  rw [get?_eq_some_iff h, expansion, String.toList_ofList, Piece.replaced, ← Piece.ofChars, ← heq]
  exact ⟨source, hsource, hexpands⟩

/-- The texts that a pattern brings in refer to no pattern. The induction follows the references. -/
theorem references_textOf_of_expands (h : ofSources sources = .ok l) {ps : List Piece}
    {text : List Char} (htext : Expands sources ps text) {name : List Char}
    (hname : .reference name ∈ ps) : references (l.textOf (String.ofList name)) = [] := by
  induction htext generalizing name with
  | nil => simp at hname
  | char _ ih => exact ih (by simpa using hname)
  | @reference name source ps inner text hsource hinner _ ihinner ih =>
    rcases List.mem_cons.1 hname with heq | hmem
    · obtain rfl := Piece.reference.inj heq
      rw [references_eq_nil_iff, textOf, get?_eq_some_expansion h hsource, Option.getD_some,
        expansion, String.toList_ofList]
      exact hasNoReference_replaced .plain source.toList fun name hname ↦
        references_eq_nil_iff.1 (ihinner hname)
    · exact ih hmem

/-- The texts of a library have no references. -/
theorem references_textOf (h : ofSources sources = .ok l) (name : String) :
    references (l.textOf name) = [] := by
  cases hsource : sources.get? name with
  | none =>
    rw [textOf, (get?_eq_none_iff h).2 hsource]
    rfl
  | some source =>
    obtain ⟨text, source', hsource', htext⟩ := exists_expandsName h hsource
    obtain ⟨cs, rfl⟩ := exists_ofList_eq name
    exact references_textOf_of_expands h (.reference hsource' htext .nil)
      (List.mem_singleton_self _)

/-- An expansion refers to no pattern. -/
theorem references_expansion (h : ofSources sources = .ok l) (source : String) :
    references (l.expansion source).toList = [] := by
  rw [references_eq_nil_iff, expansion, String.toList_ofList]
  exact hasNoReference_replaced .plain source.toList fun name _ ↦
    references_eq_nil_iff.1 (references_textOf h _)

end PatternLibrary

end ModeLexer
