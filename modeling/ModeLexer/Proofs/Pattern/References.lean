import Mathlib.Algebra.Ring.Parity
import ModeLexer.Proofs.Pattern.Resolution

/-!
# Where references stand

A pattern is taken apart character by character; `HasReference` says without that where a reference
stands. It is an at-sign with a name behind it that does not go on, and it is not escaped: an even
number of backslashes stand right before it, since in a row of them each second one is escaped
(`PieceState.after_eq_escaped_iff`). These are the references that are read (`mem_references_iff`).
-/

namespace ModeLexer.Pattern

/-- Whether a character may stand in a name behind the first one. -/
def isNameChar (c : Char) : Bool := PieceState.startsName c || c.isDigit

/-- Whether a text is a name. -/
def IsName (cs : List Char) : Prop :=
  ∃ first rest, cs = first :: rest ∧ PieceState.startsName first ∧ ∀ c ∈ rest, isNameChar c

/-- The number of backslashes that a text ends in. -/
def trailingBackslashes (cs : List Char) : Nat := (cs.reverse.takeWhile (· = '\\')).length

/-- Whether a pattern refers to a name: somewhere in it an at-sign that is not escaped stands before
the name, and the name does not go on there. -/
def HasReference (cs : List Char) (name : String) : Prop :=
  ∃ before rest, cs = before ++ '@' :: (name.toList ++ rest) ∧
    Even (trailingBackslashes before) ∧ IsName name.toList ∧ ∀ c ∈ rest.head?, isNameChar c = false

theorem IsName.ne_nil {name : List Char} (h : IsName name) : name ≠ [] := by
  obtain ⟨first, rest, rfl, -⟩ := h
  exact List.cons_ne_nil first rest

theorem IsName.concat {name : List Char} {c : Char} (h : IsName name) (hc : isNameChar c) :
    IsName (name ++ [c]) := by
  obtain ⟨first, rest, rfl, hfirst, hrest⟩ := h
  exact ⟨first, rest ++ [c], rfl, hfirst, by simpa [or_imp, forall_and, hc] using hrest⟩

namespace PieceState

variable {s : PieceState} {c : Char}

/-! ### The states of the reader -/

/-- The state that a text leads to. -/
def after (s : PieceState) (cs : List Char) : PieceState := cs.foldl (fun s c ↦ (s.step c).2) s

theorem continuesName_of_ne_nil {name : List Char} (h : name ≠ []) (c : Char) :
    continuesName name c = isNameChar c := by
  rw [continuesName, isNameChar, List.isEmpty_eq_false_iff.2 h, Bool.not_false, Bool.true_and]

theorem start_eq_escaped_iff : (start c).2 = .escaped ↔ c = '\\' := by
  unfold start
  split_ifs <;> simp_all

theorem step_eq_escaped_iff : (s.step c).2 = .escaped ↔ c = '\\' ∧ s ≠ .escaped := by
  rcases s with _ | _ | name
  · simp [step, start_eq_escaped_iff]
  · simp [step]
  · rw [step]
    split_ifs with h
    · simp only [reduceCtorEq, ne_eq, not_false_eq_true, and_true, false_iff]
      rintro rfl
      simp [continuesName, startsName] at h
    · simp [start_eq_escaped_iff]

/-- In a row of backslashes each second one is escaped. -/
theorem after_eq_escaped_iff (cs : List Char) :
    PieceState.plain.after cs = .escaped ↔ Odd (trailingBackslashes cs) := by
  induction cs using List.reverseRecOn with
  | nil => simp [after, trailingBackslashes]
  | append_singleton cs c ih =>
    have hafter : plain.after (cs ++ [c]) = ((plain.after cs).step c).2 := by simp [after]
    rw [hafter, step_eq_escaped_iff, ne_eq, ih, Nat.not_odd_iff_even]
    by_cases hc : c = '\\' <;> simp [trailingBackslashes, hc, Nat.odd_add_one]

/-- A name is read on, or one begins at an at-sign. -/
theorem step_eq_named {name : List Char} (h : (s.step c).2 = .named name) :
    (∃ name', s = .named name' ∧ continuesName name' c ∧ name = name' ++ [c]) ∨
      c = '@' ∧ s ≠ .escaped ∧ name = [] := by
  have hstart (h : (start c).2 = .named name) : c = '@' ∧ name = [] := by
    unfold start at h
    split_ifs at h
    simp_all
  rcases s with _ | _ | name'
  · exact .inr ⟨(hstart h).1, by simp, (hstart h).2⟩
  · simp [step] at h
  · rw [step] at h
    split_ifs at h with hc
    · exact .inl ⟨name', rfl, hc, (named.inj h).symm⟩
    · exact .inr ⟨(hstart h).1, by simp, (hstart h).2⟩

theorem step_at (h : s ≠ .escaped) : (s.step '@').2 = .named [] := by
  rcases s with _ | _ | name
  · rfl
  · exact absurd rfl h
  · simp [step, start, continuesName, startsName]

theorem mem_flush {name : List Char} : .reference name ∈ s.flush ↔ s = .named name ∧ name ≠ [] := by
  rcases s with _ | _ | _ | ⟨c, cs⟩ <;> simp [flush, eq_comm]
  rintro rfl
  simp

/-- A reference is complete where its name does not go on. -/
theorem eq_named_of_mem_step {name : List Char} (h : .reference name ∈ (s.step c).1) :
    s = .named name ∧ name ≠ [] ∧ continuesName name c = false := by
  have hstart : .reference name ∉ (start c).1 := by
    unfold start
    split_ifs <;> simp
  rcases s with _ | _ | name'
  · exact absurd h hstart
  · simp [step] at h
  · rw [step] at h
    split_ifs at h with hc
    · simp at h
    · rcases List.mem_append.1 h with hmem | hmem
      · obtain ⟨heq, hne⟩ := mem_flush.1 hmem
        obtain rfl := named.inj heq
        exact ⟨rfl, hne, by simpa using hc⟩
      · exact absurd hmem hstart

end PieceState

/-! ### What is read -/

namespace Piece

/-- A character that does not go on with a name is read as if nothing stood before the name. -/
theorem read_named {name : List Char} {c : Char} (h : PieceState.continuesName name c = false)
    (cs : List Char) :
    read (.named name) (c :: cs) = (PieceState.named name).flush ++ read .plain (c :: cs) := by
  simp [read, PieceState.step, h]

/-- A name that has begun is read to its end. -/
theorem read_name {name : List Char} (hname : name ≠ []) {more rest : List Char}
    (hmore : ∀ c ∈ more, isNameChar c) (hrest : ∀ c ∈ rest.head?, isNameChar c = false) :
    read (.named name) (more ++ rest) = .reference (name ++ more) :: read .plain rest := by
  have hflush {name : List Char} (h : name ≠ []) :
      (PieceState.named name).flush = [.reference name] := by
    cases name with
    | nil => exact absurd rfl h
    | cons c name => rfl
  induction more generalizing name with
  | nil =>
    cases rest with
    | nil => simp [read, PieceState.flush]
    | cons c rest =>
      rw [List.nil_append, read_named, hflush hname, List.append_nil, List.singleton_append]
      rw [PieceState.continuesName_of_ne_nil hname]
      simpa using hrest
  | cons c more ih =>
    have hc : PieceState.continuesName name c = true := by
      rw [PieceState.continuesName_of_ne_nil hname]
      exact hmore c (List.mem_cons_self ..)
    rw [List.cons_append, read, PieceState.step, if_pos hc]
    simpa using ih (List.concat_ne_nil c name) fun d hd ↦ hmore d (List.mem_cons_of_mem _ hd)

/-- What is read of a name is the rest of one that has begun, or stands behind an at-sign that is
not escaped. The induction is on what has not been read. -/
theorem exists_of_mem_read {s : PieceState} {cs name : List Char}
    (hs : ∀ pre, s = .named pre → pre = [] ∨ IsName pre) (h : .reference name ∈ read s cs) :
    (∃ pre more rest, s = .named pre ∧ cs = more ++ rest ∧ name = pre ++ more ∧ IsName name ∧
      ∀ c ∈ rest.head?, isNameChar c = false) ∨
    ∃ before rest, cs = before ++ '@' :: (name ++ rest) ∧ s.after before ≠ .escaped ∧
      IsName name ∧ ∀ c ∈ rest.head?, isNameChar c = false := by
  induction cs generalizing s with
  | nil =>
    obtain ⟨rfl, hne⟩ := PieceState.mem_flush.1 h
    exact .inl ⟨name, [], [], rfl, rfl, by simp, (hs name rfl).resolve_left hne, by simp⟩
  | cons c cs ih =>
    rcases List.mem_append.1 h with h | h
    · obtain ⟨rfl, hne, hc⟩ := PieceState.eq_named_of_mem_step h
      rw [PieceState.continuesName_of_ne_nil hne] at hc
      exact .inl ⟨name, [], c :: cs, rfl, rfl, by simp, (hs name rfl).resolve_left hne, by simpa⟩
    · have hstep (pre : List Char) (hpre : (s.step c).2 = .named pre) : pre = [] ∨ IsName pre := by
        rcases PieceState.step_eq_named hpre with ⟨pre', rfl, hc, rfl⟩ | ⟨-, -, rfl⟩
        · right
          rcases hs pre' rfl with rfl | hname
          · exact ⟨c, [], rfl, by simpa [PieceState.continuesName] using hc, by simp⟩
          · rw [PieceState.continuesName_of_ne_nil hname.ne_nil] at hc
            exact hname.concat hc
        · exact .inl rfl
      rcases ih hstep h with ⟨pre, more, rest, hpre, rfl, rfl, hname, hrest⟩ |
        ⟨before, rest, rfl, hafter, hname, hrest⟩
      · rcases PieceState.step_eq_named hpre with ⟨pre', rfl, -, rfl⟩ | ⟨rfl, hs', rfl⟩
        · exact .inl ⟨pre', c :: more, rest, rfl, rfl, by simp, hname, hrest⟩
        · exact .inr ⟨[], rest, rfl, hs', hname, hrest⟩
      · exact .inr ⟨c :: before, rest, rfl, hafter, hname, hrest⟩

/-- What stands behind an at-sign that is not escaped is read. -/
theorem mem_read {s : PieceState} {before name rest : List Char}
    (hbefore : s.after before ≠ .escaped) (hname : IsName name)
    (hrest : ∀ c ∈ rest.head?, isNameChar c = false) :
    .reference name ∈ read s (before ++ '@' :: (name ++ rest)) := by
  induction before generalizing s with
  | nil =>
    obtain ⟨first, more, rfl, hfirst, hmore⟩ := hname
    have hs : s ≠ .escaped := hbefore
    refine List.mem_append_right _ ?_
    rw [PieceState.step_at hs, List.cons_append, read, PieceState.step,
      if_pos (by simp [PieceState.continuesName, hfirst]), List.nil_append, List.nil_append,
      read_name (List.cons_ne_nil _ _) hmore hrest]
    exact List.mem_cons_self ..
  | cons c before ih => exact List.mem_append_right _ (ih hbefore)

end Piece

/-- The names that a pattern refers to are those of the references in it. -/
theorem mem_references_iff {cs : List Char} {name : String} :
    name ∈ references cs ↔ HasReference cs name := by
  have hplain (before : List Char) :
      PieceState.plain.after before ≠ .escaped ↔ Even (trailingBackslashes before) := by
    rw [ne_eq, PieceState.after_eq_escaped_iff, Nat.not_odd_iff_even]
  obtain ⟨name, rfl⟩ := exists_ofList_eq name
  rw [mem_references, HasReference, String.toList_ofList]
  constructor
  · intro h
    rcases Piece.exists_of_mem_read (by simp) h with ⟨_, _, _, hs, -⟩ |
      ⟨before, rest, hcs, hbefore, hname, hrest⟩
    · simp at hs
    · exact ⟨before, rest, hcs, (hplain before).1 hbefore, hname, hrest⟩
  · rintro ⟨before, rest, rfl, hbefore, hname, hrest⟩
    exact Piece.mem_read ((hplain before).2 hbefore) hname hrest

end ModeLexer.Pattern
