import Mathlib.Data.List.ReduceOption
import ModeLexer.Proofs.Scanner.Coverage

/-!
# Where tokens come from

Every token that a scan ends with was added by one of its steps (`RuleTable.exists_addsToken`), and
unless it is of the default class that step applied a rule which gives the class of the token
(`Progress.AddsToken.exists_rule`). So what is true of the tokens of a kind can be shown at the
stage at which they are added. `Text.charBefore?` and `Text.charAt?` are the characters on the two
sides of an offset.
-/

namespace ModeLexer

namespace Text

/-! ### Neighbours of an offset -/

/-- The character right before a byte offset. -/
def charBefore? (cs : List Char) (n : Nat) : Option Char :=
  (splitAt? n cs).bind fun (before, _) ↦ before.getLast?

/-- The character right behind a byte offset. -/
def charAt? (cs : List Char) (n : Nat) : Option Char :=
  (splitAt? n cs).bind fun (_, rest) ↦ rest.head?

theorem charBefore?_append (before rest : List Char) :
    charBefore? (before ++ rest) (byteLength before) = before.getLast? := by
  rw [charBefore?, splitAt?_byteLength, Option.bind_some]

theorem charAt?_append (before rest : List Char) :
    charAt? (before ++ rest) (byteLength before) = rest.head? := by
  rw [charAt?, splitAt?_byteLength, Option.bind_some]

@[simp] theorem charBefore?_zero (cs : List Char) : charBefore? cs 0 = none := by
  rw [charBefore?, splitAt?_zero]
  rfl

end Text

/-! ### The classes of a rule -/

/-- The classes that an emission gives. -/
def Emission.classes : Emission → List String
  | .whole cls => [cls]
  | .groups classes => classes.reduceOption

namespace Layout

variable {default : String}

/-- What is laid out is of the class of a group or of the default class. -/
theorem fst_of_mem_groups {stop covered : Nat} {gs : List (Option String × Option Span)}
    {k : String × Span} (hk : k ∈ groups default stop covered gs) :
    k.1 = default ∨ some k.1 ∈ gs.map Prod.fst := by
  have hgap : ∀ {lo hi : Nat}, k ∈ gap default lo hi → k.1 = default := by
    intro lo hi hk
    unfold gap at hk
    split at hk
    · rw [List.mem_singleton.1 hk]
    · simp at hk
  induction gs generalizing covered with
  | nil => exact .inl (hgap hk)
  | cons x gs ih =>
    rw [List.map_cons]
    match x with
    | (some cls, some g) =>
      rw [groups] at hk
      split at hk
      · exact (ih hk).imp_right (List.mem_cons_of_mem _)
      · rcases List.mem_append.1 hk with hk | hk
        · exact .inl (hgap hk)
        · rcases List.mem_cons.1 hk with rfl | hk
          · exact .inr (List.mem_cons_self ..)
          · exact (ih hk).imp_right (List.mem_cons_of_mem _)
    | (some _, none) | (none, some _) | (none, none) =>
      exact (ih hk).imp_right (List.mem_cons_of_mem _)

theorem map_fst_pairGroups (classes : List (Option String)) (gs : List (Option Span)) :
    (pairGroups classes gs).map Prod.fst = classes := by
  induction classes generalizing gs with
  | nil => rfl
  | cons c classes ih => cases gs <;> exact congrArg (List.cons c) (ih _)

/-- The tokens of a match are of the classes that are emitted, or of the default class. -/
theorem fst_of_mem_ofMatch {e : Emission} {m : PatternMatch} {k : String × Span}
    (hk : k ∈ ofMatch default e m) : k.1 = default ∨ k.1 ∈ e.classes := by
  unfold ofMatch at hk
  split at hk
  · simp at hk
  · cases e with
    | whole cls =>
      rw [List.mem_singleton.1 hk]
      exact .inr (List.mem_singleton_self cls)
    | groups classes =>
      rcases fst_of_mem_groups hk with hdefault | hmem
      · exact .inl hdefault
      · rw [map_fst_pairGroups] at hmem
        exact .inr (List.reduceOption_mem_iff.2 hmem)

end Layout

namespace Progress

open Text

variable {t : RuleTable} {number : Nat} {line : List Char} {p : Progress} {k : Token}

theorem InLine.charAt?_eq (h : p.InLine line) : charAt? line p.cursor = p.rest.head? := by
  obtain ⟨before, rfl, hlen⟩ := h
  rw [← hlen, charAt?_append]

/-! ### Steps that add a token -/

/-- Whether the next step adds a token. -/
def AddsToken (t : RuleTable) (number : Nat) (line : List Char) (p : Progress) (k : Token) : Prop :=
  ∃ new, (p.next t number line).tokens = new ++ p.tokens ∧ k ∈ new

/-- Unless it is of the default class, a token is added by a rule that gives its class. -/
theorem AddsToken.exists_rule (h : p.AddsToken t number line k) (hk : k.cls ≠ t.defaultToken) :
    ∃ r m, p.firstMatch? t = some (r, m) ∧ p.next t number line = p.applyRule t number r m ∧
      k.cls ∈ r.emission.classes ∧
      (k.cls, k.span) ∈ Layout.ofMatch t.defaultToken r.emission m := by
  obtain ⟨new, hnew, hmem⟩ := h
  cases hre : p.restarts t with
  | true =>
    rw [next_of_restarts hre] at hnew
    obtain ⟨rfl, -⟩ := List.nil_eq_append_iff.1 hnew
    simp at hmem
  | false =>
    cases hrest : p.rest with
    | nil =>
      rw [next_of_rest_eq_nil hrest] at hnew
      rw [List.self_eq_append_left.1 hnew] at hmem
      simp at hmem
    | cons c rest =>
      have hnext : p.next t number line = _ := next_of_not_restarts hre hrest
      cases hmatch : p.firstMatch? t with
      | none =>
        rw [hmatch] at hnext
        rw [hnext] at hnew
        obtain rfl : [_] = new := List.append_cancel_right hnew
        rw [List.mem_singleton.1 hmem] at hk
        simp at hk
      | some found =>
        obtain ⟨r, m⟩ := found
        rw [hmatch] at hnext
        have hlaid := hnew
        rw [hnext] at hlaid
        obtain rfl := List.append_cancel_right hlaid
        rw [List.mem_reverse, List.mem_map] at hmem
        obtain ⟨x, hx, rfl⟩ := hmem
        exact ⟨r, m, rfl, hnext, (Layout.fst_of_mem_ofMatch hx).resolve_left hk, hx⟩

/-- What is there after a step was there before, or it was added. -/
theorem InLine.mem_tokens_next (hp : p.InLine line) (hk : k ∈ (p.next t number line).tokens) :
    k ∈ p.tokens ∨ p.AddsToken t number line k := by
  cases hre : p.restarts t with
  | true =>
    rw [next_of_restarts hre] at hk
    simp [restart] at hk
  | false =>
    obtain ⟨-, new, hnew, -⟩ := exists_tokens_next number hp hre
    rw [hnew, List.mem_append] at hk
    exact hk.symm.imp_right fun hmem ↦ ⟨new, hnew, hmem⟩

end Progress

/-- A token of a stage was added at an earlier one. -/
theorem RuleTable.exists_addsToken {t : RuleTable} {number : Nat} {stack : ModeStack}
    {line : List Char} {k : Token} {n : Nat} (hk : k ∈ (t.stage number stack line n).tokens) :
    ∃ i < n, (t.stage number stack line i).AddsToken t number line k := by
  induction n with
  | zero => simp [Progress.start] at hk
  | succ n ih =>
    rw [stage_succ] at hk
    rcases (inLine_stage n).mem_tokens_next hk with hk | hadds
    · obtain ⟨i, hi, hadds⟩ := ih hk
      exact ⟨i, Nat.lt_succ_of_lt hi, hadds⟩
    · exact ⟨n, Nat.lt_succ_self n, hadds⟩

end ModeLexer
