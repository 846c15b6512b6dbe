import Mathlib.Data.List.Forall2

/-!
# Up to the first mistake

All that a definition is checked for is checked in sequence, and the first mistake is the result of
the whole. Two laws of such sequences are enough for what is said about them elsewhere: a sequence
succeeds exactly if each of its parts does (`bind_eq_ok`, `mapM_eq_ok`), and a mistake of the
sequence is a mistake of one of its parts (`bind_eq_error`, `exists_of_mapM_eq_error`).
-/

namespace ModeLexer

variable {ε α β : Type}

/-! ### Two parts -/

/-- Two steps succeed if the first one does and the second one does with its result. -/
theorem bind_eq_ok {x : Except ε α} {f : α → Except ε β} {b : β} :
    (x >>= f) = .ok b ↔ ∃ a, x = .ok a ∧ f a = .ok b := by
  cases x <;> simp [bind, Except.bind]

/-- Two steps fail if the first one does, or if it succeeds and the second one fails. -/
theorem bind_eq_error {x : Except ε α} {f : α → Except ε β} {e : ε} :
    (x >>= f) = .error e ↔ x = .error e ∨ ∃ a, x = .ok a ∧ f a = .error e := by
  cases x <;> simp [bind, Except.bind]

/-- A value that is given is the result. -/
theorem pure_eq_ok {a b : α} : (pure a : Except ε α) = .ok b ↔ a = b := by
  simp [pure, Except.pure]

/-- A result that is changed comes from a result. -/
theorem map_eq_ok {x : Except ε α} {f : α → β} {b : β} :
    x.map f = .ok b ↔ ∃ a, x = .ok a ∧ f a = b := by
  cases x <;> simp [Except.map]

/-- Changing errors leaves results as they are. -/
theorem mapError_eq_ok {ε' : Type} {x : Except ε α} {f : ε → ε'} {a : α} :
    x.mapError f = .ok a ↔ x = .ok a := by
  cases x <;> simp [Except.mapError]

/-- An error that is changed comes from an error. -/
theorem mapError_eq_error {ε' : Type} {x : Except ε α} {f : ε → ε'} {e : ε'} :
    x.mapError f = .error e ↔ ∃ e', x = .error e' ∧ f e' = e := by
  cases x <;> simp [Except.mapError]

/-- Changing results leaves errors as they are. -/
theorem map_eq_error {x : Except ε α} {f : α → β} {e : ε} :
    x.map f = .error e ↔ x = .error e := by
  cases x <;> simp [Except.map]

/-- What has a value when it is taken for an option has come to a result. -/
theorem exists_ok_of_isSome {x : Except ε α} (h : x.toOption.isSome) : ∃ a, x = .ok a := by
  cases x with
  | ok a => exact ⟨a, rfl⟩
  | error e => simp [Except.toOption] at h

/-- What a computed test says of a result, there is a result for. -/
theorem exists_ok_of_any {x : Except ε α} {P : α → Prop} [DecidablePred P]
    (h : x.toOption.any fun a ↦ decide (P a)) : ∃ a, x = .ok a ∧ P a := by
  cases x with
  | ok a => exact ⟨a, rfl, by simpa [Except.toOption] using h⟩
  | error e => simp [Except.toOption] at h

/-! ### Lists -/

/-- A list is worked through with success exactly if each of its members is. -/
theorem mapM_eq_ok {f : α → Except ε β} {as : List α} {bs : List β} :
    as.mapM f = .ok bs ↔ List.Forall₂ (fun a b ↦ f a = .ok b) as bs := by
  induction as generalizing bs with
  | nil => rw [List.mapM_nil, pure_eq_ok, List.forall₂_nil_left_iff, eq_comm]
  | cons a as ih =>
    rw [List.mapM_cons, bind_eq_ok, List.forall₂_cons_left_iff]
    constructor
    · rintro ⟨b, hb, h⟩
      obtain ⟨bs', hbs, h⟩ := bind_eq_ok.1 h
      exact ⟨b, bs', hb, ih.1 hbs, (pure_eq_ok.1 h).symm⟩
    · rintro ⟨b, bs', hb, hbs, rfl⟩
      exact ⟨b, hb, bind_eq_ok.2 ⟨bs', ih.2 hbs, rfl⟩⟩

/-- A mistake in a list is one of a member. -/
theorem exists_of_mapM_eq_error {f : α → Except ε β} {as : List α} {e : ε}
    (h : as.mapM f = .error e) : ∃ a ∈ as, f a = .error e := by
  induction as with
  | nil => simp [pure, Except.pure] at h
  | cons a as ih =>
    rw [List.mapM_cons, bind_eq_error] at h
    rcases h with ha | ⟨b, -, h⟩
    · exact ⟨a, List.mem_cons_self .., ha⟩
    · rcases bind_eq_error.1 h with has | ⟨bs, -, h⟩
      · obtain ⟨a', hmem, ha'⟩ := ih has
        exact ⟨a', List.mem_cons_of_mem _ hmem, ha'⟩
      · simp [pure, Except.pure] at h

/-- Lists that match one by one match at every index of the second. -/
theorem exists_getElem?_of_forall₂ {R : α → β → Prop} {as : List α} {bs : List β}
    (h : List.Forall₂ R as bs) {i : Nat} {b : β} (hb : bs[i]? = some b) :
    ∃ a, as[i]? = some a ∧ R a b := by
  induction h generalizing i with
  | nil => simp at hb
  | cons hab _ ih =>
    cases i with
    | zero => exact ⟨_, rfl, by simpa using (Option.some.inj hb) ▸ hab⟩
    | succ i => exact ih hb

end ModeLexer
