import ModeLexer.Proofs.Regex.Attempt

/-!
# What a program takes

`Program.Takes` says which words a program can take between what comes before and after them, by
recursion on the program and without a word about how they are tried. A match takes such a word
(`exists_takes_of_run`). The converse needs that no choice is refused: in a program without guards,
whose loops take something in every round (`Program.plain`), a word that can be taken is enough for
a match, though not always for a match of that word (`isSome_run_of_takes`).

Two properties of all words that a program takes can be computed from the program: that they are not
empty (`consumes`), and to which states of an automaton they can lead (`image`).
-/

namespace ModeLexer.Regex

open Text Unicode

/-! ### Words -/

/-- The character before a position that is reached by taking a word. -/
def lastOr (before : Option Char) (word : List Char) : Option Char := word.getLast?.or before

/-- The last character of two words is that of the second, if there is one. -/
theorem lastOr_append (before : Option Char) (u v : List Char) :
    lastOr before (u ++ v) = lastOr (lastOr before u) v := by
  rw [lastOr, lastOr, lastOr, List.getLast?_append, Option.or_assoc]

/-- Any number of rounds, of which each takes a word. -/
inductive Rounds (P : Option Char → List Char → List Char → Prop) :
    Option Char → List Char → List Char → Prop
  | done {before : Option Char} {rest : List Char} : Rounds P before [] rest
  | more {before : Option Char} {u v rest : List Char} (h : P before u (v ++ rest))
      (h' : Rounds P (lastOr before u) v rest) : Rounds P before (u ++ v) rest

namespace Program

/-- Whether a program can take a word behind `before` and in front of `rest`. -/
def Takes : Program → Option Char → List Char → List Char → Prop
  | empty, _, word, _ => word = []
  | set a, _, word, _ => ∃ c, a.contains c ∧ word = [c]
  | look l, before, word, rest => word = [] ∧ l.holds before rest.head?
  | capture _ p, before, word, rest => p.Takes before word rest
  | seq p q, before, word, rest =>
    ∃ u v, word = u ++ v ∧ p.Takes before u (v ++ rest) ∧ q.Takes (lastOr before u) v rest
  | choice _ p q, before, word, rest => p.Takes before word rest ∨ q.Takes before word rest
  | star _ _ p, before, word, rest => Rounds p.Takes before word rest
  | plus _ _ p, before, word, rest =>
    ∃ u v, word = u ++ v ∧ p.Takes before u (v ++ rest) ∧ Rounds p.Takes (lastOr before u) v rest

end Program

/-- Rounds of a set take its members. -/
theorem contains_of_rounds_set {a : CharSet} {before : Option Char} {word rest : List Char}
    (h : Rounds (Program.set a).Takes before word rest) : ∀ c ∈ word, a.contains c := by
  induction h with
  | done => simp
  | more hu _ ih =>
    obtain ⟨c, hc, rfl⟩ := hu
    exact List.forall_mem_cons.2 ⟨hc, ih⟩

/-! ### A match takes a word -/

namespace MatchState

/-- Whether a state is the one behind a word, as far as the position goes. -/
structure Behind (s : MatchState) (word : List Char) (s' : MatchState) : Prop where
  rest : s.rest = word ++ s'.rest
  before : s'.before = lastOr s.before word
  offset : s'.offset = s.offset + byteLength word

/-- Every state is behind the empty word. -/
theorem Behind.refl (s : MatchState) : s.Behind [] s := ⟨rfl, rfl, rfl⟩

/-- Behind two words, one after the other, one is behind both together. -/
theorem Behind.trans {s s' s'' : MatchState} {u v : List Char} (h : s.Behind u s')
    (h' : s'.Behind v s'') : s.Behind (u ++ v) s'' where
  rest := by rw [h.rest, h'.rest, List.append_assoc]
  before := by rw [h'.before, h.before, lastOr_append]
  offset := by rw [h'.offset, h.offset, byteLength_append, Nat.add_assoc]

/-- What is left behind the first part of a word. -/
theorem Behind.rest_eq {s s' : MatchState} {u v rest : List Char} (h : s.Behind u s')
    (hrest : s.rest = u ++ v ++ rest) : s'.rest = v ++ rest := by
  rw [h.rest, List.append_assoc] at hrest
  exact List.append_cancel_left hrest

/-- Taking a character leads behind it. -/
theorem behind_advance {s : MatchState} {c : Char} {cs : List Char} (h : s.rest = c :: cs) :
    s.Behind [c] (s.advance c cs) :=
  ⟨h, rfl, by simp [advance]⟩

/-- Passing a guard takes nothing. -/
theorem behind_of_pass {s s' : MatchState} {guard : Option Nat} (h : s.pass guard = some s') :
    s.Behind [] s' := by
  cases guard with
  | none =>
    obtain rfl := Option.some.inj h
    exact .refl s
  | some g =>
    simp only [pass] at h
    split at h
    · simp at h
    · obtain rfl := Option.some.inj h
      exact ⟨rfl, rfl, rfl⟩

end MatchState

namespace Program

open MatchState

variable {α : Type}

/-- A loop takes as many rounds of what its body takes. -/
theorem exists_rounds_of_loop {P : Option Char → List Char → List Char → Prop}
    {guard : Option Nat} {greedy : Bool} {body : Continuation α → Continuation α}
    {k : Continuation α}
    (hbody : ∀ {k' : Continuation α} {s : MatchState} {a : α}, body k' s = some a →
      ∃ w s', s.Behind w s' ∧ P s.before w s'.rest ∧ k' s' = some a) :
    ∀ {n : Nat} {s : MatchState} {a : α}, loop guard greedy body k n s = some a →
      ∃ w s', s.Behind w s' ∧ Rounds P s.before w s'.rest ∧ k s' = some a := by
  intro n
  induction n with
  | zero => intro s a h; simp [loop] at h
  | succ n ih =>
    intro s a h
    obtain ⟨s₁, hpass, hround⟩ := exists_pass_of_loop h
    have h₁ := behind_of_pass hpass
    have hbefore : s₁.before = s.before := h₁.before
    rcases hround with hagain | hleave
    · obtain ⟨u, s₂, h₂, hu, hloop⟩ := hbody hagain
      obtain ⟨v, s₃, h₃, hv, hk⟩ := ih hloop
      rw [h₃.rest, hbefore] at hu
      rw [h₂.before, hbefore] at hv
      exact ⟨u ++ v, s₃, h₁.trans (h₂.trans h₃), .more hu hv, hk⟩
    · exact ⟨[], s₁, h₁, .done, hleave⟩

/-- A run that succeeds takes a word, and its continuation succeeds behind it. -/
theorem exists_takes_of_run {p : Program} :
    ∀ {k : Continuation α} {s : MatchState} {a : α}, p.run k s = some a →
      ∃ w s', s.Behind w s' ∧ p.Takes s.before w s'.rest ∧ k s' = some a := by
  induction p with
  | empty => intro k s a h; exact ⟨[], s, .refl s, rfl, h⟩
  | set chars =>
    intro k s a h
    obtain ⟨c, cs, hrest, hc, hk⟩ := exists_advance_of_run_set h
    exact ⟨[c], _, behind_advance hrest, ⟨c, hc, rfl⟩, hk⟩
  | look l =>
    intro k s a h
    obtain ⟨hl, hk⟩ := holds_of_run_look h
    exact ⟨[], s, .refl s, ⟨rfl, hl⟩, hk⟩
  | capture index p ih =>
    intro k s a h
    rw [run] at h
    obtain ⟨w, s', hs', hw, hk⟩ := ih h
    exact ⟨w, s'.record index s.offset, ⟨hs'.rest, hs'.before, hs'.offset⟩, hw, hk⟩
  | seq p q ihp ihq =>
    intro k s a h
    rw [run] at h
    obtain ⟨u, s₁, h₁, hu, hq⟩ := ihp h
    obtain ⟨v, s₂, h₂, hv, hk⟩ := ihq hq
    rw [h₂.rest] at hu
    rw [h₁.before] at hv
    exact ⟨u ++ v, s₂, h₁.trans h₂, ⟨u, v, rfl, hu, hv⟩, hk⟩
  | choice guard p q ihp ihq =>
    intro k s a h
    obtain ⟨s₁, hpass, hbranch⟩ := exists_pass_of_run_choice h
    have h₁ := behind_of_pass hpass
    have hbefore : s₁.before = s.before := h₁.before
    rcases hbranch with hp | hq
    · obtain ⟨w, s₂, h₂, hw, hk⟩ := ihp hp
      exact ⟨w, s₂, h₁.trans h₂, Or.inl (hbefore ▸ hw), hk⟩
    · obtain ⟨w, s₂, h₂, hw, hk⟩ := ihq hq
      exact ⟨w, s₂, h₁.trans h₂, Or.inr (hbefore ▸ hw), hk⟩
  | star guard greedy p ih =>
    intro k s a h
    rw [run] at h
    exact exists_rounds_of_loop ih h
  | plus guard greedy p ih =>
    intro k s a h
    rw [run] at h
    obtain ⟨u, s₁, h₁, hu, hloop⟩ := ih h
    obtain ⟨v, s₂, h₂, hv, hk⟩ := exists_rounds_of_loop ih hloop
    rw [h₂.rest] at hu
    rw [h₁.before] at hv
    exact ⟨u ++ v, s₂, h₁.trans h₂, ⟨u, v, rfl, hu, hv⟩, hk⟩

/-! ### What is taken is not empty -/

/-- Whether a program takes at least one character, by its form. -/
def consumes : Program → Bool
  | empty | look _ | star .. => false
  | set _ => true
  | capture _ p | plus _ _ p => p.consumes
  | seq p q => p.consumes || q.consumes
  | choice _ p q => p.consumes && q.consumes

/-- What a program takes whose form tells that it takes something is not empty. -/
theorem ne_nil_of_takes {p : Program} (hp : p.consumes) {before : Option Char}
    {word rest : List Char} (h : p.Takes before word rest) : word ≠ [] := by
  induction p generalizing before word rest with
  | empty | look | star => simp [consumes] at hp
  | set a =>
    obtain ⟨c, -, rfl⟩ := h
    simp
  | capture _ p ih => exact ih hp h
  | seq p q ihp ihq =>
    obtain ⟨u, v, rfl, hu, hv⟩ := h
    rw [consumes, Bool.or_eq_true] at hp
    rcases hp with hp | hq
    · exact List.append_ne_nil_of_left_ne_nil (ihp hp hu) v
    · exact List.append_ne_nil_of_right_ne_nil u (ihq hq hv)
  | choice _ p q ihp ihq =>
    rw [consumes, Bool.and_eq_true] at hp
    rcases h with h | h
    · exact ihp hp.1 h
    · exact ihq hp.2 h
  | plus _ _ p ih =>
    obtain ⟨u, v, rfl, hu, -⟩ := h
    exact List.append_ne_nil_of_left_ne_nil (ih hp hu) v

/-! ### A word that can be taken is enough for a match -/

/-- Whether a program refuses no choice: it has no guards, and its loops take something in every
round. -/
def plain : Program → Bool
  | empty | set _ | look _ => true
  | capture _ p => p.plain
  | seq p q => p.plain && q.plain
  | choice guard p q => guard.isNone && p.plain && q.plain
  | star guard _ p | plus guard _ p => guard.isNone && p.consumes && p.plain

/-- Rounds that all take something are found by a loop with more rounds to go than there are
characters. -/
theorem isSome_loop_of_rounds {p : Program} (hp : p.consumes) {greedy : Bool} {before : Option Char}
    {word rest : List Char}
    (hbody : ∀ {before : Option Char} {word rest : List Char} {k : Continuation α} {s : MatchState},
      p.Takes before word rest → s.before = before → s.rest = word ++ rest →
      (∀ s', s.Behind word s' → (k s').isSome) → (p.run k s).isSome)
    (h : Rounds p.Takes before word rest) {k : Continuation α} {n : Nat} {s : MatchState}
    (hn : s.rest.length < n) (hbefore : s.before = before) (hrest : s.rest = word ++ rest)
    (hk : ∀ s', s.Behind word s' → (k s').isSome) :
    (loop none greedy p.run k n s).isSome := by
  induction h generalizing n s with
  | done =>
    obtain ⟨n, rfl⟩ := Nat.exists_eq_add_of_lt hn
    have hleave := hk s (.refl s)
    cases greedy <;> simp [loop, MatchState.pass, hleave]
  | @more before u v rest hu hv ih =>
    obtain ⟨n, rfl⟩ : ∃ m, n = m + 1 := ⟨n - 1, by omega⟩
    have hround : (p.run (loop none greedy p.run k n) s).isSome := by
      refine hbody hu hbefore (by rw [hrest, List.append_assoc]) fun s₁ h₁ ↦ ?_
      have hrest₁ := h₁.rest_eq hrest
      -- the round has taken a character, so one round less is enough
      have hlen : 0 < u.length := List.length_pos_iff.2 (ne_nil_of_takes hp hu)
      have hle := congrArg List.length h₁.rest
      rw [List.length_append] at hle
      exact ih (by omega) (by rw [h₁.before, hbefore]) hrest₁ fun s₂ h₂ ↦ hk s₂ (h₁.trans h₂)
    cases greedy <;> simp [loop, MatchState.pass, hround]

/-- Where a program without guards can take a word behind which its continuation succeeds, its run
succeeds. -/
theorem isSome_run_of_takes {p : Program} (hp : p.plain) {before : Option Char}
    {word rest : List Char} {k : Continuation α} {s : MatchState} (h : p.Takes before word rest)
    (hbefore : s.before = before) (hrest : s.rest = word ++ rest)
    (hk : ∀ s', s.Behind word s' → (k s').isSome) : (p.run k s).isSome := by
  induction p generalizing before word rest k s with
  | empty =>
    obtain rfl := h
    exact hk s (.refl s)
  | set a =>
    obtain ⟨c, hc, rfl⟩ := h
    have hrest' : s.rest = c :: rest := hrest
    rw [run, hrest']
    simp only [hc, if_true]
    exact hk _ (behind_advance hrest')
  | look l =>
    obtain ⟨rfl, hl⟩ := h
    have hrest' : s.rest = rest := hrest
    rw [run, hbefore, hrest', if_pos hl]
    exact hk s (.refl s)
  | capture index p ih =>
    rw [run]
    exact ih hp h hbefore hrest fun s' hs' ↦ hk _ ⟨hs'.rest, hs'.before, hs'.offset⟩
  | seq p q ihp ihq =>
    obtain ⟨u, v, rfl, hu, hv⟩ := h
    rw [plain, Bool.and_eq_true] at hp
    rw [run]
    refine ihp hp.1 hu hbefore (by rw [hrest, List.append_assoc]) fun s₁ h₁ ↦ ?_
    have hrest₁ := h₁.rest_eq hrest
    exact ihq hp.2 hv (by rw [h₁.before, hbefore]) hrest₁ fun s₂ h₂ ↦ hk s₂ (h₁.trans h₂)
  | choice guard p q ihp ihq =>
    simp only [plain, Bool.and_eq_true, Option.isNone_iff_eq_none] at hp
    obtain ⟨⟨rfl, hp⟩, hq⟩ := hp
    rw [run]
    rcases h with h | h
    · simp [MatchState.pass, ihp hp h hbefore hrest hk]
    · simp [MatchState.pass, ihq hq h hbefore hrest hk]
  | star guard greedy p ih =>
    simp only [plain, Bool.and_eq_true, Option.isNone_iff_eq_none] at hp
    obtain ⟨⟨rfl, hconsumes⟩, hp⟩ := hp
    rw [run]
    exact isSome_loop_of_rounds hconsumes (ih hp) h (Nat.lt_succ_self _) hbefore hrest hk
  | plus guard greedy p ih =>
    simp only [plain, Bool.and_eq_true, Option.isNone_iff_eq_none] at hp
    obtain ⟨⟨rfl, hconsumes⟩, hp⟩ := hp
    obtain ⟨u, v, rfl, hu, hv⟩ := h
    rw [run]
    refine ih hp hu hbefore (by rw [hrest, List.append_assoc]) fun s₁ h₁ ↦ ?_
    have hrest₁ := h₁.rest_eq hrest
    have hle := congrArg List.length h₁.rest
    rw [List.length_append] at hle
    exact isSome_loop_of_rounds hconsumes (ih hp) hv (by omega) (by rw [h₁.before, hbefore]) hrest₁
      fun s₂ h₂ ↦ hk s₂ (h₁.trans h₂)

/-! ### To which states of an automaton words lead -/

section

variable {σ : Type} {step : σ → Char → σ}

/-- Rounds lead to no new states, if none of them does. -/
theorem foldl_mem_of_rounds {P : Option Char → List Char → List Char → Prop} {ss : List σ}
    (hP : ∀ {before : Option Char} {u rest : List Char} {s : σ}, P before u rest → s ∈ ss →
      u.foldl step s ∈ ss)
    {before : Option Char} {word rest : List Char} {s : σ} (h : Rounds P before word rest)
    (hs : s ∈ ss) : word.foldl step s ∈ ss := by
  induction h generalizing s with
  | done => exact hs
  | more hu _ ih =>
    rw [List.foldl_append]
    exact ih (hP hu hs)

variable [DecidableEq σ] {next : σ → CharSet → List σ}

/-- The states to which the words of a program can lead from given ones, where `next` are those to
which the characters of a set can lead. Loops are only understood if they lead to no new states. -/
def image (next : σ → CharSet → List σ) : Program → List σ → Option (List σ)
  | empty, ss | look _, ss => some ss
  | set a, ss => some (ss.flatMap fun s ↦ next s a)
  | capture _ p, ss => p.image next ss
  | seq p q, ss => (p.image next ss).bind (q.image next)
  | choice _ p q, ss =>
    (p.image next ss).bind fun ps ↦ (q.image next ss).map (ps ++ ·)
  | star _ _ p, ss => (p.image next ss).bind fun ps ↦ if ps ⊆ ss then some ss else none
  | plus _ _ p, ss =>
    (p.image next ss).bind fun ps ↦
      (p.image next ps).bind fun qs ↦ if qs ⊆ ps then some ps else none

/-- Every word leads to a state of the image. -/
theorem foldl_mem_image (hnext : ∀ s a c, a.contains c → step s c ∈ next s a) {p : Program}
    {ss ss' : List σ} (hp : p.image next ss = some ss') {before : Option Char}
    {word rest : List Char} {s : σ} (h : p.Takes before word rest) (hs : s ∈ ss) :
    word.foldl step s ∈ ss' := by
  induction p generalizing ss ss' before word rest s with
  | empty =>
    obtain rfl := h
    obtain rfl := Option.some.inj hp
    exact hs
  | look =>
    obtain ⟨rfl, -⟩ := h
    obtain rfl := Option.some.inj hp
    exact hs
  | set a =>
    obtain ⟨c, hc, rfl⟩ := h
    obtain rfl := Option.some.inj hp
    exact List.mem_flatMap.2 ⟨s, hs, hnext s a c hc⟩
  | capture _ p ih => exact ih hp h hs
  | seq p q ihp ihq =>
    obtain ⟨u, v, rfl, hu, hv⟩ := h
    obtain ⟨ps, hps, hqs⟩ := Option.bind_eq_some_iff.1 hp
    rw [List.foldl_append]
    exact ihq hqs hv (ihp hps hu hs)
  | choice _ p q ihp ihq =>
    obtain ⟨ps, hps, hp⟩ := Option.bind_eq_some_iff.1 hp
    obtain ⟨qs, hqs, rfl⟩ := Option.map_eq_some_iff.1 hp
    rcases h with h | h
    · exact List.mem_append_left qs (ihp hps h hs)
    · exact List.mem_append_right ps (ihq hqs h hs)
  | star _ _ p ih =>
    obtain ⟨ps, hps, hp⟩ := Option.bind_eq_some_iff.1 hp
    split at hp
    · next hsub =>
      obtain rfl := Option.some.inj hp
      exact foldl_mem_of_rounds (fun hu hs ↦ hsub (ih hps hu hs)) h hs
    · simp at hp
  | plus _ _ p ih =>
    obtain ⟨u, v, rfl, hu, hv⟩ := h
    obtain ⟨ps, hps, hp⟩ := Option.bind_eq_some_iff.1 hp
    obtain ⟨qs, hqs, hp⟩ := Option.bind_eq_some_iff.1 hp
    split at hp
    · next hsub =>
      obtain rfl := Option.some.inj hp
      rw [List.foldl_append]
      exact foldl_mem_of_rounds (fun hu hs ↦ hsub (ih hqs hu hs)) hv (ih hps hu hs)
    · simp at hp

end

end Program

end ModeLexer.Regex
