import Mathlib.Data.Option.Basic
import ModeLexer.Proofs.Text.Boundary
import ModeLexer.Regex.Match

/-!
# Attempts of a match

A program runs with a continuation, and what it does to a state before it calls the continuation is
a sequence of three moves: it takes a character, passes a guard, or records a group that began at a
state it came through. The one statement about programs is `Program.exists_of_run`, by induction on
the program: a run that succeeds has come to a state at which its continuation succeeds, and any
relation that allows the moves (`MatchState.AllowsMoves`) holds between the two states.
`MatchState.Leads` is the relation that the moves generate, and all else here is about it alone.

The main result is `Regex.find?_fits`: a match and every group of it fit the text, and the groups
lie inside the match.
-/

namespace ModeLexer.Regex

open Text

namespace MatchState

/-- Whether an attempt can come from one state to another. -/
inductive Leads : MatchState → MatchState → Prop
  | refl (s : MatchState) : Leads s s
  | advance {s s' : MatchState} {c : Char} {cs : List Char} (h : Leads s s')
      (hrest : s'.rest = c :: cs) : Leads s (s'.advance c cs)
  | pass {s s' s'' : MatchState} {guard : Option Nat} (h : Leads s s')
      (hpass : s'.pass guard = some s'') : Leads s s''
  | record {s s' s'' : MatchState} {index : Nat} (h : Leads s s') (h' : Leads s' s'') :
      Leads s (s''.record index s'.offset)

/-- One part of an attempt leads on from where another has led. -/
theorem Leads.trans {s s' s'' : MatchState} (h : s.Leads s') (h' : s'.Leads s'') :
    s.Leads s'' := by
  induction h' with
  | refl => exact h
  | advance _ hrest ih => exact (ih h).advance hrest
  | pass _ hpass ih => exact (ih h).pass hpass
  | record _ h₂ ih _ => exact .record (ih h) h₂

/-- Passing a guard touches nothing but the list of guards. -/
theorem pass_eq {s s' : MatchState} {guard : Option Nat} (h : s.pass guard = some s') :
    s'.rest = s.rest ∧ s'.offset = s.offset ∧ s'.groups = s.groups := by
  cases guard with
  | none =>
    obtain rfl := Option.some.inj h
    exact ⟨rfl, rfl, rfl⟩
  | some g =>
    simp only [pass] at h
    split at h
    · simp at h
    · obtain rfl := Option.some.inj h
      exact ⟨rfl, rfl, rfl⟩

/-- An attempt never goes back. -/
theorem Leads.offset_le {s s' : MatchState} (h : s.Leads s') : s.offset ≤ s'.offset := by
  induction h with
  | refl => exact Nat.le_refl _
  | advance _ _ ih => exact Nat.le_trans ih (Nat.le_add_right _ _)
  | pass _ hpass ih => rw [(pass_eq hpass).2.1]; exact ih
  | record _ _ ih ih' => exact Nat.le_trans ih ih'

/-- A state of an attempt on `text` that began at the offset `start`: the position is a boundary,
with the right text after it, and what the groups have captured lies between `start` and here. -/
structure Sound (text : List Char) (start : Nat) (s : MatchState) : Prop where
  position : ∃ before, before ++ s.rest = text ∧ byteLength before = s.offset
  groups : ∀ g ∈ s.groups, g.2.Fits text ∧ start ≤ g.2.start ∧ g.2.stop ≤ s.offset

/-- The position of an attempt is between two characters. -/
theorem Sound.isBoundary {text : List Char} {start : Nat} {s : MatchState}
    (h : s.Sound text start) : IsBoundary text s.offset := by
  obtain ⟨before, happ, hlen⟩ := h.position
  exact ⟨before, s.rest, happ, hlen⟩

/-- Every move keeps a state sound. -/
theorem Leads.sound {text : List Char} {start : Nat} {s s' : MatchState} (h : s.Leads s')
    (hs : s.Sound text start) (hstart : start ≤ s.offset) : s'.Sound text start := by
  induction h with
  | refl => exact hs
  | @advance s s' c cs _ hrest ih =>
    have ih := ih hs hstart
    have hposition := ih.position
    rw [hrest] at hposition
    refine ⟨exists_before_next hposition, fun g hg ↦ ?_⟩
    obtain ⟨hfits, hle, hstop⟩ := ih.groups g hg
    exact ⟨hfits, hle, Nat.le_trans hstop (Nat.le_add_right _ _)⟩
  | pass _ hpass ih =>
    obtain ⟨hrest, hoffset, hgroups⟩ := pass_eq hpass
    have ih := ih hs hstart
    exact ⟨by rw [hrest, hoffset]; exact ih.position, by rw [hgroups, hoffset]; exact ih.groups⟩
  | @record s s' s'' index h h' ih ih' =>
    have hs' := ih hs hstart
    have hs'' := ih' hs' (Nat.le_trans hstart h.offset_le)
    refine ⟨hs''.position, fun g hg ↦ ?_⟩
    rcases List.mem_cons.1 hg with rfl | hg
    · exact ⟨⟨h'.offset_le, hs'.isBoundary, hs''.isBoundary⟩,
        Nat.le_trans hstart h.offset_le, Nat.le_refl _⟩
    · exact hs''.groups g hg

/-- Whether a relation holds between the states before and after all that an attempt does which
records no groups but those with given numbers. -/
structure AllowsMoves (is : List Nat) (R : MatchState → MatchState → Prop) : Prop where
  refl (s : MatchState) : R s s
  trans {s s' s'' : MatchState} (h : R s s') (h' : R s' s'') : R s s''
  advance {s : MatchState} {c : Char} {cs : List Char} (hrest : s.rest = c :: cs) :
    R s (s.advance c cs)
  pass {s s' : MatchState} {guard : Option Nat} (hpass : s.pass guard = some s') : R s s'
  record {s s' : MatchState} {index : Nat} (hindex : index ∈ is) (h : R s s') :
    R s (s'.record index s.offset)

/-- What holds of attempts that record more groups holds of those that record fewer. -/
theorem AllowsMoves.mono {is js : List Nat} {R : MatchState → MatchState → Prop}
    (h : AllowsMoves js R) (hsub : is ⊆ js) : AllowsMoves is R :=
  { h with record := fun hindex ↦ h.record (hsub hindex) }

/-- All that an attempt does leads from the state before it to the state after it. -/
theorem allowsMoves_leads (is : List Nat) : AllowsMoves is Leads where
  refl := .refl
  trans := .trans
  advance := (Leads.refl _).advance
  pass := (Leads.refl _).pass
  record _ := .record (.refl _)

end MatchState

namespace Program

open MatchState

variable {α : Type} {R : MatchState → MatchState → Prop}

/-- The numbers of the groups of a program. -/
def groups : Program → List Nat
  | empty | set _ | look _ => []
  | capture i p => i :: p.groups
  | star _ _ p | plus _ _ p => p.groups
  | seq p q | choice _ p q => p.groups ++ q.groups

/-! ### What a run that succeeds begins with -/

section

variable {k : Continuation α} {s : MatchState} {a : α}

/-- A set takes a member that is next, and then the match goes on. -/
theorem exists_advance_of_run_set {chars : Unicode.CharSet} (h : (set chars).run k s = some a) :
    ∃ c cs, s.rest = c :: cs ∧ chars.contains c ∧ k (s.advance c cs) = some a := by
  rw [run] at h
  split at h
  · simp at h
  · next c cs hrest =>
    split at h
    · next hc => exact ⟨c, cs, hrest, hc, h⟩
    · simp at h

/-- A test takes nothing, and holds where the match goes on. -/
theorem holds_of_run_look {l : Look} (h : (look l).run k s = some a) :
    l.holds s.before s.rest.head? ∧ k s = some a := by
  rw [run] at h
  split at h
  · next hl => exact ⟨hl, h⟩
  · simp at h

/-- A choice passes its guard and then goes on with one of its branches. -/
theorem exists_pass_of_run_choice {guard : Option Nat} {p q : Program}
    (h : (choice guard p q).run k s = some a) :
    ∃ s', s.pass guard = some s' ∧ (p.run k s' = some a ∨ q.run k s' = some a) := by
  rw [run] at h
  split at h
  · simp at h
  · next s' hpass => exact ⟨s', hpass, ((Option.orElse_eq_some _ _ _).1 h).imp_right And.right⟩

/-- A loop goes round or is left, whichever of the two it prefers. -/
theorem exists_pass_of_loop {guard : Option Nat} {greedy : Bool}
    {body : Continuation α → Continuation α} {n : Nat}
    (h : loop guard greedy body k (n + 1) s = some a) :
    ∃ s', s.pass guard = some s' ∧
      (body (loop guard greedy body k n) s' = some a ∨ k s' = some a) := by
  rw [loop] at h
  split at h
  · simp at h
  · next s' hpass =>
    refine ⟨s', hpass, ?_⟩
    split at h
    · exact ((Option.orElse_eq_some _ _ _).1 h).imp_right And.right
    · exact ((Option.orElse_eq_some _ _ _).1 h).symm.imp_left And.right

end

/-! ### The relation between the states before and after a run -/

/-- Rounds of a loop do what its body does. -/
theorem exists_of_loop {is : List Nat} (hR : AllowsMoves is R) {guard : Option Nat} {greedy : Bool}
    {body : Continuation α → Continuation α} {k : Continuation α}
    (hbody : ∀ {k' : Continuation α} {s : MatchState} {a : α}, body k' s = some a →
      ∃ s', R s s' ∧ k' s' = some a) :
    ∀ {n : Nat} {s : MatchState} {a : α}, loop guard greedy body k n s = some a →
      ∃ s', R s s' ∧ k s' = some a := by
  intro n
  induction n with
  | zero => intro s a h; simp [loop] at h
  | succ n ih =>
    intro s a h
    obtain ⟨s₁, hpass, hagain | hleave⟩ := exists_pass_of_loop h
    · obtain ⟨s₂, h₂, hloop⟩ := hbody hagain
      obtain ⟨s₃, h₃, hk⟩ := ih hloop
      exact ⟨s₃, hR.trans (hR.trans (hR.pass hpass) h₂) h₃, hk⟩
    · exact ⟨s₁, hR.pass hpass, hleave⟩

/-- A run that succeeds has come to a state at which its continuation succeeds. -/
theorem exists_of_run {p : Program} (hR : AllowsMoves p.groups R) :
    ∀ {k : Continuation α} {s : MatchState} {a : α}, p.run k s = some a →
      ∃ s', R s s' ∧ k s' = some a := by
  induction p with
  | empty => intro k s a h; exact ⟨s, hR.refl s, h⟩
  | set chars =>
    intro k s a h
    obtain ⟨c, cs, hrest, -, hk⟩ := exists_advance_of_run_set h
    exact ⟨_, hR.advance hrest, hk⟩
  | look l =>
    intro k s a h
    exact ⟨s, hR.refl s, (holds_of_run_look h).2⟩
  | capture index p ih =>
    intro k s a h
    rw [run] at h
    obtain ⟨s', hlead, hk⟩ := ih (hR.mono (List.subset_cons_self ..)) h
    exact ⟨_, hR.record (List.mem_cons_self ..) hlead, hk⟩
  | seq p q ihp ihq =>
    intro k s a h
    rw [run] at h
    obtain ⟨s₁, h₁, hq⟩ := ihp (hR.mono (List.subset_append_left ..)) h
    obtain ⟨s₂, h₂, hk⟩ := ihq (hR.mono (List.subset_append_right ..)) hq
    exact ⟨s₂, hR.trans h₁ h₂, hk⟩
  | choice guard p q ihp ihq =>
    intro k s a h
    obtain ⟨s₁, hpass, hp | hq⟩ := exists_pass_of_run_choice h
    · obtain ⟨s₂, h₂, hk⟩ := ihp (hR.mono (List.subset_append_left ..)) hp
      exact ⟨s₂, hR.trans (hR.pass hpass) h₂, hk⟩
    · obtain ⟨s₂, h₂, hk⟩ := ihq (hR.mono (List.subset_append_right ..)) hq
      exact ⟨s₂, hR.trans (hR.pass hpass) h₂, hk⟩
  | star guard greedy p ih =>
    intro k s a h
    rw [run] at h
    exact exists_of_loop hR (ih hR) h
  | plus guard greedy p ih =>
    intro k s a h
    rw [run] at h
    obtain ⟨s₁, h₁, hloop⟩ := ih hR h
    obtain ⟨s₂, h₂, hk⟩ := exists_of_loop hR (ih hR) hloop
    exact ⟨s₂, hR.trans h₁ h₂, hk⟩

/-- A match ends at a state that the attempt has led to. -/
theorem leads_of_match? {p : Program} {s s' : MatchState} (h : p.match? s = some s') :
    s.Leads s' := by
  obtain ⟨s₁, hlead, hk⟩ := exists_of_run (allowsMoves_leads _) h
  obtain rfl := Option.some.inj hk
  exact hlead

end Program

end ModeLexer.Regex

namespace ModeLexer

open Text Regex

namespace Regex

/-- A match of an expression in its text: the match and its groups fit the text, and the groups lie
inside the match. -/
structure Match.Fits (text : List Char) (m : Match) : Prop where
  span : m.span.Fits text
  groups : ∀ g ∈ m.groups, g.2.Fits text ∧ m.span.start ≤ g.2.start ∧ g.2.stop ≤ m.span.stop

/-- What an attempt behind `before` matches fits the whole text. -/
theorem fits_of_match? {p : Program} {text before cs : List Char} {previous : Option Char}
    {s : MatchState} (happ : before ++ cs = text)
    (h : p.match? ⟨previous, cs, byteLength before, [], []⟩ = some s) :
    Match.Fits text ⟨⟨byteLength before, s.offset⟩, s.groups⟩ := by
  have hlead := Program.leads_of_match? h
  have hsound : s.Sound text (byteLength before) :=
    hlead.sound ⟨⟨before, happ, rfl⟩, by simp⟩ (Nat.le_refl _)
  exact ⟨⟨hlead.offset_le, ⟨before, cs, happ, rfl⟩, hsound.isBoundary⟩, hsound.groups⟩

/-- A search that begins behind `before` finds what fits the whole text. -/
theorem fits_of_search {p : Program} {text : List Char} {m : Match} :
    ∀ {cs : List Char} {previous : Option Char} (before : List Char), before ++ cs = text →
      search p previous (byteLength before) cs = some m → m.Fits text := by
  intro cs
  induction cs with
  | nil =>
    intro previous before happ h
    rw [search] at h
    split at h
    · next s hmatch =>
      obtain rfl := Option.some.inj h
      exact fits_of_match? happ hmatch
    · simp at h
  | cons c cs ih =>
    intro previous before happ h
    rw [search] at h
    split at h
    · next s hmatch =>
      obtain rfl := Option.some.inj h
      exact fits_of_match? happ hmatch
    · split at h
      · simp at h
      · -- the match begins after `c`
        have hlen : byteLength before + c.utf8Size = byteLength (before ++ [c]) := by simp
        rw [hlen] at h
        exact ih (before ++ [c]) (by simpa using happ) h

/-- What is found in a text fits it. -/
theorem find?_fits {r : Regex} {cs : List Char} {m : Match} (h : r.find? cs = some m) :
    m.Fits cs :=
  fits_of_search [] rfl h

/-- An expression that can only match at the start of a text is found there or not at all. -/
theorem start_eq_zero_of_find? {r : Regex} (hr : r.program.startsAtTextStart) {cs : List Char}
    {m : Match} (h : r.find? cs = some m) : m.span.start = 0 := by
  rw [find?, search.eq_def] at h
  split at h
  · obtain rfl := Option.some.inj h
    rfl
  · cases cs <;> simp [hr] at h

end Regex

end ModeLexer
