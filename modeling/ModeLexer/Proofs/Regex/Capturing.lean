import ModeLexer.Proofs.Pattern.Words
import ModeLexer.Proofs.Regex.Numbering

/-!
# Programs that record all that they take

A program that is made of groups, one after the other, takes nothing outside of them: each group
starts where the one before it stops (`Adjoin`). `Program.capturesFrom` tells such programs by their
form. What it allows between the groups takes nothing, and no group has others inside, so that a run
records each number once (`MatchState.Recorded`). A pattern of this form reports groups that cut its
match into adjoining spans (`Pattern.exists_adjoin_of_matchRest`).
-/

namespace ModeLexer

open Text

/-- Whether spans follow on each other from `lo` to `hi`; they may be empty. -/
def Span.Adjoin : Nat → List Span → Nat → Prop
  | lo, [], hi => lo = hi
  | lo, s :: ss, hi => s.start = lo ∧ s.start ≤ s.stop ∧ Adjoin s.stop ss hi

namespace Span.Adjoin

variable {lo hi : Nat} {ss : List Span}

theorem append_singleton (h : Adjoin lo ss hi) {stop : Nat} (hle : hi ≤ stop) :
    Adjoin lo (ss ++ [⟨hi, stop⟩]) stop := by
  induction ss generalizing lo with
  | nil =>
    obtain rfl : lo = hi := h
    exact ⟨rfl, hle, rfl⟩
  | cons s ss ih =>
    obtain ⟨hstart, hlen, hrest⟩ := h
    exact ⟨hstart, hlen, ih hrest⟩

theorem le (h : Adjoin lo ss hi) : lo ≤ hi := by
  induction ss generalizing lo with
  | nil => exact Nat.le_of_eq h
  | cons s ss ih =>
    obtain ⟨rfl, hlen, hrest⟩ := h
    exact Nat.le_trans hlen (ih hrest)

theorem map_shift (h : Adjoin lo ss hi) (n : Nat) :
    Adjoin (lo + n) (ss.map (·.shift n)) (hi + n) := by
  induction ss generalizing lo with
  | nil => exact congrArg (· + n) h
  | cons s ss ih =>
    obtain ⟨rfl, hlen, hrest⟩ := h
    exact ⟨rfl, Nat.add_le_add_right hlen n, ih hrest⟩

end Span.Adjoin

namespace Regex

/-! ### Runs -/

namespace MatchState

/-- Whether the groups with numbers from one up to below `next` have been recorded, adjoining each
other from an offset up to here. -/
def Recorded (start next : Nat) (s : MatchState) : Prop :=
  ∃ gs : List Span, gs.length + 1 = next ∧ Span.Adjoin start gs s.offset ∧
    ∀ i < gs.length, s.groups.lookup (i + 1) = gs[i]?

theorem recorded_self (s : MatchState) : s.Recorded s.offset 1 := ⟨[], rfl, rfl, by simp⟩

/-- The group with the next number adjoins if it begins here. -/
theorem Recorded.record {start next : Nat} {s s' : MatchState} (h : s.Recorded start next)
    (hgroups : s'.groups = s.groups) (hle : s.offset ≤ s'.offset) :
    (s'.record next s.offset).Recorded start (next + 1) := by
  obtain ⟨gs, rfl, hadjoin, hlookup⟩ := h
  refine ⟨gs ++ [⟨s.offset, s'.offset⟩], by simp, hadjoin.append_singleton hle, fun i hi ↦ ?_⟩
  rw [List.length_append, List.length_singleton, Nat.lt_succ_iff] at hi
  show List.lookup (i + 1) ((gs.length + 1, _) :: s'.groups) = _
  rcases Nat.lt_or_eq_of_le hi with hlt | rfl
  · have hne : (i + 1 == gs.length + 1) = false := by simpa using Nat.ne_of_lt hlt
    rw [List.lookup_cons, hne, List.getElem?_append_left hlt, ← hlookup i hlt, hgroups]
  · simp

/-- What an attempt without groups does. -/
theorem allowsMoves_groups_eq :
    AllowsMoves [] fun s s' ↦ s'.groups = s.groups ∧ s.offset ≤ s'.offset where
  refl _ := ⟨rfl, Nat.le_refl _⟩
  trans h h' := ⟨h'.1.trans h.1, Nat.le_trans h.2 h'.2⟩
  advance _ := ⟨rfl, Nat.le_add_right _ _⟩
  pass hpass := ⟨(pass_eq hpass).2.2, Nat.le_of_eq (pass_eq hpass).2.1.symm⟩
  record hindex := nomatch hindex

end MatchState

namespace Program

variable {α : Type}

/-- The number behind the last group of a program that records all that it takes in groups without
others inside, which it numbers from `next` on in the order of the text. -/
def capturesFrom : Program → Nat → Option Nat
  | empty, next | look _, next => some next
  | capture i p, next => if i = next ∧ p.groups = [] then some (next + 1) else none
  | seq p q, next => (p.capturesFrom next).bind q.capturesFrom
  | set _, _ | choice .., _ | star .., _ | plus .., _ => none

theorem exists_recorded_of_run {p : Program} {start next next' : Nat}
    (hp : p.capturesFrom next = some next') {k : Continuation α} {s : MatchState} {a : α}
    (hs : s.Recorded start next) (h : p.run k s = some a) :
    ∃ s', s'.Recorded start next' ∧ k s' = some a := by
  induction p generalizing next next' k s with
  | empty =>
    obtain rfl := Option.some.inj hp
    exact ⟨s, hs, h⟩
  | look l =>
    obtain rfl := Option.some.inj hp
    exact ⟨s, hs, (holds_of_run_look h).2⟩
  | capture i p =>
    rw [capturesFrom] at hp
    split at hp
    · next hform =>
      obtain ⟨rfl, hnil⟩ := hform
      obtain rfl := Option.some.inj hp
      rw [run] at h
      obtain ⟨s', ⟨hgroups, hle⟩, hk⟩ :=
        exists_of_run (hnil ▸ MatchState.allowsMoves_groups_eq) h
      exact ⟨_, hs.record hgroups hle, hk⟩
    · simp at hp
  | seq p q ihp ihq =>
    obtain ⟨mid, hmid, hq⟩ := Option.bind_eq_some_iff.1 hp
    rw [run] at h
    obtain ⟨s₁, hs₁, h₁⟩ := ihp hmid hs h
    exact ihq hq hs₁ h₁
  | set | choice | star | plus => simp [capturesFrom] at hp

end Program

/-! ### Matches -/

/-- What an anchored expression finds is what its program matches at the start of the text. -/
theorem exists_start_match?_of_find? {r : Regex} (hr : r.program.startsAtTextStart) {cs : List Char}
    {m : Match} (h : r.find? cs = some m) :
    ∃ s, r.program.match? (.start cs) = some s ∧ m = ⟨⟨0, s.offset⟩, s.groups⟩ := by
  rw [find?, search.eq_def] at h
  split at h
  · next s hs => exact ⟨s, hs, (Option.some.inj h).symm⟩
  · cases cs <;> simp [hr] at h

end Regex

namespace Pattern

/-- Whether the groups that a pattern reports make up all that it takes, by the form of the
pattern. -/
def CapturesAll (p : Pattern) : Prop :=
  p.isAnchored ∧ p.regex.program.capturesFrom 1 = some (p.groupCount + 1)

instance (p : Pattern) : Decidable p.CapturesAll := inferInstanceAs (Decidable (_ ∧ _))

/-- The groups of such a pattern adjoin each other from the start to the end of a match. -/
theorem exists_adjoin_of_matchRest {p : Pattern} (hp : p.CapturesAll) {offset : Nat}
    {rest : List Char} {m : PatternMatch} (h : p.matchRest offset rest = some m) :
    ∃ gs : List Span, m.groups = gs.map some ∧ gs.length = p.groupCount ∧
      Span.Adjoin m.span.start gs m.span.stop := by
  obtain ⟨hanchored, hcaptures⟩ := hp
  simp only [isAnchored, Bool.and_eq_true, Bool.not_eq_true'] at hanchored
  obtain ⟨found, hfound, rfl⟩ := exists_find?_of_matchRest h
  obtain ⟨s, hs, rfl⟩ := Regex.exists_start_match?_of_find? hanchored.1 hfound
  obtain ⟨s', ⟨gs, hlen, hadjoin, hlookup⟩, heq⟩ :=
    Regex.Program.exists_recorded_of_run hcaptures (Regex.MatchState.recorded_self _) hs
  obtain rfl := Option.some.inj heq
  have hcount : gs.length = p.groupCount := Nat.succ.inj hlen
  have hoffset : p.groupOffset = 0 := by simp [groupOffset, hanchored.2]
  refine ⟨gs.map (·.shift offset), ?_, by rw [List.length_map, hcount], ?_⟩
  · refine List.ext_getElem (by simp [ofMatch, hcount]) fun i hi _ ↦ ?_
    have hi : i < gs.length := by simpa [ofMatch, hcount] using hi
    simp [ofMatch, hoffset, Regex.Match.group?, hlookup i hi, hi]
  · have hspan : (p.ofMatch offset ⟨⟨0, s'.offset⟩, s'.groups⟩).span =
        ⟨0 + offset, s'.offset + offset⟩ := by
      simp [ofMatch, hanchored.2, Span.shift]
    rw [hspan]
    exact hadjoin.map_shift offset

end Pattern

end ModeLexer
