import ModeLexer.Proofs.Regex.Capturing

/-!
# The edges of a match

Which characters the words of a program begin with and end on can be read off its form, as far as
the form of its sets tells (`Program.startsWith`, `Program.endsWith`), and so can the test that it
ends with (`Program.finalLook`).

The main question is whether a match can stop within a word, with a word character before its end
and one of ASCII behind it. A match that ends on no word character does not, and one that ends with
a test for a word boundary or for the end of the text does not. Neither does one that ends with a
greedy loop over word characters, since such a loop goes on as long as it can
(`Program.exists_of_loop_set`), even where something follows that may be left out and ends on no
word character. `Program.endsClear` tells this by the form of a program (`clear_of_match?`).
-/

namespace ModeLexer

open Text

namespace Unicode

namespace CharSet

/-- Whether all members of a set have a property, if the form of the set tells. Ranges are gone
through. -/
def allMembers (P : Char → Bool) : CharSet → Bool
  | empty => true
  | range lo hi =>
    (List.range' lo.toNat (hi.toNat + 1 - lo.toNat)).all fun n ↦ P (Char.ofNat n)
  | union a b => a.allMembers P && b.allMembers P
  | _ => false

/-- What the form of a set tells of its members is true of them. -/
theorem of_allMembers {P : Char → Bool} {a : CharSet} (h : a.allMembers P) {c : Char}
    (hc : a.contains c) : P c := by
  induction a with
  | empty => simp at hc
  | range lo hi =>
    simp only [contains, Bool.and_eq_true, decide_eq_true_eq] at hc
    have hlo : lo.toNat ≤ c.toNat := hc.1
    have hhi : c.toNat ≤ hi.toNat := hc.2
    have hmem : c.toNat ∈ List.range' lo.toNat (hi.toNat + 1 - lo.toNat) := by
      rw [List.mem_range'_1]
      omega
    have hP := List.all_eq_true.1 h _ hmem
    rwa [Char.ofNat_toNat] at hP
  | union a b iha ihb =>
    rw [allMembers, Bool.and_eq_true] at h
    rw [contains_union, Bool.or_eq_true] at hc
    exact hc.elim (iha h.1) (ihb h.2)
  | _ => simp [allMembers] at h

/-- The word characters of ASCII. -/
def asciiWord : CharSet :=
  .unions [.range '0' '9', .range 'A' 'Z', .range '_' '_', .range 'a' 'z']

/-- The set of the word characters of ASCII has all of them. -/
theorem contains_asciiWord {c : Char} (h : isAsciiWord c) : asciiWord.contains c := by
  have hupper : c.isUpper → (range 'A' 'Z').contains c := by
    intro h
    rw [contains, Bool.and_eq_true, decide_eq_true_eq, decide_eq_true_eq]
    exact of_decide_eq_true h
  have hcases : (c.isUpper || c.isLower || c.isDigit || decide (c = '_')) = true := h
  simp only [Bool.or_eq_true, decide_eq_true_eq] at hcases
  simp only [asciiWord, contains_unions, List.any_cons, List.any_nil, Bool.or_eq_true]
  rcases hcases with ((h | h) | h) | rfl
  · exact .inr (.inl (hupper h))
  · exact .inr (.inr (.inr (.inl h)))
  · exact .inl h
  · exact .inr (.inr (.inl rfl))

end CharSet

/-- A word character of ASCII is a word character. -/
theorem isWord_of_isAsciiWord {c : Char} (h : isAsciiWord c) : isWord c :=
  CharSet.of_allMembers (by decide +kernel) (CharSet.contains_asciiWord h)

end Unicode

namespace Regex

open Unicode

/-- Whether a position is not within a word, with a word character before it and one of ASCII
behind it. -/
def MatchState.Clear (s : MatchState) : Prop :=
  besideWord false s.before → ∀ c ∈ s.rest.head?, isAsciiWord c = false

namespace Program

variable {α : Type} {P : Char → Bool} {p : Program} {before : Option Char} {word rest : List Char}

/-! ### Characters at the ends of words -/

/-- What a property of the members of a set can be. -/
def verdicts (P : Char → Bool) (a : CharSet) : List (Option Bool) :=
  if a.allMembers P then [some true]
  else if a.allMembers (!P ·) then [some false]
  else [some true, some false]

/-- What a property is for a member is one of the verdicts. -/
theorem mem_verdicts (P : Char → Bool) {a : CharSet} {c : Char} (hc : a.contains c) :
    some (P c) ∈ verdicts P a := by
  unfold verdicts
  split
  · next hall => simp [CharSet.of_allMembers hall hc]
  · split
    · next hall => simpa using CharSet.of_allMembers hall hc
    · cases P c <;> simp

/-- Whether all words of a program that are not empty begin with a character that has a property, by
the form of the program. -/
def startsWith (P : Char → Bool) (p : Program) : Bool :=
  (p.image (fun v a ↦ if v.isSome then [v] else verdicts P a) [none]).any (· ⊆ [none, some true])

/-- Keeping the first verdict on a word gives that on its first character. -/
theorem foldl_first (P : Char → Bool) (v : Option Bool) (word : List Char) :
    word.foldl (fun v c ↦ v.or (some (P c))) v = v.or (word.head?.map P) := by
  induction word generalizing v with
  | nil => simp
  | cons c word ih => rw [List.foldl_cons, ih]; cases v <;> simp

/-- The first character of what a program takes has the property that its form promises. -/
theorem of_startsWith (hp : p.startsWith P) (h : p.Takes before word rest) :
    ∀ c ∈ word.head?, P c := by
  obtain ⟨vs, hvs, hsub⟩ := (Option.any_eq_true ..).1 hp
  have hnext : ∀ (v : Option Bool) (a : CharSet) (c : Char), a.contains c →
      v.or (some (P c)) ∈ if v.isSome then [v] else verdicts P a := by
    intro v a c hc
    cases v with
    | none => exact mem_verdicts P hc
    | some v => simp
  have hmem := of_decide_eq_true hsub (foldl_mem_image hnext hvs h (List.mem_singleton_self none))
  rw [foldl_first] at hmem
  rintro c hc
  rw [Option.mem_def.1 hc] at hmem
  simpa using hmem

/-- Whether all words of a program that are not empty end on a character that has a property, by the
form of the program. -/
def endsWith (P : Char → Bool) (p : Program) : Bool :=
  (p.image (fun _ a ↦ verdicts P a) [none]).any (· ⊆ [none, some true])

/-- Keeping the latest verdict on a word gives that on its last character. -/
theorem foldl_last (P : Char → Bool) (v : Option Bool) (word : List Char) :
    word.foldl (fun _ c ↦ some (P c)) v = (word.getLast?.map P).or v := by
  induction word generalizing v with
  | nil => rfl
  | cons c word ih =>
    rw [List.foldl_cons, ih, List.getLast?_cons]
    cases word.getLast? <;> rfl

/-- The last character of what a program takes has the property that its form promises. -/
theorem of_endsWith (hp : p.endsWith P) (h : p.Takes before word rest) :
    ∀ c ∈ word.getLast?, P c := by
  obtain ⟨vs, hvs, hsub⟩ := (Option.any_eq_true ..).1 hp
  have hmem := of_decide_eq_true hsub (foldl_mem_image (fun _ a c hc ↦ mem_verdicts P hc) hvs h
    (List.mem_singleton_self none))
  rw [foldl_last] at hmem
  rintro c hc
  rw [Option.mem_def.1 hc] at hmem
  simpa using hmem

/-! ### Tests at the end -/

/-- The test with which a program ends, if it ends with one. -/
def finalLook : Program → Option Look
  | look l => some l
  | capture _ p => p.finalLook
  | seq _ q => q.finalLook
  | _ => none

/-- The test with which a program ends holds behind what it takes. -/
theorem holds_of_finalLook {l : Look} (hp : p.finalLook = some l) (h : p.Takes before word rest) :
    l.holds (lastOr before word) rest.head? := by
  induction p generalizing before word with
  | look l' =>
    obtain rfl := Option.some.inj hp
    obtain ⟨rfl, hl⟩ := h
    exact hl
  | capture _ p ih => exact ih hp h
  | seq p q _ ihq =>
    obtain ⟨u, v, rfl, -, hv⟩ := h
    rw [lastOr_append]
    exact ihq hp hv
  | _ => simp [finalLook] at hp

/-! ### Greedy loops -/

/-- A greedy loop over a set that can be left anywhere is left where no member of the set
follows. -/
theorem exists_of_loop_set {a : CharSet} {k : Continuation α} (hk : ∀ s, (k s).isSome) {n : Nat}
    {s : MatchState} (hn : s.rest.length < n) {r : α}
    (h : loop none true (set a).run k n s = some r) :
    ∃ s', (∀ c ∈ s'.rest.head?, a.contains c = false) ∧ k s' = some r := by
  induction n generalizing s with
  | zero => simp at hn
  | succ n ih =>
    rw [loop] at h
    simp only [MatchState.pass, if_true] at h
    cases hrest : s.rest with
    | nil => exact ⟨s, by simp [hrest], by simpa [run, hrest] using h⟩
    | cons c cs =>
      cases hc : a.contains c with
      | false => exact ⟨s, by simp [hrest, hc], by simpa [run, hrest, hc] using h⟩
      | true =>
        have hlen : (s.advance c cs).rest.length < n := by
          rw [hrest, List.length_cons] at hn
          exact Nat.lt_of_succ_lt_succ hn
        -- the next round can be left too, so it is the one that is taken
        have hround : (loop none true (set a).run k n (s.advance c cs)).isSome :=
          isSome_loop_of_rounds rfl (isSome_run_of_takes rfl) .done hlen rfl rfl fun s' _ ↦ hk s'
        obtain ⟨r', hr'⟩ := Option.isSome_iff_exists.1 hround
        refine ih hlen ?_
        rw [run, hrest] at h
        simp only [hc, if_true, hr'] at h
        rwa [hr']

/-- Whether a program can be left out everywhere, by its form. -/
def isOptional : Program → Bool
  | empty | star .. => true
  | set _ | look _ => false
  | capture _ p | plus _ _ p => p.isOptional
  | seq p q => p.isOptional && q.isOptional
  | choice _ p q => p.isOptional || q.isOptional

/-- What can be left out takes nothing, everywhere. -/
theorem takes_nil_of_isOptional (hp : p.isOptional) (before : Option Char) (rest : List Char) :
    p.Takes before [] rest := by
  induction p generalizing before rest with
  | empty => rfl
  | set | look => simp [isOptional] at hp
  | capture _ p ih => exact ih hp before rest
  | star => exact .done
  | plus _ _ p ih => exact ⟨[], [], rfl, ih hp before rest, .done⟩
  | seq p q ihp ihq =>
    rw [isOptional, Bool.and_eq_true] at hp
    exact ⟨[], [], rfl, ihp hp.1 before rest, ihq hp.2 before rest⟩
  | choice _ p q ihp ihq =>
    rw [isOptional, Bool.or_eq_true] at hp
    exact hp.imp (ihp · before rest) (ihq · before rest)

/-! ### Ends that are not within words -/

/-- Whether a loop goes on over word characters of ASCII as long as it can, by its form. -/
def loopsOverWords (guard : Option Nat) (greedy : Bool) : Program → Bool
  | set a => guard.isNone && greedy && CharSet.asciiWord.allMembers a.contains
  | _ => false

/-- Whether the matches of a program do not end within a word, by the form of its end. -/
def endsClear : Program → Bool
  | look l => l = .textEnd || l = .wordBoundary false
  | star guard greedy p | plus guard greedy p => loopsOverWords guard greedy p
  | seq p q =>
    q.endsClear || p.endsClear && q.isOptional && q.plain && q.endsWith (!isWord ·)
  | _ => false

/-- A test for the end of a word is passed only where no word goes on. -/
theorem clear_of_holds {l : Look} (hl : (look l).endsClear) {s : MatchState}
    (h : l.holds s.before s.rest.head?) : s.Clear := by
  intro hbefore c hc
  rw [Option.mem_def.1 hc] at h
  rw [endsClear, Bool.or_eq_true, decide_eq_true_eq, decide_eq_true_eq] at hl
  rcases hl with rfl | rfl
  · simp [Look.holds] at h
  · rw [Look.holds, hbefore] at h
    by_contra hword
    have hafter : besideWord false (some c) = true := isWord_of_isAsciiWord (by simpa using hword)
    simp [hafter] at h

/-- Where no member of a set with all word characters of ASCII follows, no word goes on. -/
theorem clear_of_forall_head? {a : CharSet} (ha : CharSet.asciiWord.allMembers a.contains)
    {s : MatchState} (hs : ∀ c ∈ s.rest.head?, a.contains c = false) : s.Clear := by
  intro _ c hc
  by_contra hword
  have hmem := CharSet.of_allMembers ha (CharSet.contains_asciiWord (by simpa using hword))
  simp [hs c hc] at hmem

/-- A position stays outside of words where what is taken from there ends on no word character. -/
theorem clear_of_behind {s s' : MatchState} (h : s.Clear) {w : List Char} (hs : s.Behind w s')
    (hw : ∀ c ∈ w.getLast?, isWord c = false) : s'.Clear := by
  cases hlast : w.getLast? with
  | none =>
    obtain rfl := List.getLast?_eq_none_iff.1 hlast
    have hrest : s.rest = s'.rest := hs.rest
    have hbefore : s'.before = s.before := hs.before
    rwa [MatchState.Clear, hbefore, ← hrest]
  | some c =>
    intro hbefore
    have hc : s'.before = some c := by rw [hs.before, lastOr, hlast, Option.some_or]
    have hword : isWord c = true := by rwa [hc] at hbefore
    simp [hw c hlast] at hword

/-- A loop over word characters is left where no word character of ASCII follows. -/
theorem clear_of_loop {guard : Option Nat} {greedy : Bool} (hp : loopsOverWords guard greedy p)
    {k : Continuation α} (hk : ∀ s, (k s).isSome) {n : Nat} {s : MatchState}
    (hn : s.rest.length < n) {r : α} (h : loop guard greedy p.run k n s = some r) :
    ∃ s', s'.Clear ∧ k s' = some r := by
  cases p with
  | set a =>
    simp only [loopsOverWords, Bool.and_eq_true, Option.isNone_iff_eq_none] at hp
    obtain ⟨⟨rfl, rfl⟩, ha⟩ := hp
    obtain ⟨s', hs', hk'⟩ := exists_of_loop_set hk hn h
    exact ⟨s', clear_of_forall_head? ha hs', hk'⟩
  | _ => simp [loopsOverWords] at hp

/-- A run of a program with a clear end comes to its continuation at a clear position. -/
theorem clear_of_run (hp : p.endsClear) {k : Continuation α} (hk : ∀ s, (k s).isSome)
    {s : MatchState} {r : α} (h : p.run k s = some r) : ∃ s', s'.Clear ∧ k s' = some r := by
  induction p generalizing k s with
  | look l =>
    obtain ⟨hl, hk⟩ := holds_of_run_look h
    exact ⟨s, clear_of_holds hp hl, hk⟩
  | star guard greedy p =>
    rw [run] at h
    exact clear_of_loop hp hk (Nat.lt_succ_self _) h
  | plus guard greedy p =>
    rw [run] at h
    obtain ⟨w, s₁, h₁, -, hloop⟩ := exists_takes_of_run h
    have hlen := congrArg List.length h₁.rest
    rw [List.length_append] at hlen
    exact clear_of_loop hp hk (by omega) hloop
  | seq p q ihp ihq =>
    rw [run] at h
    simp only [endsClear, Bool.or_eq_true, Bool.and_eq_true] at hp
    rcases hp with hq | ⟨⟨⟨hp, hoptional⟩, hplain⟩, hlast⟩
    · obtain ⟨w, s₁, -, -, hrun⟩ := exists_takes_of_run h
      exact ihq hq hk hrun
    · -- what follows can be left out, so the first part ends as if it were the last one
      have hk' : ∀ s, (q.run k s).isSome := fun s ↦
        isSome_run_of_takes hplain (takes_nil_of_isOptional hoptional s.before s.rest) rfl rfl
          fun s' _ ↦ hk s'
      obtain ⟨s₁, hclear, hrun⟩ := ihp hp hk' h
      obtain ⟨w, s₂, h₂, hw, hk₂⟩ := exists_takes_of_run hrun
      refine ⟨s₂, clear_of_behind hclear h₂ fun c hc ↦ ?_, hk₂⟩
      simpa using of_endsWith hlast hw c hc
  | _ => simp [endsClear] at hp

/-- A match from the start of a text does not end within a word if the end of the program tells so,
or if it ends on no word character. -/
theorem clear_of_match? (hp : p.endsClear ∨ p.endsWith (!isWord ·)) {cs : List Char}
    {s : MatchState} (h : p.match? (.start cs) = some s) : s.Clear := by
  rcases hp with hp | hp
  · obtain ⟨s', hs', heq⟩ := clear_of_run hp (fun _ ↦ rfl) h
    obtain rfl := Option.some.inj heq
    exact hs'
  · obtain ⟨w, s', hs', hw, heq⟩ := exists_takes_of_run h
    obtain rfl := Option.some.inj heq
    refine clear_of_behind (s := .start cs) (fun hbefore ↦ ?_) hs' fun c hc ↦ ?_
    · simp [MatchState.start, besideWord] at hbefore
    · simpa using of_endsWith hp hw c hc

end Program

end Regex

/-! ### Patterns -/

namespace Pattern

open Regex Unicode

variable {p : Pattern} {offset : Nat} {rest : List Char} {m : PatternMatch}

/-- Whether the matches of a pattern do not end within a word, by the form of the pattern. -/
def EndsClear (p : Pattern) : Prop :=
  p.isAnchored ∧ (p.regex.program.endsClear ∨ p.regex.program.endsWith (!isWord ·))

instance (p : Pattern) : Decidable p.EndsClear := inferInstanceAs (Decidable (_ ∧ _))

/-- A match that ends on a word character has no word character of ASCII behind it. -/
theorem EndsClear.exists_word (hp : p.EndsClear) (h : p.matchRest offset rest = some m) :
    ∃ word rest', rest = word ++ rest' ∧ m.span = ⟨offset, offset + byteLength word⟩ ∧
      ∀ c ∈ word.getLast?, isWord c → ∀ d ∈ rest'.head?, isAsciiWord d = false := by
  obtain ⟨hanchored, hends⟩ := hp
  simp only [isAnchored, Bool.and_eq_true, Bool.not_eq_true'] at hanchored
  obtain ⟨found, hfound, rfl⟩ := exists_find?_of_matchRest h
  obtain ⟨s, hs, rfl⟩ := exists_start_match?_of_find? hanchored.1 hfound
  obtain ⟨word, s', hbehind, -, heq⟩ := Program.exists_takes_of_run hs
  obtain rfl := Option.some.inj heq
  have hclear := Program.clear_of_match? hends hs
  refine ⟨word, s'.rest, hbehind.rest, ?_, fun c hc hword ↦ hclear ?_⟩
  · have hoffset : s'.offset = 0 + byteLength word := hbehind.offset
    simp [ofMatch, hanchored.2, hoffset, Span.shift, Nat.add_comm]
  · rw [hbehind.before, lastOr, Option.mem_def.1 hc, Option.some_or]
    exact hword

/-- Whether the matches of a pattern are words, but for what may stand before them, with a test for
the end of the word, by the form of the pattern. -/
def TakesWords (before : Char → Bool) (p : Pattern) : Prop :=
  p.isAnchored ∧ p.regex.program.consumes ∧
    p.regex.program.startsWith (fun c ↦ before c || isAsciiWord c) ∧
    p.regex.program.endsWith isWord ∧
    p.regex.program.finalLook = some (.wordBoundary false)

instance (before : Char → Bool) (p : Pattern) : Decidable (p.TakesWords before) :=
  inferInstanceAs (Decidable (_ ∧ _))

/-- What such a pattern takes ends where a word does. -/
theorem TakesWords.exists_word {before : Char → Bool} (hp : p.TakesWords before)
    (h : p.matchRest offset rest = some m) :
    ∃ word rest', rest = word ++ rest' ∧ word ≠ [] ∧
      m.span = ⟨offset, offset + byteLength word⟩ ∧
      (∀ c ∈ word.head?, before c || isAsciiWord c) ∧ besideWord false rest'.head? = false := by
  obtain ⟨hanchored, hconsumes, hstarts, hends, hlook⟩ := hp
  obtain ⟨word, rest', hrest, hword, hspan⟩ := exists_takes_of_matchRest hanchored h
  have hne := Program.ne_nil_of_takes hconsumes hword
  refine ⟨word, rest', hrest, hne, hspan, Program.of_startsWith hstarts hword, ?_⟩
  have hlast : word.getLast? = some (word.getLast hne) := List.getLast?_eq_some_getLast hne
  have hboundary := Program.holds_of_finalLook hlook hword
  rw [lastOr, hlast, Option.some_or] at hboundary
  have hinside : besideWord false (some (word.getLast hne)) = true :=
    Program.of_endsWith hends hword _ hlast
  rw [Look.holds, hinside] at hboundary
  simpa using hboundary

end Pattern

end ModeLexer
