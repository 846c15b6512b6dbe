import ModeLexer.Proofs.Regex.Language

/-!
# How strings are closed

The built-in language describes a string twice. The rule before the one that opens it is to match
where the string is not closed on its line (`QuoteStyle.unclosed`), and the rules of its mode take
it apart. Here is a third description that both can be held against: an automaton which reads what
follows the opening quote, and the question whether it has come to a closing quote
(`QuoteStyle.Closes`).

Where the string is not closed, the first description matches (`takes_unclosed`). A rule of the mode
is in order if its words lead from the inside of the string to the inside (`StaysInside`); such a
rule does not touch the question whether the string is closed (`closes_append`).
-/

namespace ModeLexer.Asm

open Unicode Regex

/-- How strings of a kind end. -/
structure QuoteStyle where
  /-- The closing quote. -/
  quote : Char
  /-- Whether two closing quotes stand for one within the string. -/
  doubled : Bool
  deriving DecidableEq, Repr

/-- Where reading a string has come to. -/
inductive QuoteState where
  | inside
  /-- Right after a backslash. -/
  | escaped
  /-- Right after a quote that is doubled if another one follows. -/
  | quoted
  | closed
  deriving DecidableEq, Repr

namespace QuoteStyle

variable {q : QuoteStyle}

/-- Reads one character. -/
def step (q : QuoteStyle) : QuoteState → Char → QuoteState
  | .inside, c =>
    if c = '\\' then .escaped
    else if c = q.quote then (if q.doubled then .quoted else .closed)
    else .inside
  | .escaped, _ => .inside
  | .quoted, c => if c = q.quote then .inside else .closed
  | .closed, _ => .closed

/-- Whether a string has come to a closing quote when it ends in a state. -/
def isClosed : QuoteState → Bool
  | .inside | .escaped => false
  | .quoted | .closed => true

/-- Whether a closing quote follows. -/
def Closes (q : QuoteStyle) (cs : List Char) : Prop := isClosed (cs.foldl q.step .inside)

/-- In nothing there is no closing quote. -/
theorem not_closes_nil : ¬q.Closes [] := by simp [Closes, isClosed]

/-- A string comes to wait behind a quote only where quotes are doubled. -/
theorem doubled_of_step_eq_quoted {s : QuoteState} {c : Char} (h : q.step s c = .quoted) :
    q.doubled := by
  cases s with
  | inside =>
    simp only [step] at h
    split at h
    · simp at h
    · split at h
      · split at h
        · assumption
        · simp at h
      · simp at h
  | escaped | closed => simp [step] at h
  | quoted =>
    simp only [step] at h
    split at h <;> simp at h

/-- What is closed stays closed. -/
theorem foldl_closed (cs : List Char) : cs.foldl q.step .closed = .closed := by
  induction cs with
  | nil => rfl
  | cons c cs ih => exact ih

/-! ### Words within a string -/

/-- The states to which the characters of a set can lead. -/
def next (q : QuoteStyle) (s : QuoteState) (a : CharSet) : List QuoteState :=
  if a = .single '\\' then [q.step s '\\']
  else if a = .single q.quote then [q.step s q.quote]
  else match s with
    | .inside =>
      (if a.contains '\\' then [.escaped] else []) ++
        (if a.contains q.quote then [.quoted, .closed] else []) ++ [.inside]
    | .escaped => [.inside]
    | .quoted => [.inside, .closed]
    | .closed => [.closed]

/-- A member of a set leads to one of the states to which the set can lead. -/
theorem step_mem_next (q : QuoteStyle) (s : QuoteState) (a : CharSet) (c : Char)
    (hc : a.contains c) : q.step s c ∈ q.next s a := by
  unfold next
  split
  · next ha =>
    rw [ha, CharSet.contains_single, decide_eq_true_eq] at hc
    simp [hc]
  split
  · next ha =>
    rw [ha, CharSet.contains_single, decide_eq_true_eq] at hc
    simp [hc]
  cases s with
  | inside =>
    by_cases hback : c = '\\'
    · subst hback
      simp [step, hc]
    by_cases hquote : c = q.quote
    · subst hquote
      cases hdoubled : q.doubled <;> simp [step, hback, hc, hdoubled]
    · simp [step, hback, hquote]
  | escaped => simp [step]
  | quoted => by_cases hquote : c = q.quote <;> simp [step, hquote]
  | closed => simp [step]

/-- Whether all words of a program lead from the inside of a string to its inside. -/
abbrev StaysInside (q : QuoteStyle) (p : Program) : Prop :=
  ∃ ss ∈ p.image q.next [.inside], ∀ s ∈ ss, s = .inside

/-- Behind such a word the string is closed as it was before. -/
theorem closes_append {p : Program} (hp : q.StaysInside p) {before : Option Char}
    {word rest cs : List Char} (h : p.Takes before word rest) :
    q.Closes (word ++ cs) ↔ q.Closes cs := by
  obtain ⟨ss, hss, hinside⟩ := hp
  have hmem := Program.foldl_mem_image q.step_mem_next hss h (List.mem_singleton_self _)
  rw [Closes, List.foldl_append, hinside _ hmem, Closes]

/-! ### Strings that are not closed -/

/-- A part of a string: a character without meaning, a doubled quote, or an escaped character. -/
def part (q : QuoteStyle) : Program :=
  let escape := .seq (.set (.single '\\')) (.set (.compl (.single '\n')))
  .choice none (.set (.compl (.union (.single q.quote) (.single '\\'))))
    (if q.doubled then
      .choice none (.seq (.set (.single q.quote)) (.set (.single q.quote))) escape
    else escape)

/-- Parts of a string up to the end of the line, where a backslash may stand. -/
def unclosedTail (q : QuoteStyle) : Program :=
  .seq (.star none true q.part)
    (.seq (.choice none (.seq (.set (.single '\\')) .empty) .empty) (.look .textEnd))

/-- A string that is opened by `opener` and not closed. -/
def unclosed (q : QuoteStyle) (opener : Char) : Program :=
  .seq (.look .textStart) (.seq (.set (.single opener)) q.unclosedTail)

theorem contains_single_self (c : Char) : (CharSet.single c).contains c := by
  rw [CharSet.contains_single, decide_eq_true_eq]

/-- A character without meaning is a part of a string. -/
theorem takes_part_char {c : Char} (hback : c ≠ '\\') (hquote : c ≠ q.quote)
    {before : Option Char} {rest : List Char} : q.part.Takes before [c] rest := by
  refine .inl ⟨c, ?_, rfl⟩
  simp [CharSet.contains_single, hback, hquote]

/-- A backslash and the character behind it are a part of a string. -/
theorem takes_part_escape {c : Char} (hc : c ≠ '\n') {before : Option Char} {rest : List Char} :
    q.part.Takes before ['\\', c] rest := by
  have hescape : (Program.seq (.set (.single '\\')) (.set (.compl (.single '\n')))).Takes before
      ['\\', c] rest :=
    ⟨['\\'], [c], rfl, ⟨'\\', contains_single_self _, rfl⟩, c,
      by simp [CharSet.contains_single, hc], rfl⟩
  refine .inr ?_
  cases hdoubled : q.doubled with
  | true => exact Or.inr hescape
  | false => exact hescape

/-- A doubled quote is a part of a string whose quotes are doubled. -/
theorem takes_part_doubled (hdoubled : q.doubled) {before : Option Char} {rest : List Char} :
    q.part.Takes before [q.quote, q.quote] rest := by
  refine .inr ?_
  rw [if_pos hdoubled]
  exact Or.inl ⟨[q.quote], [q.quote], rfl, ⟨_, contains_single_self _, rfl⟩, _,
    contains_single_self _, rfl⟩

/-- A part before what can be taken up to the end of the line. -/
theorem takes_unclosedTail_append {before : Option Char} {word cs : List Char}
    (h : q.part.Takes before word cs) (h' : q.unclosedTail.Takes (lastOr before word) cs []) :
    q.unclosedTail.Takes before (word ++ cs) [] := by
  obtain ⟨u, v, rfl, hu, hv⟩ := h'
  refine ⟨word ++ u, v, (List.append_assoc ..).symm, .more (by simpa using h) hu, ?_⟩
  rwa [lastOr_append]

/-- What has been read of a string in a state, but is not a part of it yet. -/
def pending (q : QuoteStyle) : QuoteState → List Char
  | .inside | .closed => []
  | .escaped => ['\\']
  | .quoted => [q.quote]

/-- From any state in which the string can still turn out not to be closed, everything up to the end
of the line is taken, if it does. -/
theorem takes_unclosedTail {s : QuoteState} {cs : List Char} (hline : '\n' ∉ cs)
    (hs : s = .quoted → q.doubled) (h : isClosed (cs.foldl q.step s) = false) :
    ∀ before, q.unclosedTail.Takes before (q.pending s ++ cs) [] := by
  -- the induction follows the automaton; what is pending becomes a part with its last character
  induction cs generalizing s with
  | nil =>
    intro before
    have hempty : q.unclosedTail.Takes before [] [] :=
      ⟨[], [], rfl, .done, [], [], rfl, .inr rfl, rfl, rfl⟩
    cases s with
    | inside => exact hempty
    | escaped =>
      refine ⟨[], ['\\'], rfl, .done, ['\\'], [], rfl, .inl ⟨['\\'], [], rfl, ?_, rfl⟩, rfl, rfl⟩
      exact ⟨'\\', contains_single_self _, rfl⟩
    | quoted | closed => simp [isClosed] at h
  | cons c cs ih =>
    intro before
    rw [List.foldl_cons] at h
    obtain ⟨hc, hcs⟩ : c ≠ '\n' ∧ '\n' ∉ cs := by simpa [eq_comm] using hline
    have ih := ih hcs doubled_of_step_eq_quoted h
    cases s with
    | inside =>
      by_cases hback : c = '\\'
      · subst hback
        simpa [step, pending] using ih before
      by_cases hquote : c = q.quote
      · subst hquote
        cases hdoubled : q.doubled with
        | true => simpa [step, pending, hback, hdoubled] using ih before
        | false => simp [step, hback, hdoubled, foldl_closed, isClosed] at h
      · have htail : q.unclosedTail.Takes (lastOr before [c]) cs [] := by
          simpa [step, pending, hback, hquote] using ih (lastOr before [c])
        show q.unclosedTail.Takes before ([c] ++ cs) []
        exact takes_unclosedTail_append (takes_part_char hback hquote) htail
    | escaped =>
      have htail : q.unclosedTail.Takes (lastOr before ['\\', c]) cs [] := by
        simpa [step, pending] using ih (lastOr before ['\\', c])
      show q.unclosedTail.Takes before (['\\', c] ++ cs) []
      exact takes_unclosedTail_append (takes_part_escape hc) htail
    | quoted =>
      by_cases hquote : c = q.quote
      · subst hquote
        have htail : q.unclosedTail.Takes (lastOr before [q.quote, q.quote]) cs [] := by
          simpa [step, pending] using ih (lastOr before [q.quote, q.quote])
        show q.unclosedTail.Takes before ([q.quote, q.quote] ++ cs) []
        exact takes_unclosedTail_append (takes_part_doubled (hs rfl)) htail
      · simp [step, hquote, foldl_closed, isClosed] at h
    | closed => simp [step, foldl_closed, isClosed] at h

/-- The program for strings that are not closed is plain and takes something. -/
theorem plain_unclosed {opener : Char} :
    (q.unclosed opener).plain ∧ (q.unclosed opener).consumes := by
  refine ⟨?_, rfl⟩
  cases hdoubled : q.doubled <;>
    simp [unclosed, unclosedTail, part, hdoubled, Program.plain, Program.consumes]

/-- A string that is not closed on its line is matched as such. -/
theorem takes_unclosed {opener : Char} {cs : List Char} (hline : '\n' ∉ cs) (h : ¬q.Closes cs) :
    (q.unclosed opener).Takes none (opener :: cs) [] := by
  have htail := takes_unclosedTail hline (by simp) (Bool.eq_false_iff.2 h) (some opener)
  exact ⟨[], opener :: cs, rfl, ⟨rfl, rfl⟩, [opener], cs, rfl,
    ⟨opener, contains_single_self _, rfl⟩, htail⟩

/-! ### Strings that are closed -/

/-- A run of characters without meaning. -/
def run (q : QuoteStyle) : Program :=
  .seq (.look .textStart)
    (.plus none true (.set (.compl (.union (.single '\\') (.single q.quote)))))

/-- An escaped character. -/
def anyEscape : Program :=
  .seq (.look .textStart) (.seq (.set (.single '\\')) (.set (.compl (.single '\n'))))

/-- The closing quote. -/
def closing (q : QuoteStyle) : Program := .seq (.look .textStart) (.set (.single q.quote))

/-- Programs of which one can take something as long as the string is still to be closed. -/
def readers (q : QuoteStyle) : List Program := [q.run, anyEscape, q.closing]

/-- The readers are plain and take something. -/
theorem plain_of_mem_readers {p : Program} (h : p ∈ q.readers) : p.plain ∧ p.consumes := by
  simp only [readers, List.mem_cons, List.not_mem_nil, or_false] at h
  rcases h with rfl | rfl | rfl <;> exact ⟨rfl, rfl⟩

/-- As long as the string is still to be closed one of the readers takes something. -/
theorem exists_reader {cs : List Char} (hline : '\n' ∉ cs) (h : q.Closes cs) :
    ∃ p ∈ q.readers, ∃ word rest, cs = word ++ rest ∧ p.Takes none word rest := by
  cases cs with
  | nil => exact absurd h not_closes_nil
  | cons c cs =>
    by_cases hback : c = '\\'
    · subst hback
      cases cs with
      | nil => simp [Closes, step, isClosed] at h
      | cons c cs =>
        have hc : c ≠ '\n' := by
          rintro rfl
          simp at hline
        exact ⟨anyEscape, by simp [readers], ['\\', c], cs, rfl, [], ['\\', c], rfl, ⟨rfl, rfl⟩,
          ['\\'], [c], rfl, ⟨'\\', contains_single_self _, rfl⟩, c,
          by simp [CharSet.contains_single, hc], rfl⟩
    by_cases hquote : c = q.quote
    · subst hquote
      exact ⟨q.closing, by simp [readers], [q.quote], cs, rfl, [], [q.quote], rfl, ⟨rfl, rfl⟩,
        q.quote, contains_single_self _, rfl⟩
    · exact ⟨q.run, by simp [readers], [c], cs, rfl, [], [c], rfl, ⟨rfl, rfl⟩, [c], [], rfl,
        ⟨c, by simp [CharSet.contains_single, hback, hquote], rfl⟩, .done⟩

end QuoteStyle

end ModeLexer.Asm
