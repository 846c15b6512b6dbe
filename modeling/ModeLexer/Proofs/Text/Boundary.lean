import ModeLexer.Text.Span

/-!
# Character boundaries

A *boundary* of a text is a byte offset between two of its characters, or at one of its ends. Every
position that scanning and matching work with is one: they only ever pass whole characters. A span
*fits* a text if it runs forward between two boundaries; the spans that fit are exactly those that
can be cut out (`fits_iff_slice?`).
-/

namespace ModeLexer

namespace Text

/-- Whether a byte offset lies between two characters of a text, or at one of its ends. -/
def IsBoundary (cs : List Char) (n : Nat) : Prop :=
  ∃ as bs, as ++ bs = cs ∧ byteLength as = n

theorem isBoundary_zero (cs : List Char) : IsBoundary cs 0 := ⟨[], cs, rfl, rfl⟩

theorem IsBoundary.le {cs : List Char} {n : Nat} (h : IsBoundary cs n) : n ≤ byteLength cs := by
  obtain ⟨as, bs, rfl, rfl⟩ := h
  simp

/-- A boundary of a text is one, further on, of every text that ends with it. -/
theorem IsBoundary.append_left {cs : List Char} {n : Nat} (h : IsBoundary cs n)
    (pre : List Char) : IsBoundary (pre ++ cs) (byteLength pre + n) := by
  obtain ⟨as, bs, rfl, rfl⟩ := h
  exact ⟨pre ++ as, bs, by simp, by simp⟩

/-- Only the empty text takes no byte. -/
theorem byteLength_eq_zero_iff {cs : List Char} : byteLength cs = 0 ↔ cs = [] := by
  cases cs with
  | nil => simp
  | cons c cs =>
    have := c.utf8Size_pos
    simp only [byteLength_cons, reduceCtorEq, iff_false]
    omega

/-- Of two ways to cut a text the one with the longer first part cuts its second part out of the
second part of the other. -/
theorem exists_middle {as bs as' bs' : List Char} (h : as ++ bs = as' ++ bs')
    (hle : byteLength as ≤ byteLength as') : ∃ mid, as' = as ++ mid ∧ bs = mid ++ bs' := by
  rcases List.append_eq_append_iff.1 h with ⟨mid, has, hbs⟩ | ⟨mid, has, hbs⟩
  · exact ⟨mid, has, hbs⟩
  · -- the first parts are the same text
    have hmid : mid = [] := by
      refine byteLength_eq_zero_iff.1 ?_
      rw [has, byteLength_append] at hle
      omega
    subst hmid
    exact ⟨[], by simpa using has.symm, by simpa using hbs.symm⟩

/-- Behind the next character of a text stands the text without it. -/
theorem exists_before_next {text cs : List Char} {n : Nat} {c : Char}
    (h : ∃ before, before ++ c :: cs = text ∧ byteLength before = n) :
    ∃ before, before ++ cs = text ∧ byteLength before = n + c.utf8Size := by
  obtain ⟨before, rfl, rfl⟩ := h
  refine ⟨before ++ [c], by rw [List.append_assoc, List.singleton_append], ?_⟩
  rw [byteLength_append, byteLength_cons, byteLength_nil]
  rfl

end Text

namespace Span

open Text

/-- Whether a span runs forward between two boundaries of a text. -/
structure Fits (cs : List Char) (s : Span) : Prop where
  start_le_stop : s.start ≤ s.stop
  start : IsBoundary cs s.start
  stop : IsBoundary cs s.stop

/-- A span that fits a text fits, moved along, every text that ends with it. -/
theorem Fits.shift {cs : List Char} {s : Span} (h : s.Fits cs) (pre : List Char) :
    (s.shift (byteLength pre)).Fits (pre ++ cs) where
  start_le_stop := Nat.add_le_add_right h.start_le_stop _
  start := by simpa [Span.shift, Nat.add_comm] using h.start.append_left pre
  stop := by simpa [Span.shift, Nat.add_comm] using h.stop.append_left pre

/-- A span that fits a text divides it into three parts. -/
theorem Fits.exists_parts {cs : List Char} {s : Span} (h : s.Fits cs) :
    ∃ as mid bs, cs = as ++ (mid ++ bs) ∧ byteLength as = s.start ∧
      byteLength (as ++ mid) = s.stop := by
  obtain ⟨as, bs, happ, hlen⟩ := h.start
  obtain ⟨as', bs', happ', hlen'⟩ := h.stop
  have hle : byteLength as ≤ byteLength as' := by
    rw [hlen, hlen']
    exact h.start_le_stop
  obtain ⟨mid, rfl, rfl⟩ := exists_middle (happ.trans happ'.symm) hle
  exact ⟨as, mid, bs', happ.symm, hlen, hlen'⟩

end Span

namespace Text

/-- The middle of three parts is cut out by the span that it takes. -/
theorem slice?_append (as mid bs : List Char) :
    slice? (as ++ (mid ++ bs)) ⟨byteLength as, byteLength as + byteLength mid⟩ = some mid := by
  simp [slice?, sliceFrom?, splitAt?_byteLength]

/-- Exactly the spans that fit a text can be cut out of it. -/
theorem fits_iff_slice? {cs : List Char} {s : Span} : s.Fits cs ↔ (slice? cs s).isSome := by
  constructor
  · intro h
    obtain ⟨as, mid, bs, rfl, hstart, hstop⟩ := h.exists_parts
    have hs : s = ⟨byteLength as, byteLength as + byteLength mid⟩ := by
      rw [← byteLength_append, hstart, hstop]
    rw [hs, slice?_append]
    rfl
  · intro h
    unfold slice? sliceFrom? at h
    split at h
    · next hle =>
      cases hstart : splitAt? s.start cs with
      | none => simp [hstart] at h
      | some parts =>
        obtain ⟨as, rest⟩ := parts
        cases hstop : splitAt? (s.stop - s.start) rest with
        | none => simp [hstart, hstop] at h
        | some parts' =>
          obtain ⟨mid, bs⟩ := parts'
          obtain ⟨rfl, hlen⟩ := append_of_splitAt? hstart
          obtain ⟨rfl, hlen'⟩ := append_of_splitAt? hstop
          refine ⟨hle, ⟨as, mid ++ bs, rfl, hlen⟩, ⟨as ++ mid, bs, by simp, ?_⟩⟩
          rw [byteLength_append]
          omega
    · simp at h

end Text

end ModeLexer
