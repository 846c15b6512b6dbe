/-!
# Spans and byte offsets

A position in a line is a byte offset into its UTF-8 form, also where a character takes several
bytes. A span is a pair of such offsets. `sliceFrom?` and `slice?` cut a line at offsets and refuse
an offset that is out of range or falls inside a character.
-/

namespace ModeLexer

/-- A range of byte offsets, `start` included and `stop` excluded. -/
structure Span where
  start : Nat
  stop : Nat
  deriving DecidableEq, Repr, Inhabited

namespace Span

/-- Whether a span holds no byte. -/
def isEmpty (s : Span) : Bool := s.stop ≤ s.start

/-- The number of bytes in a span. -/
def length (s : Span) : Nat := s.stop - s.start

/-- The span moved to the right by `n` bytes. -/
def shift (s : Span) (n : Nat) : Span := ⟨s.start + n, s.stop + n⟩

end Span

namespace Text

/-- The number of bytes that a list of characters takes in UTF-8. -/
def byteLength : List Char → Nat
  | [] => 0
  | c :: cs => c.utf8Size + byteLength cs

@[simp] theorem byteLength_nil : byteLength [] = 0 := rfl

@[simp] theorem byteLength_cons (c : Char) (cs : List Char) :
    byteLength (c :: cs) = c.utf8Size + byteLength cs := rfl

/-- The bytes of two texts are counted one text after the other. -/
@[simp] theorem byteLength_append (as bs : List Char) :
    byteLength (as ++ bs) = byteLength as + byteLength bs := by
  induction as with
  | nil => simp
  | cons a as ih => simp [ih, Nat.add_assoc]

/-- Splits characters at a byte offset, which has to be a boundary between two of them. -/
def splitAt? : Nat → List Char → Option (List Char × List Char)
  | 0, cs => some ([], cs)
  | _ + 1, [] => none
  | n + 1, c :: cs =>
    if c.utf8Size ≤ n + 1 then
      (splitAt? (n + 1 - c.utf8Size) cs).map fun (as, bs) ↦ (c :: as, bs)
    else none
termination_by structural _ cs => cs

/-- At the offset 0 every text can be split. -/
theorem splitAt?_zero (cs : List Char) : splitAt? 0 cs = some ([], cs) := by
  cases cs <;> rfl

/-- The two parts of a split make up the whole, and the first of them has the asked length. -/
theorem append_of_splitAt? {n : Nat} {cs as bs : List Char} (h : splitAt? n cs = some (as, bs)) :
    as ++ bs = cs ∧ byteLength as = n := by
  induction cs generalizing n as with
  | nil => cases n <;> simp_all [splitAt?]
  | cons c cs ih =>
    cases n with
    | zero => simp_all [splitAt?]
    | succ n =>
      simp only [splitAt?] at h
      split at h
      · obtain ⟨⟨as', bs'⟩, h', heq⟩ := Option.map_eq_some_iff.1 h
        simp only [Prod.mk.injEq] at heq
        obtain ⟨rfl, rfl⟩ := heq
        obtain ⟨h₁, h₂⟩ := ih h'
        refine ⟨by simp [h₁], ?_⟩
        simp only [byteLength_cons, h₂]
        omega
      · simp at h

/-- Every boundary is found. -/
theorem splitAt?_byteLength (as bs : List Char) :
    splitAt? (byteLength as) (as ++ bs) = some (as, bs) := by
  induction as with
  | nil => exact splitAt?_zero bs
  | cons a as ih =>
    have hpos := a.utf8Size_pos
    obtain ⟨n, hn⟩ : ∃ n, a.utf8Size + byteLength as = n + 1 :=
      ⟨a.utf8Size + byteLength as - 1, by omega⟩
    have hsub : n + 1 - a.utf8Size = byteLength as := by omega
    have hle : a.utf8Size ≤ n + 1 := by omega
    simp [hn, splitAt?, hsub, ih, hle]

/-- The characters from a byte offset on. -/
def sliceFrom? (cs : List Char) (start : Nat) : Option (List Char) :=
  (splitAt? start cs).map (·.2)

/-- The characters of a span. -/
def slice? (cs : List Char) (s : Span) : Option (List Char) :=
  if s.start ≤ s.stop then
    (sliceFrom? cs s.start).bind fun rest ↦ (splitAt? (s.stop - s.start) rest).map (·.1)
  else none

end Text

end ModeLexer
