import ModeLexer.Unicode.CharClass
import ModeLexer.Unicode.CaseFolding

/-!
# Sets of characters

A set is kept as the expression that describes it and not as a table, so that the Boolean operations
need no normal form: each of them is one line of `CharSet.contains`. `variants` closes a set under
simple case folding.
-/

namespace ModeLexer.Unicode

/-- An expression for a set of characters. -/
inductive CharSet where
  /-- No character. -/
  | empty
  /-- The characters from `lo` to `hi`, both included. -/
  | range (lo hi : Char)
  /-- The characters of a table. -/
  | table (t : CodeRanges)
  /-- The digits, the blanks or the word characters. -/
  | charClass (k : CharClass)
  /-- The digits, the blanks or the word characters of ASCII. -/
  | asciiClass (k : CharClass)
  | union (a b : CharSet)
  | inter (a b : CharSet)
  | compl (a : CharSet)
  /-- All characters that differ from a member at most in case. -/
  | variants (a : CharSet)
  /-- All characters that differ from a member at most in ASCII case. -/
  | asciiVariants (a : CharSet)
  deriving DecidableEq, Repr

namespace CharSet

/-- Whether a character is a member. -/
def contains : CharSet → Char → Bool
  | empty, _ => false
  | range lo hi, c => lo ≤ c && c ≤ hi
  | table t, c => t.contains c
  | charClass k, c => k.contains c
  | asciiClass k, c => k.containsAscii c
  | union a b, c => a.contains c || b.contains c
  | inter a b, c => a.contains c && b.contains c
  | compl a, c => !a.contains c
  | variants a, c => (caseVariants c).any a.contains
  | asciiVariants a, c => (asciiOnlyCaseVariants c).any a.contains

/-- The set of one character. -/
def single (c : Char) : CharSet := range c c

/-- All characters. -/
def all : CharSet := compl empty

/-- The members of `a` that are not in `b`. -/
def diff (a b : CharSet) : CharSet := inter a (compl b)

/-- The members of exactly one of the two sets. -/
def symmDiff (a b : CharSet) : CharSet := union (diff a b) (diff b a)

/-- The union of several sets. -/
def unions : List CharSet → CharSet
  | [] => empty
  | [a] => a
  | a :: as => union a (unions as)

/-! ### Membership -/

@[simp] theorem contains_empty (c : Char) : empty.contains c = false := rfl

@[simp] theorem contains_union (a b : CharSet) (c : Char) :
    (union a b).contains c = (a.contains c || b.contains c) := rfl

@[simp] theorem contains_inter (a b : CharSet) (c : Char) :
    (inter a b).contains c = (a.contains c && b.contains c) := rfl

@[simp] theorem contains_compl (a : CharSet) (c : Char) :
    (compl a).contains c = !a.contains c := rfl

@[simp] theorem contains_all (c : Char) : all.contains c = true := rfl

@[simp] theorem contains_diff (a b : CharSet) (c : Char) :
    (diff a b).contains c = (a.contains c && !b.contains c) := rfl

/-- A character is in the symmetric difference exactly if it is in one of the sets and not in the
other. -/
theorem contains_symmDiff (a b : CharSet) (c : Char) :
    (symmDiff a b).contains c = (a.contains c ^^ b.contains c) := by
  simp only [symmDiff, contains_union, contains_diff]
  cases a.contains c <;> cases b.contains c <;> rfl

/-- The set of one character has that character and no other. -/
theorem contains_single (x c : Char) : (single x).contains c = decide (c = x) := by
  simp only [single, contains, ← Bool.decide_and, decide_eq_decide]
  constructor
  · rintro ⟨h₁, h₂⟩
    exact Char.le_antisymm h₂ h₁
  · rintro rfl
    exact ⟨Char.le_refl _, Char.le_refl _⟩

/-- The union of several sets has the members of all of them. -/
theorem contains_unions (as : List CharSet) (c : Char) :
    (unions as).contains c = as.any (·.contains c) := by
  fun_induction unions as <;> simp_all [contains]

end CharSet

end ModeLexer.Unicode
