/-!
# Ranges of code points

The tables of this library list characters by ranges of code points. They are written as text, in
hexadecimal, `41-5A 61-7A AA` for the ranges from `A` to `Z` and from `a` to `z` and one character
more, on one or more lines, and read by `CodeRanges.ofHex`. Membership looks at one range after the
other, so it depends neither on their order nor on whether they overlap, and a union is an append.
-/

namespace ModeLexer.Unicode

/-- Inclusive ranges of code points. -/
abbrev CodeRanges := List (Nat × Nat)

/-- The value of a hexadecimal digit, `0` for any other character. -/
def hexDigitValue (c : Char) : Nat :=
  if '0' ≤ c ∧ c ≤ '9' then c.toNat - '0'.toNat
  else if 'A' ≤ c ∧ c ≤ 'F' then c.toNat - 'A'.toNat + 10
  else if 'a' ≤ c ∧ c ≤ 'f' then c.toNat - 'a'.toNat + 10
  else 0

/-- Whether `c` is a hexadecimal digit. -/
def isHexDigit (c : Char) : Bool :=
  ('0' ≤ c && c ≤ '9') || ('A' ≤ c && c ≤ 'F') || ('a' ≤ c && c ≤ 'f')

namespace CodeRanges

/-- Reads ranges from their characters; `n` is the number read so far and `lo` the lower end of the
range that it closes, if a hyphen was read before it. -/
def read (lo : Option Nat) (n : Nat) : List Char → CodeRanges
  | [] => [(lo.getD n, n)]
  | '-' :: cs => read (some n) 0 cs
  | ' ' :: cs => (lo.getD n, n) :: read none 0 cs
  | c :: cs => read lo (16 * n + hexDigitValue c) cs

/-- Reads the lines of a table. -/
def ofHex (lines : List String) : CodeRanges := lines.flatMap fun s ↦ read none 0 s.toList

/-- Whether a character lies in one of the ranges. -/
def contains (t : CodeRanges) (c : Char) : Bool :=
  t.any fun r ↦ r.1 ≤ c.toNat && c.toNat ≤ r.2

end CodeRanges

end ModeLexer.Unicode
