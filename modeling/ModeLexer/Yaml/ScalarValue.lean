import ModeLexer.Unicode.CodeRanges
import ModeLexer.Yaml.Node

/-!
# What scalars stand for

A scalar without quotation marks and without a tag may stand for something else than its text: for
nothing, a truth value or a number. A number that starts with a superfluous zero is a text.
-/

namespace ModeLexer.Yaml

open Unicode

/-- What a scalar stands for. Only whole numbers below 2^64 without a minus sign can be told apart
later. -/
inductive ScalarValue where
  | null
  | bool (b : Bool)
  | index (n : Nat)
  | number
  | text (s : String)
  deriving DecidableEq, Repr

namespace ScalarValue

/-! ### Truth values and nothing -/

def isNull (s : String) : Bool := ["null", "Null", "NULL", "~"].contains s

def bool? (s : String) : Option Bool :=
  if ["true", "True", "TRUE"].contains s then some true
  else if ["false", "False", "FALSE"].contains s then some false
  else none

/-! ### Whole numbers -/

/-- The value of digits in a base, of which there has to be one at least. -/
def natOfDigits? (base : Nat) (cs : List Char) : Option Nat :=
  if !cs.isEmpty && cs.all fun c ↦ isHexDigit c && hexDigitValue c < base then
    some (cs.foldl (fun n c ↦ base * n + hexDigitValue c) 0)
  else none

/-- The value of digits after the sign of their base, or of decimal digits. -/
def magnitude? : List Char → Option Nat
  | '0' :: 'x' :: cs => natOfDigits? 16 cs
  | '0' :: 'o' :: cs => natOfDigits? 8 cs
  | '0' :: 'b' :: cs => natOfDigits? 2 cs
  | cs => natOfDigits? 10 cs

/-- Whether a text has several digits and the first one is zero. -/
def hasLeadingZero (cs : List Char) : Bool :=
  cs.head? = some '0' && 1 < cs.length && cs.all Char.isDigit

/-- Drops a sign. -/
def unsigned : List Char → List Char
  | '-' :: cs => cs
  | '+' :: cs => cs
  | cs => cs

/-- A whole number of at most 128 bits. -/
def int? (cs : List Char) : Option ScalarValue :=
  if hasLeadingZero (unsigned cs) then none
  else match cs, magnitude? (unsigned cs) with
    | '-' :: _, some n => if n ≤ Nat.pow 2 127 then some .number else none
    | _, some n =>
      if n < Nat.pow 2 64 then some (.index n)
      else if n < Nat.pow 2 128 then some .number else none
    | _, none => none

/-! ### Other numbers -/

/-- Whether `digits * 10 ^ exponent` is nearer to a finite binary floating-point number of double
precision than to infinity. All numbers below 2^1024 - 2^970 are. -/
def isFinite (digits : List Char) (exponent : Int) : Bool :=
  let bound := Nat.pow 2 1024 - Nat.pow 2 970
  let significant := digits.dropWhile (· = '0')
  let places : Int := significant.length + exponent
  if significant.isEmpty || places < 300 then true
  else if 310 < places then false
  else
    let m := (natOfDigits? 10 significant).getD 0
    if 0 ≤ exponent then m * Nat.pow 10 exponent.toNat < bound
    else m < bound * Nat.pow 10 (-exponent).toNat

/-- The exponent after a mantissa; an exponent that is not written is zero. -/
def exponent? : List Char → Option Int
  | [] => some 0
  | e :: cs =>
    if e = 'e' ∨ e = 'E' then
      match cs, natOfDigits? 10 (unsigned cs) with
      | '-' :: _, some n => some (-n)
      | _, some n => some n
      | _, none => none
    else none

/-- Whether a text without a sign is a decimal number that is not too large. -/
def isDecimal (cs : List Char) : Bool :=
  let whole := cs.takeWhile Char.isDigit
  let rest := cs.dropWhile Char.isDigit
  let (fraction, rest) := match rest with
    | '.' :: rest => (rest.takeWhile Char.isDigit, rest.dropWhile Char.isDigit)
    | _ => ([], rest)
  let digits := whole ++ fraction
  !digits.isEmpty && (exponent? rest).any fun e ↦ isFinite digits (e - fraction.length)

/-- Whether a text is a number that is not a whole one. Infinity may have a sign, and what is no
number may not. -/
def isFloat (cs : List Char) : Bool :=
  [".inf", ".Inf", ".INF"].contains (String.ofList (unsigned cs)) ||
    [".nan", ".NaN", ".NAN"].contains (String.ofList cs) || isDecimal (unsigned cs)

/-! ### Scalars -/

/-- What a text stands for where nothing says that it is a text. -/
def ofText (s : String) : ScalarValue :=
  let cs := s.toList
  if s.isEmpty || isNull s then .null
  else match bool? s with
    | some b => .bool b
    | none =>
      match int? cs with
      | some v => v
      | none => if !hasLeadingZero (unsigned cs) && isFloat cs then .number else .text s

/-- What a scalar stands for. The four standard tags for truth values, numbers and null ask for a
text of their kind; any other tag makes the scalar a text. -/
def ofScalar? (props : Properties) (style : ScalarStyle) (s : String) : Option ScalarValue :=
  match props.tag? with
  | some "tag:yaml.org,2002:bool" => (bool? s).map .bool
  | some "tag:yaml.org,2002:int" => int? s.toList
  | some "tag:yaml.org,2002:float" => if isFloat s.toList then some .number else none
  | some "tag:yaml.org,2002:null" => if isNull s then some .null else none
  | some _ => some (.text s)
  | none => some (if style = .plain then ofText s else .text s)

end ScalarValue

end ModeLexer.Yaml
