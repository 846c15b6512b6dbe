import ModeLexer.Unicode.CodeRanges
import ModeLexer.Yaml.Cursor

/-!
# Tags, anchors and directives

A tag is written as a handle and a suffix, or in full between angle brackets. A handle stands for
the beginning of a tag; directives at the start of a document say which.
-/

namespace ModeLexer.Yaml

open Unicode

/-! ### Parts of tags -/

/-- Characters that may stand in a tag. The comma and the square brackets may do so only where no
flow collection can be meant. -/
def isUriChar (verbatim : Bool) (c : Char) : Bool :=
  isNameChar c || ";/?:@&=+$.%!~*'()".toList.contains c ||
    (verbatim && (c = ',' || c = '[' || c = ']'))

/-- The value of an octet that is written as a percent sign and two digits. -/
def octet? : List Char → Option Nat
  | '%' :: h :: l :: _ =>
    if isHexDigit h && isHexDigit l then some (16 * hexDigitValue h + hexDigitValue l) else none
  | _ => none

/-- The number of octets after a first octet, and what that one contributes. -/
def leadingOctet? (b : Nat) : Option (Nat × Nat) :=
  if b < 0x80 then some (0, b)
  else if 0xC0 ≤ b ∧ b < 0xE0 then some (1, b - 0xC0)
  else if 0xE0 ≤ b ∧ b < 0xF0 then some (2, b - 0xE0)
  else if 0xF0 ≤ b ∧ b < 0xF8 then some (3, b - 0xF0)
  else none

/-- Adds the octets after a first one. -/
def trailingOctets? : Nat → Nat → List Char → Option Nat
  | 0, value, _ => some value
  | n + 1, value, cs => do
    let b ← octet? cs
    if 0x80 ≤ b ∧ b < 0xC0 then trailingOctets? n (64 * value + (b - 0x80)) (cs.drop 3) else none

/-- A character that is written as octets, and how many these are. -/
def escapedUriChar? (cs : List Char) : Option (Char × Nat) := do
  let (more, first) ← leadingOctet? (← octet? cs)
  let value ← trailingOctets? more first (cs.drop 3)
  if value.isValidChar then some (Char.ofNat value, more + 1) else none

/-- Reads the characters of a tag, at most `n` of them. -/
def readUri (verbatim : Bool) : Nat → Cursor → Except SyntaxError (List Char × Cursor)
  | 0, c => .ok ([], c)
  | n + 1, c =>
    match c.rest with
    | [] => .ok ([], c)
    | d :: _ =>
      if !isUriChar verbatim d then .ok ([], c)
      else if d = '%' then
        match escapedUriChar? c.rest with
        | none => .error .invalidTag
        | some (e, octets) => do
          let (cs, c) ← readUri verbatim n (c.skip (3 * octets))
          return (e :: cs, c)
      else do
        let (cs, c) ← readUri verbatim n (c.skip 1)
        return (d :: cs, c)

/-- Reads the characters of a tag, of which there has to be one at least. -/
def readUri1 (verbatim : Bool) (c : Cursor) : Except SyntaxError (List Char × Cursor) := do
  let (cs, c) ← readUri verbatim c.rest.length c
  if cs.isEmpty then .error .invalidTag else .ok (cs, c)

/-- Passes an exclamation mark, a name and perhaps another exclamation mark; tells whether it
does end with one, so that it can only be a handle. -/
def readHandle (c : Cursor) : List Char × Bool × Cursor :=
  let (name, c) := (c.skip 1).takeWhile isNameChar
  if c.rest.head? = some '!' then ('!' :: name ++ ['!'], true, c.skip 1)
  else ('!' :: name, false, c)

/-! ### Tags and anchors -/

/-- A tag as it is written; the handle is empty if the suffix is the whole tag. -/
structure WrittenTag where
  handle : String
  suffix : String
  deriving DecidableEq, Repr

/-- Reads a tag whose first character is known to be there. -/
def readTagParts (c : Cursor) : Except SyntaxError (WrittenTag × Cursor) :=
  match c.rest.drop 1 with
  | '<' :: _ => do
    let (uri, c) ← readUri1 true (c.skip 2)
    if c.rest.head? = some '>' then .ok (⟨"", String.ofList uri⟩, c.skip 1) else .error .invalidTag
  | _ =>
    let (handle, closed, next) := readHandle c
    if closed then do
      let (suffix, c) ← readUri1 false next
      return (⟨String.ofList handle, String.ofList suffix⟩, c)
    else do
      let (more, c) ← readUri false next.rest.length next
      let suffix := handle.drop 1 ++ more
      return (if suffix.isEmpty then ⟨"", "!"⟩ else ⟨"!", String.ofList suffix⟩, c)

/-- Reads a tag, after which something has to follow that separates. -/
def readTag (flow : Bool) (c : Cursor) : Except SyntaxError (WrittenTag × Cursor) := do
  let (tag, c) ← readTagParts c
  if atSeparator c.rest || (flow && c.rest.head? = some ',') then .ok (tag, c)
  else .error .invalidTag

/-- Reads the name of an anchor after its sign. -/
def readAnchorName (c : Cursor) : Except SyntaxError (String × Cursor) :=
  let (name, c) := c.takeWhile isNameChar
  let ends := atSeparator c.rest || c.rest.head?.any ("?:,]\x7d%@\x60".toList.contains ·)
  if name.isEmpty || !ends then .error .invalidName else .ok (String.ofList name, c)

/-! ### Directives -/

/-- What a line before a document says about it. -/
inductive Directive where
  /-- The version of the language that it is written in. -/
  | version (major minor : Nat)
  /-- What a handle stands for. -/
  | handle (name stem : String)
  deriving DecidableEq, Repr

/-- Reads a number of at most nine digits. -/
def readVersionNumber (c : Cursor) : Except SyntaxError (Nat × Cursor) :=
  let (digits, c) := c.takeWhile Char.isDigit
  if digits.isEmpty || 9 < digits.length then .error .invalidDirective
  else .ok (digits.foldl (fun n d ↦ 10 * n + (d.toNat - '0'.toNat)) 0, c)

/-- Reads the value of a directive. -/
def readDirectiveValue (name : List Char) (c : Cursor) :
    Except SyntaxError (Directive × Cursor) :=
  let c := c.skipWhile isBlank
  if name = ['Y', 'A', 'M', 'L'] then do
    let (major, c) ← readVersionNumber c
    if c.rest.head? ≠ some '.' then .error .invalidDirective
    else
      let (minor, c) ← readVersionNumber (c.skip 1)
      return (.version major minor, c)
  else if name = ['T', 'A', 'G'] then
    let (handle, closed, next) := readHandle c
    if c.rest.head? ≠ some '!' || !(closed || handle.length = 1) ||
        !next.rest.head?.any isBlank then
      .error .invalidDirective
    else do
      let (stem, c) ← readUri1 true (next.skipWhile isBlank)
      if atSeparator c.rest then .ok (.handle (String.ofList handle) (String.ofList stem), c)
      else .error .invalidDirective
  else .error .invalidDirective

/-- Reads a directive after its sign, with the rest of its line. -/
def readDirective (c : Cursor) : Except SyntaxError (Directive × Cursor) := do
  let (name, c) := c.takeWhile isNameChar
  if !atSeparator c.rest then .error .invalidDirective
  else
    let (directive, c) ← readDirectiveValue name c
    return (directive, ← c.finishLine .invalidDirective)

end ModeLexer.Yaml
