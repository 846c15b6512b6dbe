/-!
# JSON values

A value keeps what its text says: an object keeps the order of its members and repeated keys, and a
number its numeral.
-/

namespace ModeLexer

/-- A JSON value. -/
inductive Json where
  | null
  | bool (value : Bool)
  | number (numeral : String)
  | string (value : String)
  | array (items : List Json)
  | object (members : List (String × Json))
  deriving Repr, Inhabited

namespace Json

/-- A natural number as a value. -/
def nat (n : Nat) : Json := .number (toString n)

/-- The first member of an object with a key. -/
def get? (j : Json) (key : String) : Option Json :=
  match j with
  | .object members => members.lookup key
  | _ => none

end Json

end ModeLexer
