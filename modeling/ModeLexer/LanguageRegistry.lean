import ModeLexer.Asm
import ModeLexer.Table.Build

/-!
# Languages by name

A registry holds rule tables by the names of their languages. A definition whose table cannot be
built leaves the registry as it was.
-/

namespace ModeLexer

/-- Rule tables by language. -/
structure LanguageRegistry where
  tables : KeyMap RuleTable
  deriving DecidableEq, Repr

namespace LanguageRegistry

/-- The registry without languages. -/
def empty : LanguageRegistry := ⟨.empty⟩

/-- Whether there is a language with a name. -/
def contains (r : LanguageRegistry) (name : String) : Bool := r.tables.contains name

/-- The table of a language. -/
def get? (r : LanguageRegistry) (name : String) : Option RuleTable := r.tables.get? name

/-- The names of the languages, in increasing order. -/
def names (r : LanguageRegistry) : List String := r.tables.keys

/-- Adds a table under the name of its language, or replaces the one there. -/
def registerTable (r : LanguageRegistry) (t : RuleTable) : LanguageRegistry :=
  ⟨r.tables.insert t.language t⟩

/-- What is reported when a table is added. -/
def registerNotice (r : LanguageRegistry) (t : RuleTable) : Notice :=
  if r.contains t.language then .replaced t.language else .registered t.language

variable [Regex.SizeLimit]

/-- Builds the table of a definition and adds it; gives what is reported too. -/
def register (r : LanguageRegistry) (d : Definition) :
    Except ConfigError (LanguageRegistry × List Notice) := do
  let t ← RuleTable.build d
  return (r.registerTable t, [t.builtNotice, r.registerNotice t])

/-- Adds definitions one after the other, up to the first that cannot be built. -/
def registerAll (r : LanguageRegistry) :
    List Definition → Except ConfigError (LanguageRegistry × List Notice)
  | [] => .ok (r, [])
  | d :: ds => do
    let (r, ns) ← r.register d
    let (r, ms) ← r.registerAll ds
    return (r, ns ++ ms)

/-- The languages that are always there. -/
def builtins : List Definition := [Asm.definition]

/-- The registry of the languages that are always there. -/
def default : Except ConfigError (LanguageRegistry × List Notice) := empty.registerAll builtins

end LanguageRegistry

end ModeLexer
