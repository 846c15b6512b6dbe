import ModeLexer.ConfigError
import ModeLexer.KeyMap
import ModeLexer.Pattern.Basic
import ModeLexer.Pattern.Reference

/-!
# Pattern libraries

A library holds named patterns with all references in them replaced by the patterns that they refer
to. `PatternLibrary.resolve` follows the references of one pattern and keeps every text that it
comes to, so that no pattern is followed twice. The names on the way from the pattern it began with
are remembered: a name that comes up again closes a cycle. Each step adds one of the library's names
to them, so one step more than there are names is never needed.
-/

namespace ModeLexer

/-- Named patterns in which all references are resolved. -/
structure PatternLibrary where
  resolved : KeyMap String
  deriving DecidableEq, Repr

namespace PatternLibrary

open Pattern

/-- A computation that can look up and add to the texts of the patterns resolved so far. -/
abbrev Resolving := StateT (KeyMap String) (Except ConfigError)

/-- The text of a named pattern of `sources`, with all references replaced. `visiting` are the names
on the way to it, and `site` is where it is referred to. -/
def resolve (sources : KeyMap String) :
    Nat → List String → PatternSite → String → Resolving (List Char)
  | 0, visiting, _, name => fun _ ↦ .error (.patternCycle (visiting ++ [name]))
  | fuel + 1, visiting, site, name => fun resolved ↦
    match resolved.get? name with
    | some text => .ok (text.toList, resolved)
    | none =>
      if visiting.contains name then .error (.patternCycle (visiting ++ [name]))
      else match sources.get? name with
        | none => .error (.unknownPattern name site)
        | some source => do
          let (text, resolved) ← substitute (m := Resolving)
            (resolve sources fuel (visiting ++ [name]) (.pattern name))
            (Piece.ofChars source.toList) resolved
          return (text, resolved.insert name (String.ofList text))

/-- The text of a named pattern of `sources`, with all references replaced. -/
def resolveName (sources : KeyMap String) (name : String) : Resolving (List Char) :=
  resolve sources (sources.size + 1) [] .library name

/-- Resolves patterns one after the other, up to the first mistake. -/
def resolveAll (sources : KeyMap String) :
    List String → KeyMap String → Except ConfigError (KeyMap String)
  | [], resolved => .ok resolved
  | name :: names, resolved => do
    let (_, resolved) ← resolveName sources name resolved
    resolveAll sources names resolved

/-- The library of named patterns as they are written. -/
def ofSources (sources : KeyMap String) : Except ConfigError PatternLibrary := do
  let resolved ← resolveAll sources sources.keys .empty
  return ⟨resolved⟩

/-- The text of a named pattern. -/
def get? (l : PatternLibrary) (name : String) : Option String := l.resolved.get? name

/-- The names of the patterns, in increasing order. -/
def names (l : PatternLibrary) : List String := l.resolved.keys

/-- The text that a reference to a pattern is replaced by; `site` is where it stands. -/
def lookup (l : PatternLibrary) (site : PatternSite) (name : String) :
    Except ConfigError (List Char) :=
  match l.get? name with
  | some text => .ok text.toList
  | none => .error (.unknownPattern name site)

/-- Replaces the references in a text; `site` is what a mistake is reported for. -/
def expand (l : PatternLibrary) (source : String) (site : PatternSite) :
    Except ConfigError String := do
  let text ← substitute (l.lookup site) (Piece.ofChars source.toList)
  return String.ofList text

variable [Regex.SizeLimit]

/-- Compiles a pattern, reporting a mistake for `site`. -/
def compileAt (site : PatternSite) (source : String) (ignoreCase : Bool) :
    Except ConfigError Pattern :=
  (Pattern.compile source ignoreCase).mapError (.invalidPattern site)

/-- Compiles a pattern of the library by itself. -/
def compile (l : PatternLibrary) (name : String) (ignoreCase : Bool) :
    Except ConfigError Pattern :=
  match l.get? name with
  | none => .error (.unknownPattern name .caller)
  | some source => compileAt (.pattern name) source ignoreCase

end PatternLibrary

end ModeLexer
