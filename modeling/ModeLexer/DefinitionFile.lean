import ModeLexer.Definition.FromJson
import ModeLexer.Definition.FromYaml
import ModeLexer.Table.Build
import ModeLexer.Text.Path

/-!
# Definition files

A definition is read from a file in JSON or in YAML; which of the two is told by the extension of
the path. Reading goes through a function from paths to texts, so that what is done with a text does
not depend on where it comes from.
-/

namespace ModeLexer

/-- Why a file cannot be read. -/
inductive FileError where
  | notFound
  | notADirectory
  | isADirectory
  | nameTooLong
  | nameHasNul
  /-- The bytes of the file are no text. -/
  | notText
  /-- Any other reason, in the words of the system. -/
  | other (text : String)
  deriving DecidableEq, Repr

/-- The reason in words. -/
def FileError.message : FileError → String
  | notFound => "No such file or directory (os error 2)"
  | notADirectory => "Not a directory (os error 20)"
  | isADirectory => "Is a directory (os error 21)"
  | nameTooLong => "File name too long (os error 36)"
  | nameHasNul => "file name contained an unexpected NUL byte"
  | notText => "stream did not contain valid UTF-8"
  | other text => text

/-- Gives the text of a file. -/
abbrev FileReader := String → Except FileError String

/-- The notations that a definition can be written in. -/
inductive DefinitionFormat where
  | yaml | json
  deriving DecidableEq, Repr

namespace DefinitionFormat

/-- The name of a notation in notices. -/
def label : DefinitionFormat → String
  | yaml => "Yaml"
  | json => "Json"

/-- The notation that a path's extension tells; case does not matter in it. -/
def ofPath? (path : String) : Option DefinitionFormat :=
  (Text.fileExtension? path.toList).bind fun extension ↦
    let lower := String.ofList (extension.map Char.toLower)
    if lower = "yaml" ∨ lower = "yml" then some yaml
    else if lower = "json" then some json
    else none

end DefinitionFormat

/-- Why a definition cannot be loaded. -/
inductive LoadError where
  | unreadable (path : String) (reason : FileError)
  | invalidYaml (reason : YamlDefinitionError)
  | invalidJson (reason : JsonDefinitionError)
  | unsupportedExtension (path : String)
  | config (reason : ConfigError)
  deriving DecidableEq, Repr

namespace LoadError

/-- What went wrong, in words. -/
def message : LoadError → String
  | unreadable path reason => "cannot read " ++ path ++ ": " ++ reason.message
  | invalidYaml reason => "invalid YAML definition: " ++ reason.message
  | invalidJson reason => "invalid JSON definition: " ++ reason.message
  | unsupportedExtension path =>
    "unsupported definition file '" ++ path ++ "' (expected .yaml, .yml or .json)"
  | config reason => reason.message

/-- The messages of an error and of what caused it, the outermost first. -/
def messages (e : LoadError) : List String :=
  match e with
  | unreadable _ reason => [e.message, reason.message]
  | invalidYaml reason => [e.message, reason.message]
  | invalidJson reason => [e.message, reason.message]
  | unsupportedExtension _ | config _ => [e.message]

end LoadError

namespace Definition

/-- Reads a definition from its text. -/
def ofText (format : DefinitionFormat) (text : String) : Except LoadError Definition :=
  match format with
  | .yaml => (ofYamlText text).mapError .invalidYaml
  | .json => (ofJsonText text).mapError .invalidJson

/-- Reads a definition from a file; gives also what is reported, which is there as soon as the file
could be read. -/
def load (read : FileReader) (path : String) : Except LoadError Definition × List Notice :=
  match DefinitionFormat.ofPath? path with
  | none => (.error (.unsupportedExtension path), [])
  | some format =>
    match read path with
    | .error reason => (.error (.unreadable path reason), [])
    | .ok text => (ofText format text, [.loading format.label path])

/-- Reads a definition from a file and builds its table. -/
def loadTable [Regex.SizeLimit] (read : FileReader) (path : String) :
    Except LoadError RuleTable × List Notice :=
  match load read path with
  | (.error e, ns) => (.error e, ns)
  | (.ok d, ns) =>
    match RuleTable.build d with
    | .error e => (.error (.config e), ns)
    | .ok t => (.ok t, ns ++ [t.builtNotice])

end Definition

end ModeLexer
