import ModeLexer.Cli.Arguments
import ModeLexer.DefinitionFile
import ModeLexer.LanguageRegistry
import ModeLexer.Listing.Default

/-!
# Running commands

What a command line answers, given the files and the standard input that it may read. A command
gives its output or fails with a message and the messages of what caused the failure; in both cases
some things have been reported before.
-/

namespace ModeLexer.Cli

/-- Why a command fails: what was attempted and, from the outside in, what went wrong. -/
structure Failure where
  message : String
  causes : List String := []
  deriving DecidableEq, Repr

/-- A result with what was reported on the way to it. -/
abbrev Reported (α : Type) := Except Failure α × List Notice

namespace Reported

/-- Goes on with a result, if there is one. -/
def andThen {α β : Type} (r : Reported α) (f : α → Reported β) : Reported β :=
  match r with
  | (.error e, ns) => (.error e, ns)
  | (.ok a, ns) => ((f a).1, ns ++ (f a).2)

end Reported

variable [Regex.SizeLimit]

/-- The built-in languages. -/
def builtinLanguages : Reported LanguageRegistry :=
  match LanguageRegistry.default with
  | .error e => (.error ⟨e.message, []⟩, [])
  | .ok (r, ns) => (.ok r, ns)

/-- The table of a built-in language. -/
def builtinTable (language : String) : Reported RuleTable :=
  builtinLanguages.andThen fun r ↦
    match r.get? language with
    | some t => (.ok t, [])
    | none =>
      (.error ⟨"unknown language '" ++ language ++ "' (available: " ++
        ", ".intercalate r.names ++ ")", []⟩, [])

/-- The table of a definition file, or a failure to do something with it. -/
def fileTable (files : FileReader) (path attempt : String) : Reported RuleTable :=
  match Definition.loadTable files path with
  | (.error e, ns) => (.error ⟨attempt, e.messages⟩, ns)
  | (.ok t, ns) => (.ok t, ns)

/-- The text to tokenize. -/
def sourceText (files : FileReader) (input : Except FileError String) (path : String) :
    Reported String :=
  if path = "-" then (input.mapError fun e ↦ ⟨"cannot read stdin", [e.message]⟩, [])
  else ((files path).mapError fun e ↦ ⟨"cannot read " ++ path, [e.message]⟩, [])

/-- Tokenizes a text and prints the tokens. -/
def printTokens (t : RuleTable) (format text : String) : Reported String :=
  let d := Document.ofText text
  ((ListingRegistry.default.write format d (t.tokenize d) t.language).mapError
      fun e ↦ ⟨e.message, []⟩,
    t.tokenizeNotices d.lines)

/-- Tokenizes a file and prints its tokens. The format is looked at first, then the language. -/
def tokenize (files : FileReader) (input : Except FileError String) (a : TokenizeArguments) :
    Reported String :=
  if ListingRegistry.default.contains a.format then
    let table := match a.definition with
      | some path => fileTable files path ("cannot use definition " ++ path)
      | none => builtinTable a.language
    table.andThen fun t ↦ (sourceText files input a.path).andThen fun text ↦
      printTokens t a.format text
  else
    (.error ⟨"unknown format '" ++ a.format ++ "' (available: " ++
      ", ".intercalate ListingRegistry.default.names ++ ")", []⟩, [])

/-- What is printed about a language. -/
def languageEntry (name : String) (t : RuleTable) : String :=
  "  " ++ name ++ "\n    " ++ toString t.modes.length ++ " modes, base mode '" ++
    t.nameOf t.base ++ "'\n"

/-- Lists the built-in languages. -/
def languages : Reported String :=
  builtinLanguages.andThen fun r ↦
    (.ok ("Available languages:\n\n" ++
      String.join (r.tables.entries.map fun (name, t) ↦ languageEntry name t)), [])

/-- Checks a definition file. -/
def check (files : FileReader) (path : String) : Reported String :=
  (fileTable files path (path ++ " is not a valid language definition")).andThen fun t ↦
    (.ok (path ++ ": ok ('" ++ t.language ++ "', " ++ toString t.modes.length ++ " modes, " ++
      toString t.ruleCount ++ " rules)\n"), [])

/-- Runs a command. -/
def execute (files : FileReader) (input : Except FileError String) : Command → Reported String
  | .tokenize a => tokenize files input a
  | .languages => languages
  | .check path => check files path

/-! ### Reports -/

/-- A text whose lines after the first start with blanks. -/
def indentLines (blanks : String) (text : String) : String :=
  ("\n" ++ blanks).intercalate (text.splitOn "\n")

/-- A cause among several, with its number. -/
def numberedCause (cause : String) (index : Nat) : String :=
  let number := toString index
  let padding := String.ofList (List.replicate (5 - number.length) ' ')
  "\n" ++ padding ++ number ++ ": " ++ indentLines "       " cause

/-- The report of a failure: its message, and its causes, numbered if there are several. -/
def Failure.report (e : Failure) : String :=
  let causes := match e.causes with
    | [] => ""
    | [cause] => "\n\nCaused by:\n    " ++ indentLines "    " cause
    | causes => "\n\nCaused by:" ++ String.join (causes.zipIdx.map fun (c, i) ↦ numberedCause c i)
  "Error: " ++ e.message ++ causes ++ "\n"

/-- Whether a notice is printed. Warnings always are, the others from the second `v` on. -/
def isPrinted (verbosity : Nat) (n : Notice) : Bool := n.level = .warn || 2 ≤ verbosity

/-- A notice as it is printed. -/
def noticeLine (n : Notice) : String := n.level.label ++ ": " ++ n.message ++ "\n"

/-- What a run of the program comes to. A command line that is refused has no fixed message. -/
structure Outcome where
  code : Nat
  stdout : String := ""
  stderr : Option String := some ""
  deriving DecidableEq, Repr

/-- What `--version` prints. -/
def versionText : String := "asmlex 0.1.0\n"

/-- Runs the program. -/
def run (files : FileReader) (input : Except FileError String) (arguments : List String) :
    Outcome :=
  match readCommandLine arguments with
  | .error .version => { code := 0, stdout := versionText }
  | .error .usage => { code := 2, stderr := none }
  | .ok (command, verbosity) =>
    let (result, notices) := execute files input command
    let printed := String.join ((notices.filter (isPrinted verbosity)).map noticeLine)
    match result with
    | .ok output => { code := 0, stdout := output, stderr := some printed }
    | .error e => { code := 1, stderr := some (printed ++ e.report) }

end ModeLexer.Cli
