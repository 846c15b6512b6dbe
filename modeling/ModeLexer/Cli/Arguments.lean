/-!
# Command line arguments

What a command line asks for. Settings may be written `--format json`, `--format=json`, `-f json`,
`-fjson` and `-f=json`, and short options may be joined (`-vvf json`). A setting may be given once,
and a value that is an argument of its own may not start with a hyphen, unless it is a hyphen alone.
After `--` every argument is a positional one.

A command line that asks for nothing that is known is refused without further distinction. The
version is printed as soon as it is asked for, if everything before was in order.
-/

namespace ModeLexer.Cli

/-- The arguments of `tokenize`. -/
structure TokenizeArguments where
  path : String
  language : String := "asm"
  definition : Option String := none
  format : String := "tagged"
  deriving DecidableEq, Repr

/-- What is asked for. -/
inductive Command where
  | tokenize (arguments : TokenizeArguments)
  | languages
  | check (path : String)
  deriving DecidableEq, Repr

namespace Command

/-- The files that a command reads. -/
def files : Command → List String
  | tokenize a => a.definition.toList ++ (if a.path = "-" then [] else [a.path])
  | languages => []
  | check path => [path]

/-- Whether a command reads the standard input. -/
def readsInput : Command → Bool
  | tokenize a => a.path = "-"
  | languages | check _ => false

end Command

/-- Why no command is run. -/
inductive Stop where
  | usage
  | version
  deriving DecidableEq, Repr

/-! ### Settings -/

/-- An option that takes a value. -/
inductive Setting where
  | language | definition | format
  deriving DecidableEq, Repr

namespace Setting

/-- The setting with a long name. -/
def ofName? (name : List Char) : Option Setting :=
  if name = "language".toList then some language
  else if name = "definition".toList then some definition
  else if name = "format".toList then some format
  else none

/-- The setting with a letter. -/
def ofLetter? : Char → Option Setting
  | 'l' => some language
  | 'd' => some definition
  | 'f' => some format
  | _ => none

end Setting

/-- What the arguments of a command come to. -/
structure Given where
  /-- How often more reports are asked for. -/
  verbosity : Nat := 0
  settings : List (Setting × String) := []
  positionals : List String := []
  deriving DecidableEq, Repr

namespace Given

/-- The value of a setting. -/
def value? (g : Given) (s : Setting) : Option String := g.settings.lookup s

/-- Gives a setting its value, once. -/
def set (g : Given) (s : Setting) (value : String) : Except Stop Given :=
  if (g.value? s).isSome then .error .usage
  else .ok { g with settings := (s, value) :: g.settings }

end Given

/-- Reads joined short options: how many times `v`, and the setting at the end with the value that
is joined to it. -/
def readLetters (takesSettings : Bool) :
    Nat → List Char → Except Stop (Nat × Option (Setting × Option String))
  | n, [] => .ok (n, none)
  | n, c :: cs =>
    if c = 'v' then readLetters takesSettings (n + 1) cs
    else match (if takesSettings then Setting.ofLetter? c else none) with
      | none => .error .usage
      | some s =>
        match cs with
        | [] => .ok (n, some (s, none))
        | '=' :: value => .ok (n, some (s, some (String.ofList value)))
        | value => .ok (n, some (s, some (String.ofList value)))

/-- Reads the name of a long option and the value that is joined to it. -/
def readName (takesSettings : Bool) (cs : List Char) :
    Except Stop (Nat × Option (Setting × Option String)) :=
  let name := cs.takeWhile (· ≠ '=')
  let value := match cs.dropWhile (· ≠ '=') with
    | [] => none
    | _ :: value => some (String.ofList value)
  if name = "verbose".toList ∧ value = none then .ok (1, none)
  else match (if takesSettings then Setting.ofName? name else none) with
    | none => .error .usage
    | some s => .ok (0, some (s, value))

/-- Whether an argument can be the value of the setting before it. -/
def isValue (argument : String) : Bool :=
  argument = "-" || argument.toList.head? ≠ some '-'

/-- Reads the arguments of a command. -/
def readArguments (takesSettings : Bool) (g : Given) : List String → Except Stop Given
  | [] => .ok g
  | a :: as => do
    let options ← match a.toList with
      | ['-', '-'] => return { g with positionals := g.positionals ++ as }
      | '-' :: '-' :: name => readName takesSettings name
      | '-' :: c :: letters => readLetters takesSettings 0 (c :: letters)
      | _ =>
        return ← readArguments takesSettings { g with positionals := g.positionals ++ [a] } as
    let g := { g with verbosity := g.verbosity + options.1 }
    match options.2 with
    | none => readArguments takesSettings g as
    | some (s, some value) => readArguments takesSettings (← g.set s value) as
    | some (s, none) =>
      match as with
      | [] => .error .usage
      | value :: as =>
        if isValue value then readArguments takesSettings (← g.set s value) as
        else .error .usage

/-! ### Commands -/

/-- Reads joined short options in front of a command. -/
def readGlobalLetters : Nat → List Char → Except Stop Nat
  | n, [] => .ok n
  | n, c :: cs =>
    if c = 'v' then readGlobalLetters (n + 1) cs
    else if c = 'V' then .error .version
    else .error .usage

/-- Reads the options in front of a command; gives the name of the command and what follows. -/
def readGlobals : Nat → List String → Except Stop (Nat × String × List String)
  | _, [] => .error .usage
  | n, a :: as =>
    if a = "--version" then .error .version
    else if a = "--verbose" then readGlobals (n + 1) as
    else match a.toList with
      | '-' :: '-' :: _ => .error .usage
      | '-' :: c :: cs =>
        match readGlobalLetters n (c :: cs) with
        | .ok n => readGlobals n as
        | .error e => .error e
      | _ => .ok (n, a, as)

/-- The command that a name and arguments come to. A language and a definition exclude each
other. -/
def commandOf (name : String) (g : Given) : Except Stop Command :=
  if name = "tokenize" then
    match g.positionals with
    | [path] =>
      if (g.value? .language).isSome ∧ (g.value? .definition).isSome then .error .usage
      else .ok (.tokenize
        { path
          language := (g.value? .language).getD "asm"
          definition := g.value? .definition
          format := (g.value? .format).getD "tagged" })
    | _ => .error .usage
  else if name = "languages" then
    match g.positionals with
    | [] => .ok .languages
    | _ => .error .usage
  else
    match g.positionals with
    | [path] => .ok (.check path)
    | _ => .error .usage

/-- Whether a name is that of a command. -/
def isCommandName (name : String) : Bool :=
  name = "tokenize" || name = "languages" || name = "check"

/-- Reads a command line: a command and how much is to be reported. What is asked for behind the
command counts, if it is, and else what is asked for in front of it. -/
def readCommandLine (arguments : List String) : Except Stop (Command × Nat) := do
  let (before, name, rest) ← readGlobals 0 arguments
  if isCommandName name then
    let g ← readArguments (name = "tokenize") {} rest
    let command ← commandOf name g
    return (command, if g.verbosity = 0 then before else g.verbosity)
  else .error .usage

end ModeLexer.Cli
