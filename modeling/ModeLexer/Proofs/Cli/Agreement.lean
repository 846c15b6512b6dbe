import ModeLexer.Cli.Run
import ModeLexer.Proofs.Definition.RoundTrip
import ModeLexer.Proofs.Listing.Agreement
import ModeLexer.Proofs.Table.Compiled

/-!
# Checking a definition and tokenizing with it

A run comes to the result of its command: with a result it ends with code 0 and prints the result,
and otherwise it ends with code 1 and prints nothing (`code_run_eq_zero_iff`, `stdout_run_of_ne`).
So the commands are compared by their results. A check has a result if the table of the definition
file is there. So has tokenizing, if the format is known and the text can be read: of the six things
that can go wrong there, the last one never does, because a document's own tokens can always be
printed (`exists_write_tokenize`).
-/

namespace ModeLexer.Cli

variable {files : FileReader} {input : Except FileError String}

/-! ### Results -/

/-- Two steps come to a result if the first one does and the second one does with it. -/
theorem andThen_eq_ok {α β : Type} {r : Reported α} {f : α → Reported β} {b : β} :
    (r.andThen f).1 = .ok b ↔ ∃ a, r.1 = .ok a ∧ (f a).1 = .ok b := by
  obtain ⟨e | a, ns⟩ := r <;> simp [Reported.andThen]

/-- A definition is loaded by reading the text of its file in the format of its name. -/
theorem load_eq_ofText {path text : String} {format : DefinitionFormat}
    (hformat : DefinitionFormat.ofPath? path = some format) (hfile : files path = .ok text) :
    (Definition.load files path).1 = Definition.ofText format text := by
  rw [Definition.load, hformat]
  simp only [hfile]

/-- What a command that reads a text is given. -/
def readSource (files : FileReader) (input : Except FileError String) (path : String) :
    Except FileError String :=
  if path = "-" then input else files path

/-- The text to be tokenized is the input or the contents of a file. -/
theorem sourceText_eq_ok {path text : String} :
    (sourceText files input path).1 = .ok text ↔ readSource files input path = .ok text := by
  rw [sourceText, readSource]
  split <;> exact mapError_eq_ok

/-! ### Printing -/

/-- The formats that can be asked for are those that are listed. -/
theorem contains_default_iff {name : String} :
    ListingRegistry.default.contains name ↔ name ∈ ListingRegistry.default.names := by
  rw [ListingRegistry.contains, KeyMap.contains, ListingRegistry.names, KeyMap.mem_keys_iff,
    Option.isSome_iff_exists]

/-- A document is printed with its own tokens in every format that there is. -/
theorem exists_write_tokenize {t : RuleTable} {d : Document} {format language : String}
    (h : format ∈ ListingRegistry.default.names) :
    ∃ out, ListingRegistry.default.write format d (t.tokenize d) language = .ok out := by
  obtain ⟨f, hf⟩ := KeyMap.mem_keys_iff.1 h
  have hget : ListingRegistry.default.get? format = some f := hf
  rw [ListingRegistry.write, hget]
  exact ListingFormat.exists_write_iff.2 (HonestTokenization.fresh t d.lines).fitsIn

/-! ### Command lines -/

/-- A command line without options before the command is read by the arguments behind it. -/
theorem readCommandLine_cons {name : String} {arguments : List String} {g : Given}
    {command : Command} (hname : isCommandName name)
    (harguments : readArguments (name = "tokenize") {} arguments = .ok g)
    (hcommand : commandOf name g = .ok command) :
    readCommandLine (name :: arguments) = .ok (command, g.verbosity) := by
  have hglobals : readGlobals 0 (name :: arguments) = .ok (0, name, arguments) := by
    simp only [isCommandName, Bool.or_eq_true, decide_eq_true_eq] at hname
    obtain (rfl | rfl) | rfl := hname <;> rfl
  have hverbosity : (if g.verbosity = 0 then 0 else g.verbosity) = g.verbosity := by
    split <;> simp_all
  simp [readCommandLine, bind, Except.bind, hglobals, hname, harguments, hcommand, hverbosity, pure,
    Except.pure]

/-- A value does not begin with a hyphen, unless it is one. -/
theorem ne_of_isValue {argument : String} (h : isValue argument) (c : Char) (cs : List Char) :
    argument.toList ≠ '-' :: c :: cs := by
  intro heq
  obtain rfl : argument = "-" := by simpa [isValue, heq] using h
  simp at heq

/-- A value where no option asks for one is taken as it stands. -/
theorem readArguments_cons_of_isValue {argument : String} (h : isValue argument)
    {takesSettings : Bool} {g : Given} {as : List String} :
    readArguments takesSettings g (argument :: as) =
      readArguments takesSettings { g with positionals := g.positionals ++ [argument] } as := by
  rw [readArguments]
  split
  · next heq => exact absurd heq (ne_of_isValue h _ _)
  · next heq => exact absurd heq (ne_of_isValue h _ _)
  · next heq => exact absurd heq (ne_of_isValue h _ _)
  · rfl

/-- The shortest command line of a check. -/
theorem readCommandLine_check {path : String} (h : isValue path) :
    readCommandLine ["check", path] = .ok (.check path, 0) := by
  have harguments : readArguments ("check" = "tokenize") {} [path] =
      .ok { positionals := [path] } :=
    (readArguments_cons_of_isValue h).trans rfl
  exact readCommandLine_cons rfl harguments rfl

/-- The shortest command line that tokenizes with a definition file and in a format. -/
theorem readCommandLine_tokenize {source path format : String} (hsource : isValue source)
    (hpath : isValue path) (hformat : isValue format) :
    readCommandLine ["tokenize", source, "-d", path, "-f", format] =
      .ok (.tokenize { path := source, definition := some path, format := format }, 0) := by
  have harguments : readArguments ("tokenize" = "tokenize") {}
      [source, "-d", path, "-f", format] =
        .ok { positionals := [source], settings := [(.format, format), (.definition, path)] } := by
    have hd : "-d".toList = ['-', 'd'] := rfl
    have hf : "-f".toList = ['-', 'f'] := rfl
    rw [readArguments_cons_of_isValue hsource]
    simp [readArguments, hd, hf, hpath, hformat, readLetters, Setting.ofLetter?, Given.set,
      Given.value?, bind, Except.bind]
  exact readCommandLine_cons rfl harguments rfl

/-! ### Commands -/

section

variable [Regex.SizeLimit]

/-- The table of a definition file is the one that is built of the definition in it. -/
theorem fileTable_eq_ok {path attempt : String} {t : RuleTable} :
    (fileTable files path attempt).1 = .ok t ↔
      ∃ d, (Definition.load files path).1 = .ok d ∧ RuleTable.build d = .ok t := by
  rw [fileTable, Definition.loadTable]
  obtain ⟨e | d, ns⟩ := Definition.load files path
  · simp
  · cases hbuild : RuleTable.build d <;> simp [hbuild]

/-- A check comes to a result exactly if the definition in the file can be read and built. -/
theorem check_eq_ok {path : String} :
    (∃ out, (check files path).1 = .ok out) ↔
      ∃ d t, (Definition.load files path).1 = .ok d ∧ RuleTable.build d = .ok t := by
  simp only [check, andThen_eq_ok, fileTable_eq_ok]
  constructor
  · rintro ⟨-, t, ⟨d, hd, ht⟩, -⟩
    exact ⟨d, t, hd, ht⟩
  · rintro ⟨d, t, hd, ht⟩
    exact ⟨_, t, ⟨d, hd, ht⟩, rfl⟩

/-- What tokenizing a text with a definition file comes to. The language that is printed is that of
the table, which is the name of the definition. -/
theorem tokenize_eq_ok {a : TokenizeArguments} {path text out : String}
    (hdefinition : a.definition = some path) (hformat : a.format ∈ ListingRegistry.default.names)
    (hsource : readSource files input a.path = .ok text) :
    (tokenize files input a).1 = .ok out ↔
      ∃ d t, (Definition.load files path).1 = .ok d ∧ RuleTable.build d = .ok t ∧
        ListingRegistry.default.write a.format (.ofText text) (t.tokenize (.ofText text)) d.name =
          .ok out := by
  rw [tokenize, if_pos (contains_default_iff.2 hformat), hdefinition]
  simp only [andThen_eq_ok, fileTable_eq_ok, sourceText_eq_ok, hsource, printTokens, mapError_eq_ok]
  constructor
  · rintro ⟨t, ⟨d, hd, ht⟩, _, ⟨rfl⟩, hout⟩
    obtain ⟨library, hbuilt⟩ := RuleTable.build_eq_ok.1 ht
    exact ⟨d, t, hd, ht, hbuilt.language_eq ▸ hout⟩
  · rintro ⟨d, t, hd, ht, hout⟩
    obtain ⟨library, hbuilt⟩ := RuleTable.build_eq_ok.1 ht
    exact ⟨t, ⟨d, hd, ht⟩, text, rfl, hbuilt.language_eq ▸ hout⟩

/-! ### Runs -/

variable {arguments : List String} {command : Command} {verbosity : Nat}

/-- A run with a result ends with code 0 and prints the result. -/
theorem run_of_ok (h : readCommandLine arguments = .ok (command, verbosity)) {out : String}
    (hout : (execute files input command).1 = .ok out) :
    (run files input arguments).code = 0 ∧ (run files input arguments).stdout = out := by
  simp only [run, h, hout, and_self]

/-- A run without a result ends with code 1 and prints nothing. -/
theorem run_of_error (h : readCommandLine arguments = .ok (command, verbosity)) {e : Failure}
    (he : (execute files input command).1 = .error e) :
    (run files input arguments).code = 1 ∧ (run files input arguments).stdout = "" := by
  simp only [run, h, he, and_self]

/-- A run ends with code 0 exactly if it has a result. -/
theorem code_run_eq_zero_iff (h : readCommandLine arguments = .ok (command, verbosity)) :
    (run files input arguments).code = 0 ↔ ∃ out, (execute files input command).1 = .ok out := by
  cases hresult : (execute files input command).1 with
  | error e => simp [(run_of_error h hresult).1]
  | ok out => simp [(run_of_ok h hresult).1]

/-- A run that comes to nothing prints nothing. -/
theorem stdout_run_of_ne (h : readCommandLine arguments = .ok (command, verbosity))
    (hcode : (run files input arguments).code ≠ 0) :
    (run files input arguments).code = 1 ∧ (run files input arguments).stdout = "" := by
  cases hresult : (execute files input command).1 with
  | error e => exact run_of_error h hresult
  | ok out => exact absurd (run_of_ok h hresult).1 hcode

/-- **Checking and tokenizing.** With a format that there is and a text that can be read, tokenizing
with a definition file succeeds exactly if the check of the file does, that is, if the definition in
it can be read and built. What is printed then is the listing of the tokens of the text in the
format, under the name of the definition. Tokenizing that does not succeed, for whatever reason,
ends with code 1 and prints nothing. -/
theorem check_agrees_with_tokenize (files : FileReader) (input : Except FileError String) :
    (∀ (tokenizing checking : List String) (a : TokenizeArguments) (path text : String)
      (v w : Nat), readCommandLine tokenizing = .ok (.tokenize a, v) →
      readCommandLine checking = .ok (.check path, w) → a.definition = some path →
      a.format ∈ ListingRegistry.default.names → readSource files input a.path = .ok text →
        ((run files input tokenizing).code = 0 ↔ (run files input checking).code = 0) ∧
          ((run files input checking).code = 0 ↔
            ∃ d t, (Definition.load files path).1 = .ok d ∧ RuleTable.build d = .ok t) ∧
          ((run files input tokenizing).code = 0 →
            ∃ d t, (Definition.load files path).1 = .ok d ∧ RuleTable.build d = .ok t ∧
              ListingRegistry.default.write a.format (.ofText text) (t.tokenize (.ofText text))
                d.name = .ok (run files input tokenizing).stdout)) ∧
    ∀ (arguments : List String) (a : TokenizeArguments) (v : Nat),
      readCommandLine arguments = .ok (.tokenize a, v) →
        (run files input arguments).code ≠ 0 →
          (run files input arguments).code = 1 ∧ (run files input arguments).stdout = "" := by
  refine ⟨fun tokenizing checking a path text v w htokenize hcheck hdefinition hformat hsource ↦ ?_,
    fun arguments a v h hcode ↦ stdout_run_of_ne h hcode⟩
  have hlisted {out : String} : (execute files input (.tokenize a)).1 = .ok out ↔ _ :=
    tokenize_eq_ok hdefinition hformat hsource
  have hchecked : (run files input checking).code = 0 ↔
      ∃ d t, (Definition.load files path).1 = .ok d ∧ RuleTable.build d = .ok t :=
    (code_run_eq_zero_iff hcheck).trans check_eq_ok
  rw [hchecked, code_run_eq_zero_iff htokenize]
  refine ⟨⟨?_, ?_⟩, Iff.rfl, fun ⟨out, hout⟩ ↦ ?_⟩
  · rintro ⟨out, hout⟩
    obtain ⟨d, t, hd, ht, -⟩ := hlisted.1 hout
    exact ⟨d, t, hd, ht⟩
  · -- printing is the step that checking has no counterpart of, and it succeeds
    rintro ⟨d, t, hd, ht⟩
    obtain ⟨out, hout⟩ := exists_write_tokenize hformat
    exact ⟨out, hlisted.2 ⟨d, t, hd, ht, hout⟩⟩
  · rw [(run_of_ok htokenize hout).2]
    exact hlisted.1 hout

end

/-- A language of remarks and nothing else. -/
def remarks : Definition :=
  Definition.new "remarks" "root" |>.addMode "root" [Entry.token ";.*" "remark"]

/-- The file that it is written in. -/
def remarksFiles : FileReader := fun path ↦
  if path = "remarks.json" then .ok remarks.toJsonText else .error .notFound

/-- The definition is read from its file. -/
theorem load_remarks : (Definition.load remarksFiles "remarks.json").1 = .ok remarks := by
  have hformat : DefinitionFormat.ofPath? "remarks.json" = some .json := by decide
  have hfile : remarksFiles "remarks.json" = .ok remarks.toJsonText := if_pos rfl
  have hread : Definition.ofJsonText remarks.toJsonText = .ok remarks :=
    Definition.ofJsonText_of_isWritable (by decide)
  rw [load_eq_ofText hformat hfile, Definition.ofText]
  exact mapError_eq_ok.2 hread

/-- A table can be built of the definition. -/
theorem exists_build_remarks : ∃ t, RuleTable.build remarks = .ok t :=
  exists_ok_of_isSome (by rfl)

/-- What tokenizing a remark with that definition comes to. -/
def remarkRun (format : String) : Outcome :=
  run remarksFiles (.ok "; a") ["tokenize", "-", "-d", "remarks.json", "-f", format]

/-- The definition passes its check, so the remark is listed, under the name of the language; an
unknown format ends the run. -/
theorem remark_listed_or_refused :
    (run remarksFiles (.ok "; a") ["check", "remarks.json"]).code = 0 ∧
      ((remarkRun "json").code = 0 ∧ ∃ t, RuleTable.build remarks = .ok t ∧
        ListingRegistry.default.write "json" (.ofText "; a") (t.tokenize (.ofText "; a"))
          "remarks" = .ok (remarkRun "json").stdout) ∧
      (remarkRun "html").code = 1 ∧ (remarkRun "html").stdout = "" := by
  have hpath : isValue "remarks.json" := by decide
  have hsource : isValue "-" := by decide
  have hchecking := readCommandLine_check hpath
  have htokenizing := readCommandLine_tokenize hsource hpath (show isValue "json" by decide)
  have hrefused := readCommandLine_tokenize hsource hpath (show isValue "html" by decide)
  obtain ⟨t, ht⟩ := exists_build_remarks
  obtain ⟨hagree, hchecked, hlisted⟩ := (check_agrees_with_tokenize remarksFiles (.ok "; a")).1
    _ _ _ _ "; a" _ _ htokenizing hchecking rfl (by decide) rfl
  have hcheck := hchecked.2 ⟨_, t, load_remarks, ht⟩
  have hcode := hagree.2 hcheck
  obtain ⟨d, t', hd, ht', hout⟩ := hlisted hcode
  obtain rfl : remarks = d := Except.ok.inj (load_remarks.symm.trans hd)
  refine ⟨hcheck, ⟨hcode, t', ht', hout⟩,
    (check_agrees_with_tokenize remarksFiles (.ok "; a")).2 _ _ _ hrefused ?_⟩
  have hnot : "html" ∉ ListingRegistry.default.names := by decide
  rw [Ne, code_run_eq_zero_iff hrefused]
  simp [execute, tokenize, mt contains_default_iff.1 hnot]

end ModeLexer.Cli
