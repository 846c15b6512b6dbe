import ModeLexer.Asm
import ModeLexer.Proofs.Asm.Quoting
import ModeLexer.Proofs.Pattern.Words
import ModeLexer.Proofs.Table.Draft

/-!
# The outline of the built-in language

`Outline` is what is used of the table of the built-in language elsewhere: to which modes a rule can
lead, how strings are opened and read, what the rules for comments are, and which rules can match
the empty text or give a line back. But for comments it says nothing of the classes that rules emit,
and little of the patterns of rules that stay in their mode, so it does not change with these.

That the definition is built (`build_definition`), and that its table has this outline
(`exists_outline`), is worked out with the draft of the table.
-/

namespace ModeLexer.Asm

open Regex

/-! ### Modes by number -/

abbrev comment : ModeId := 0

abbrev msvcstring : ModeId := 1

abbrev rest : ModeId := 3

abbrev root : ModeId := 4

abbrev segDirMsvcRest : ModeId := 5

abbrev segDirMsvcstring : ModeId := 6

abbrev sstring : ModeId := 7

abbrev string : ModeId := 8

/-- The names of the modes in which a scan can be. -/
def modeNames : List (ModeId × String) :=
  [(comment, "comment"), (msvcstring, "msvcstring"), (rest, "rest"), (root, "root"),
    (segDirMsvcRest, "seg_dir_msvc_rest"), (segDirMsvcstring, "seg_dir_msvcstring"),
    (sstring, "sstring"), (string, "string")]

/-- A mode for strings. -/
structure StringMode where
  id : ModeId
  style : QuoteStyle
  /-- What the closing quote does. -/
  leave : Action
  deriving DecidableEq, Repr

/-- The modes for strings. -/
def stringModes : List StringMode :=
  [⟨string, ⟨'"', false⟩, .pop⟩, ⟨sstring, ⟨'\'', false⟩, .pop⟩, ⟨msvcstring, ⟨'\'', true⟩, .pop⟩,
    ⟨segDirMsvcstring, ⟨'\'', true⟩, .switchTo segDirMsvcRest⟩]

/-- What the rules of the other modes can do. -/
def actions : List (ModeId × List Action) :=
  [(root, [.stay, .push rest, .push comment, .push string, .push sstring, .push segDirMsvcstring]),
    (rest, [.stay, .rematch, .push comment, .push string, .push sstring, .push msvcstring]),
    (comment, [.stay, .pop, .push comment]),
    (segDirMsvcRest, [.stay, .rematch])]

/-! ### Rules -/

/-- Whether a rule that opens a string of some style matches one character, and there is a rule
among those before it for strings that begin with this character and are not closed. -/
def OpensBehind (before : List Rule) (r : Rule) (q : QuoteStyle) : Prop :=
  ∃ opener ∈ ['"', '\'', '`'], r.pattern = .ofChar opener ∧
    ∃ e ∈ before, e.pattern.isAnchored ∧ e.pattern.lineStartOnly = false ∧
      e.pattern.regex.program = q.unclosed opener

instance (before : List Rule) (r : Rule) (q : QuoteStyle) : Decidable (OpensBehind before r q) :=
  List.decidableBEx _ _

/-- Whether rules open a string only if it is closed on its line. -/
def OpensClosed (rules : List Rule) : Prop :=
  ∀ i < rules.length, ∀ r ∈ rules[i]?, ∀ m ∈ stringModes, r.action = .push m.id →
    OpensBehind (rules.take i) r m.style

instance (rules : List Rule) : Decidable (OpensClosed rules) :=
  inferInstanceAs (Decidable (∀ i < rules.length, _))

/-- Whether rules read strings: a rule that does not leave stays inside, and whatever comes there is
one among them to read it. -/
def StringMode.ReadBy (m : StringMode) (rules : List Rule) : Prop :=
  (∀ r ∈ rules, r.action = m.leave ∨
    r.action = .stay ∧ r.pattern.isAnchored ∧ m.style.StaysInside r.pattern.regex.program) ∧
  ∀ p ∈ m.style.readers, ∃ r ∈ rules, r.pattern.isAnchored ∧ r.pattern.lineStartOnly = false ∧
    r.pattern.regex.program = p

instance (m : StringMode) (rules : List Rule) : Decidable (m.ReadBy rules) :=
  inferInstanceAs (Decidable (_ ∧ _))

/-- Whether the rules that leave a mode for strings match its closing quote. -/
def StringMode.LeftAtQuote (m : StringMode) (rules : List Rule) : Prop :=
  ∀ r ∈ rules, r.action = m.leave → r.pattern = .ofChar m.style.quote

instance (m : StringMode) (rules : List Rule) : Decidable (m.LeftAtQuote rules) :=
  inferInstanceAs (Decidable (∀ r ∈ rules, _))

/-- The program of a pattern for whole lines. -/
def wholeLine : Program :=
  .seq (.look .textStart) (.seq (.star none true (.set (.compl (.single '\n')))) (.look .textEnd))

/-- Whether the first of some rules gives a whole line back. -/
def GivesLineBack (rules : List Rule) : Prop :=
  ∃ r ∈ rules.head?, r.action = .rematch ∧ r.pattern.regex.program = wholeLine

instance (rules : List Rule) : Decidable (GivesLineBack rules) :=
  inferInstanceAs (Decidable (∃ r ∈ rules.head?, _))

/-! ### Comments -/

/-- The program of a mark of two characters. -/
def mark (c d : Char) : Program :=
  .seq (.look .textStart) (.seq (.set (.single c)) (.set (.single d)))

/-- The program of a run of characters that belong to no mark of a comment. -/
def unmarked : Program :=
  .seq (.look .textStart) (.plus none true (.set (.compl (.union (.single '/') (.single '*')))))

/-- The program of a slash or a star. -/
def slashOrStar : Program :=
  .seq (.look .textStart) (.set (.union (.single '/') (.single '*')))

/-- The programs of the rules for comments, with what they do. -/
def commentRules : List (Program × Action) :=
  [(unmarked, .stay), (mark '/' '*', .push comment), (mark '*' '/', .pop), (slashOrStar, .stay)]

/-- Whether rules read comments: in order, they are `commentRules`, and all that they take is a
comment. -/
def ReadsComments (rules : List Rule) : Prop :=
  rules.map (fun r ↦ (r.pattern.regex.program, r.action)) = commentRules ∧
    ∀ r ∈ rules, r.pattern.isAnchored ∧ r.pattern.lineStartOnly = false ∧
      r.emission = .whole "comment"

instance (rules : List Rule) : Decidable (ReadsComments rules) :=
  inferInstanceAs (Decidable (_ ∧ _))

/-! ### The table -/

/-- What is used of the table of the built-in language. -/
structure Outline (t : RuleTable) : Prop where
  base_eq : t.base = root
  nameOf_eq : ∀ e ∈ modeNames, t.nameOf e.1 = e.2
  mem_actions : ∀ e ∈ actions, ∀ a ∈ t.actionsOf e.1, a ∈ e.2
  opensClosed : ∀ id ∈ [root, rest], OpensClosed (t.rulesOf id)
  readBy : ∀ m ∈ stringModes, m.ReadBy (t.rulesOf m.id)
  leftAtQuote : ∀ m ∈ stringModes, m.LeftAtQuote (t.rulesOf m.id)
  readsComments : ReadsComments (t.rulesOf comment)
  givesLineBack : ∀ id ∈ [rest, segDirMsvcRest], GivesLineBack (t.rulesOf id)
  /-- Rematches are tried at the start of a line only. -/
  lineStartOnly : ∀ m ∈ t.modes, ∀ r ∈ m.rules, r.action = .rematch → r.pattern.lineStartOnly
  /-- A rule for the start of a line that leads to another mode takes a character. -/
  consumes : ∀ r ∈ t.rulesOf root, r.action ≠ .stay →
    r.pattern.isAnchored ∧ r.pattern.regex.program.consumes

instance (t : RuleTable) : Decidable (Outline t) :=
  decidable_of_iff (t.base = root ∧ (∀ e ∈ modeNames, t.nameOf e.1 = e.2) ∧
      (∀ e ∈ actions, ∀ a ∈ t.actionsOf e.1, a ∈ e.2) ∧
      (∀ id ∈ [root, rest], OpensClosed (t.rulesOf id)) ∧
      (∀ m ∈ stringModes, m.ReadBy (t.rulesOf m.id)) ∧
      (∀ m ∈ stringModes, m.LeftAtQuote (t.rulesOf m.id)) ∧
      ReadsComments (t.rulesOf comment) ∧
      (∀ id ∈ [rest, segDirMsvcRest], GivesLineBack (t.rulesOf id)) ∧
      (∀ m ∈ t.modes, ∀ r ∈ m.rules, r.action = .rematch → r.pattern.lineStartOnly) ∧
      ∀ r ∈ t.rulesOf root, r.action ≠ .stay →
        r.pattern.isAnchored ∧ r.pattern.regex.program.consumes)
    ⟨fun ⟨h₁, h₂, h₃, h₄, h₅, h₆, h₇, h₈, h₉, h₁₀⟩ ↦ ⟨h₁, h₂, h₃, h₄, h₅, h₆, h₇, h₈, h₉, h₁₀⟩,
      fun ⟨h₁, h₂, h₃, h₄, h₅, h₆, h₇, h₈, h₉, h₁₀⟩ ↦ ⟨h₁, h₂, h₃, h₄, h₅, h₆, h₇, h₈, h₉, h₁₀⟩⟩

/-- Rematches are tried at the start of a line only. -/
theorem Outline.lineStartOnly_of_mem {t : RuleTable} (ht : Outline t) {id : ModeId} {r : Rule}
    (hr : r ∈ t.rulesOf id) (hrematch : r.action = .rematch) : r.pattern.lineStartOnly := by
  unfold RuleTable.rulesOf at hr
  split at hr
  · next m hm => exact ht.lineStartOnly m (List.mem_of_getElem? hm) r hr hrematch
  · simp at hr

/-- Comments go by their name. -/
theorem Outline.nameOf_comment {t : RuleTable} (ht : Outline t) : t.nameOf comment = "comment" :=
  ht.nameOf_eq (comment, "comment") (.head _)

/-! ### Building -/

/-- The library of the definition. No pattern in it refers to another one. -/
def library : PatternLibrary := ⟨definition.patterns⟩

/-- The table of the definition. -/
def table : RuleTable := RuleTable.draft definition library root

/-- The modes of the definition in the order of their names, which is that of their numbers. -/
theorem keys_modes : definition.modes.keys = ["comment", "msvcstring", "msvcstring_common", "rest",
    "root", "seg_dir_msvc_rest", "seg_dir_msvcstring", "sstring", "string", "whitespace"] := by
  decide +kernel

/-- All modes of the definition can be compiled. -/
theorem modeCompiles_of_mem :
    ∀ n ∈ definition.modes.keys.zipIdx, RuleTable.ModeCompiles definition library n.2 n.1 := by
  -- each mode is worked out by itself
  have hrest : RuleTable.ModeCompiles definition library rest "rest" := by decide +kernel
  have hroot : RuleTable.ModeCompiles definition library root "root" := by decide +kernel
  have hbefore : ∀ n ∈ ["comment", "msvcstring", "msvcstring_common"].zipIdx,
      RuleTable.ModeCompiles definition library n.2 n.1 := by decide +kernel
  have hafter : ∀ n ∈ ["seg_dir_msvc_rest", "seg_dir_msvcstring", "sstring", "string",
      "whitespace"].zipIdx 5, RuleTable.ModeCompiles definition library n.2 n.1 := by decide +kernel
  rw [keys_modes]
  exact List.forall_mem_append.2 ⟨hbefore,
    List.forall_mem_cons.2 ⟨hrest, List.forall_mem_cons.2 ⟨hroot, hafter⟩⟩⟩

/-- The definition of the built-in language is built. -/
theorem build_definition : RuleTable.build definition = .ok table := by
  have hlibrary : PatternLibrary.ofSources definition.patterns = .ok library := by decide +kernel
  have hbase : definition.modes.keys.idxOf? definition.baseMode = some root := by
    rw [keys_modes]
    rfl
  exact RuleTable.build_eq_draft hlibrary hbase modeCompiles_of_mem (by decide +kernel)

/-- The definition is built, and its table has the outline. -/
theorem exists_outline : ∃ t, RuleTable.build definition = .ok t ∧ Outline t :=
  ⟨table, build_definition, by decide +kernel⟩

/-- Strings between quotation marks have a mode of their own. -/
example : table.nameOf string = "string" := by decide +kernel

end ModeLexer.Asm
