import ModeLexer.Proofs.Asm.Outline
import ModeLexer.Proofs.Regex.Edges
import ModeLexer.Proofs.Scanner.Origin
import ModeLexer.Proofs.Scanner.Steady

/-!
# Traits of the built-in language

`Traits` is what is used of the table of the built-in language where it comes to ways out and to
words: that the table is steady, which rules give the classes of words, and where the matches that
lead to operands can end. Unlike the outline it goes into the classes that rules give. Like the
outline it is worked out with the draft of the table (`exists_traits`).
-/

namespace ModeLexer

/-- Whether an action that is taken in one mode can make another one active. -/
def Action.canActivate (active mode : ModeId) : Action → Bool
  | .stay => active = mode
  | .push m => m = mode
  | .switchTo m => m = mode || active = mode
  | .pop | .rematch => true

theorem ModeStack.canActivate_active (s : ModeStack) (a : Action) :
    a.canActivate s.active (s.apply a).active := by
  obtain ⟨b, _ | ⟨m, ms⟩⟩ := s <;>
    cases a <;> simp [Action.canActivate, apply, push, active, switchTo]

namespace Asm

/-- The class of registers. -/
abbrev register : String := "variable.predefined"

/-- The class of size keywords. -/
abbrev sizeKeyword : String := "annotation"

/-- The classes of tokens among operands that can end within a word. -/
def splitting : List String := ["number", "number.float", "number.hex", "invalid"]

/-- The classes of names, with what can stand before the word of a name. -/
def names : List (String × (Char → Bool)) := [(register, (· = '%')), (sizeKeyword, fun _ ↦ false)]

/-- Whether a rule takes names of a class, each as one token. -/
def TakesNames (cls : String) (sign : Char → Bool) (r : Rule) : Prop :=
  r.pattern.TakesWords sign ∧ r.emission = .whole cls

instance (cls : String) (sign : Char → Bool) (r : Rule) : Decidable (TakesNames cls sign r) :=
  inferInstanceAs (Decidable (_ ∧ _))

/-- Whether what a rule takes does not end within a word, or is one token of a class for which it
can. -/
def EndsOperand (r : Rule) : Prop :=
  r.pattern.EndsClear ∨ ∃ cls ∈ splitting, r.emission = .whole cls

instance (r : Rule) : Decidable (EndsOperand r) := inferInstanceAs (Decidable (_ ∨ _))

/-- What is used of the table of the built-in language where it comes to ways out and to words. -/
structure Traits (t : RuleTable) : Prop where
  steady : t.Steady
  defaultToken_eq : t.defaultToken = "invalid"
  /-- Registers are recognized among operands only. -/
  eq_rest : ∀ id < t.modes.length, ∀ r ∈ t.rulesOf id, register ∈ r.emission.classes → id = rest
  takesNames : ∀ r ∈ t.rulesOf rest, ∀ e ∈ names, e.1 ∈ r.emission.classes → TakesNames e.1 e.2 r
  endsOperand : ∀ id < t.modes.length, ∀ r ∈ t.rulesOf id, r.action.canActivate id rest →
    EndsOperand r

instance (t : RuleTable) : Decidable (Traits t) :=
  decidable_of_iff (t.Steady ∧ t.defaultToken = "invalid" ∧
      (∀ id < t.modes.length, ∀ r ∈ t.rulesOf id, register ∈ r.emission.classes → id = rest) ∧
      (∀ r ∈ t.rulesOf rest, ∀ e ∈ names, e.1 ∈ r.emission.classes → TakesNames e.1 e.2 r) ∧
      ∀ id < t.modes.length, ∀ r ∈ t.rulesOf id, r.action.canActivate id rest → EndsOperand r)
    ⟨fun ⟨h₁, h₂, h₃, h₄, h₅⟩ ↦ ⟨h₁, h₂, h₃, h₄, h₅⟩,
      fun ⟨h₁, h₂, h₃, h₄, h₅⟩ ↦ ⟨h₁, h₂, h₃, h₄, h₅⟩⟩

/-- The definition is built, and its table has these traits. -/
theorem exists_traits : ∃ t, RuleTable.build definition = .ok t ∧ Traits t :=
  ⟨table, build_definition, by decide +kernel⟩

end Asm

end ModeLexer
