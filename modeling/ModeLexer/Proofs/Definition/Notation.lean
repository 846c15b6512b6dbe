import ModeLexer.Definition.Transition
import ModeLexer.Proofs.Table.FirstMistake

/-!
# The notation of transitions

The reader of transitions splits their notation into words, and the names of modes that it accepts
hold no blanks. So a transition is read back from its notation if the mode that it names, if it
names one, has such a name (`Transition.parse_toText`), and every transition that has been read is
of this kind (`Transition.isWritable_of_parse`).
-/

namespace ModeLexer

open Unicode

namespace Text

/-! ### Words -/

/-- A text without blanks is a word of its own. -/
theorem words_of_forall_not_isSpace {w : List Char} (hne : w ≠ [])
    (h : ∀ c ∈ w, isSpace c = false) : words w = [w] := by
  induction w with
  | nil => exact absurd rfl hne
  | cons c w ih =>
    obtain ⟨hc, hw⟩ := List.forall_mem_cons.1 h
    cases w with
    | nil => simp [words, hc]
    | cons d w =>
      rw [words, if_neg (by simp [hc])]
      simp only [hw d (List.mem_cons_self ..), Bool.false_eq_true, if_false]
      rw [ih (by simp) hw]
      rfl

/-- A blank ends a word. -/
theorem words_append_cons {w : List Char} (hne : w ≠ []) (h : ∀ c ∈ w, isSpace c = false)
    {b : Char} (hb : isSpace b) (cs : List Char) : words (w ++ b :: cs) = w :: words cs := by
  induction w with
  | nil => exact absurd rfl hne
  | cons c w ih =>
    obtain ⟨hc, hw⟩ := List.forall_mem_cons.1 h
    cases w with
    | nil => simp [words, hc, hb]
    | cons d w =>
      have hrest := ih (by simp) hw
      rw [List.cons_append] at hrest
      rw [List.cons_append, List.cons_append, words]
      simp only [hc, hw d (List.mem_cons_self ..), Bool.false_eq_true, if_false, hrest]
      rfl

end Text

namespace Transition

open Text

/-! ### The names of modes -/

/-- The characters of names are no blanks. -/
theorem isSpace_eq_false_of_isModeName {name : List Char} (h : isModeName name) :
    ∀ c ∈ name, isSpace c = false := by
  have hchar : ∀ c : Char, c.isAlphanum ∨ c = '_' ∨ c = '.' ∨ c = '-' → isSpace c = false := by
    rintro c (halpha | rfl | rfl | rfl)
    · have hcode : (65 ≤ c.toNat ∧ c.toNat ≤ 90) ∨ (97 ≤ c.toNat ∧ c.toNat ≤ 122) ∨
          (48 ≤ c.toNat ∧ c.toNat ≤ 57) := by
        delta Char.isAlphanum Char.isAlpha Char.isUpper Char.isLower Char.isDigit at halpha
        simpa [UInt32.le_iff_toNat_le, or_assoc] using halpha
      have hspace : c ≠ ' ' := by
        rintro rfl
        revert hcode
        decide
      rw [isSpace, if_pos (by omega), isAsciiSpace]
      simp only [hspace, decide_false, Bool.false_or, Bool.and_eq_false_iff,
        decide_eq_false_iff_not]
      omega
    all_goals decide
  cases name with
  | nil => simp
  | cons c cs =>
    simp only [isModeName, Bool.and_eq_true, Bool.or_eq_true, decide_eq_true_eq,
      List.all_eq_true] at h
    refine List.forall_mem_cons.2 ⟨hchar c ?_, fun d hd ↦ hchar d ?_⟩
    · rcases h.1 with halpha | hline
      · exact .inl (by simp [Char.isAlphanum, halpha])
      · exact .inr (.inl hline)
    · simpa [or_assoc] using h.2 d hd

theorem ne_nil_of_isModeName {name : List Char} (h : isModeName name) : name ≠ [] := by
  rintro rfl
  simp [isModeName] at h

/-! ### Reading a notation that was written -/

/-- Whether the mode that a transition names, if it names one, has a name that can be written. -/
def IsWritable (t : Transition) : Prop := ∀ m ∈ t.target?, isModeName m.toList

instance (t : Transition) : Decidable t.IsWritable :=
  inferInstanceAs (Decidable (∀ m ∈ t.target?, isModeName m.toList))

/-- The notation of a transition that names a mode is two words. -/
theorem words_append_name {w : List Char} (hne : w ≠ []) (hw : w.any isSpace = false)
    {name : List Char} (h : isModeName name) : words (w ++ ' ' :: name) = [w, name] := by
  have hw' : ∀ c ∈ w, isSpace c = false := by simpa using hw
  rw [words_append_cons hne hw' (by decide), words_of_forall_not_isSpace
    (ne_nil_of_isModeName h) (isSpace_eq_false_of_isModeName h)]

theorem parse_toText {t : Transition} (h : t.IsWritable) : parse t.toText = .ok t := by
  cases t with
  | stay | pushSelf | pop | rematch => rfl
  | push m =>
    have hm : isModeName m.toList := h m rfl
    have hwords : words (toText (push m)).toList = [['@', 'p', 'u', 's', 'h'], m.toList] := by
      rw [toText, String.toList_append]
      exact words_append_name (w := ['@', 'p', 'u', 's', 'h']) (by simp) (by decide) hm
    simp [parse, ofChars, hwords, readModeName, hm, Except.map]
  | switchTo m =>
    have hm : isModeName m.toList := h m rfl
    have hwords : words (toText (switchTo m)).toList =
        [['@', 's', 'w', 'i', 't', 'c', 'h', 'T', 'o'], m.toList] := by
      rw [toText, String.toList_append]
      exact words_append_name (w := ['@', 's', 'w', 'i', 't', 'c', 'h', 'T', 'o']) (by simp)
        (by decide) hm
    simp [parse, ofChars, hwords, readModeName, hm, Except.map]

theorem isModeName_of_readModeName {name : List Char} {m : String}
    (h : readModeName name = .ok m) : isModeName m.toList := by
  unfold readModeName at h
  split at h
  · next hname =>
    obtain rfl := Except.ok.inj h
    rwa [String.toList_ofList]
  · simp at h

/-- What is read names modes that can be named. -/
theorem isWritable_of_parse {text : String} {t : Transition} (h : parse text = .ok t) :
    t.IsWritable := by
  have hpush : ∀ {name : List Char}, (readModeName name).map push = .ok t → t.IsWritable := by
    intro name hname
    obtain ⟨m, hm, rfl⟩ := map_eq_ok.1 hname
    rintro _ ⟨⟩
    exact isModeName_of_readModeName hm
  have hswitch : ∀ {name : List Char}, (readModeName name).map switchTo = .ok t →
      t.IsWritable := by
    intro name hname
    obtain ⟨m, hm, rfl⟩ := map_eq_ok.1 hname
    rintro _ ⟨⟩
    exact isModeName_of_readModeName hm
  unfold parse ofChars at h
  repeat' split at h
  all_goals first
    | exact hpush h
    | exact hswitch h
    | (injection h with h; subst h; rintro _ ⟨⟩)
    | cases h

end Transition

end ModeLexer
