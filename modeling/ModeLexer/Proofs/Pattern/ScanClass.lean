import ModeLexer.Proofs.Pattern.LookaheadScan
import ModeLexer.Proofs.Regex.PlainText

/-!
# The scan over classes

The scan does not know classes within classes: it takes the first closing bracket for the end of the
class, and what is left of the class for text outside. That does no harm in two kinds of classes
(`Bracket.isScanned`). In a *flat* class there is no other, so the first closing bracket is the
right one. In the others a parenthesis, a bar or an opening bracket could be taken for what it is
not, so there must be none.
-/

namespace ModeLexer

namespace Regex

/-- The characters that mean something to the scan outside of classes, but for brackets. -/
def groupMarks : List Char := ['(', ')', '|']

/-- Whether the scan comes out of a class where the class ends. A flat class has no class in it;
others have no parentheses and bars in them, and no ranges up to an opening bracket. -/
def Bracket.isScanned (flat : Bool) : Bracket → Bool
  | empty | charClass _ _ | property _ _ => true
  | literal c => flat || c ∉ groupMarks
  | range lo hi => flat || (lo ∉ groupMarks && hi ∉ '[' :: groupMarks)
  | posix _ _ => !flat
  | nested _ inner => !flat && inner.isScanned flat
  | union a b | operation _ a b => a.isScanned flat && b.isScanned flat

/-- Whether the scan comes out of a class in brackets where the class ends. -/
def Bracket.isScannable : Bracket → Bool
  | nested _ inner => inner.isScanned true || inner.isScanned false
  | _ => false

theorem Bracket.isScanned_add (flat : Bool) (a b : Bracket) :
    (a.add b).isScanned flat = (a.isScanned flat && b.isScanned flat) := by
  cases a <;> simp [add, isScanned]

theorem PendingOperation.isScanned_close_add (flat : Bool) (pending : PendingOperation)
    (a b : Bracket) :
    (pending.close (a.add b)).isScanned flat =
      ((pending.close a).isScanned flat && b.isScanned flat) := by
  cases pending with
  | none => exact Bracket.isScanned_add flat a b
  | some p => simp [close, Bracket.isScanned, Bracket.isScanned_add, Bool.and_assoc]

end Regex

namespace Pattern.LookaheadScan

open Regex

variable {cs rest : List Char} {flat : Bool} {p q : ClassPosition}

/-- Whether the members of a class that begin here are passed over from a position. -/
structure Fits (flat : Bool) (p : ClassPosition) (cs : List Char) : Prop where
  /-- A closing bracket closes the class. -/
  close : p.settled ≠ p → cs.head? ≠ some ']'
  /-- A caret stands for itself. -/
  caret : p = .opened → cs.head? ≠ some '^'
  inside : flat → p ≠ .outside

theorem Fits.of_settled (hp : p.settled = p) (hflat : flat → p ≠ .outside) (cs : List Char) :
    Fits flat p cs :=
  ⟨fun hne ↦ absurd hp hne, fun hopened ↦ by simp [hopened, ClassPosition.settled] at hp, hflat⟩

theorem Fits.settled (h : Fits flat p cs) (rest : List Char) : Fits flat p.settled rest := by
  refine .of_settled p.settled_settled (fun hflat hp ↦ h.inside hflat ?_) rest
  cases p <;> simp_all [ClassPosition.settled]

/-- Plain text is passed over wherever the scan is. -/
theorem leads_plain {taken : List Char} (hne : taken ≠ []) (h : ∀ c ∈ taken, IsPlain c)
    (p : ClassPosition) : Leads taken p p.settled := by
  obtain ⟨c, cs, rfl⟩ := List.exists_cons_of_ne_nil hne
  obtain ⟨hc, hcs⟩ := List.forall_mem_cons.1 h
  exact (Leads.of_ignores (p.ignores_of_isPlain hc)).cons (.of_isPlain hcs p.settled_settled)

/-- A literal in a class is passed over, if it does not mean something to the scan there. -/
theorem leads_literal {c : Char} (hescape : c ≠ '\\') (hclose : c ≠ ']')
    (hcaret : p = .opened → c ≠ '^') (houtside : p = .outside → c ∉ '[' :: groupMarks) :
    Leads [c] p p.settled := by
  refine .of_ignores ?_
  cases p <;> simp_all [ClassPosition.Ignores, groupMarks]

/-! ### Items and ranges -/

/-- An item of a class is an escape or a literal. -/
theorem readClassItem_taken {a : Atom} (h : readClassItem false cs = .ok (a, rest)) :
    ∃ taken, cs = taken ++ rest ∧
      ((∀ p, Leads taken p p.settled) ∨ ∃ c, c ≠ '\\' ∧ taken = [c] ∧ a = .literal c) := by
  unfold readClassItem at h
  split at h
  · simp at h
  · obtain ⟨c, r, rfl, taken, rfl, htaken⟩ := readEscape_taken h
    refine ⟨'\\' :: c :: taken, rfl, .inl fun p ↦ ?_⟩
    exact (Leads.escape p c).append (.of_isPlain htaken p.settled_settled)
  · next c r hc =>
    obtain ⟨rfl, rfl⟩ := Prod.mk.inj (Except.ok.inj h)
    exact ⟨[c], rfl, .inr ⟨c, hc, rfl, rfl⟩⟩

/-- What is read is an item alone, or a range of two literals. -/
theorem exists_of_readClassRange {b : Bracket} (h : readClassRange false cs = .ok (b, rest)) :
    ∃ first left, readClassItem false cs = .ok (first, left) ∧
      (first.toBracket = .ok b ∧ rest = left ∨
        ∃ lo hi r last, first.char? = some lo ∧ left = '-' :: r ∧ r.head? ≠ some ']' ∧
          readClassItem false r = .ok (last, rest) ∧ last.char? = some hi ∧
            b = .range lo hi) := by
  unfold readClassRange at h
  obtain ⟨⟨first, left⟩, hfirst, hrange⟩ := bind_eq_ok.1 h
  refine ⟨first, left, hfirst, ?_⟩
  have hsingle {r : List Char} (h : (do return (← first.toBracket, r)) = .ok (b, rest)) :
      first.toBracket = .ok b ∧ rest = r := by
    obtain ⟨b', hb', hpure⟩ := bind_eq_ok.1 h
    obtain ⟨rfl, rfl⟩ := Prod.mk.inj (pure_eq_ok.1 hpure)
    exact ⟨hb', rfl⟩
  dsimp only at hrange
  split at hrange
  · simp at hrange
  · next r hskip =>
    obtain rfl : left = '-' :: r := hskip
    split at hrange
    · exact .inl (hsingle hrange)
    · next hpeek =>
      cases hlast : readClassItem false (skip false r) with
      | error e => simp [hlast, bind, Except.bind] at hrange
      | ok found =>
        obtain ⟨last, left'⟩ := found
        simp only [hlast, bind, Except.bind] at hrange
        split at hrange
        · next lo hi hlo hhi =>
          split at hrange
          · obtain ⟨rfl, rfl⟩ := Prod.mk.inj (pure_eq_ok.1 hrange)
            exact .inr ⟨lo, hi, r, last, hlo, rfl, fun hclose ↦ hpeek (.inl hclose), hlast, hhi,
              rfl⟩
          · simp at hrange
        · simp at hrange
  · exact .inl (hsingle hrange)

/-- What a member that is scanned says of the character that it is. -/
theorem not_mem_of_toBracket {a : Atom} {b : Bracket} (h : a.toBracket = .ok b)
    (hb : b.isScanned flat) {c : Char} (ha : a.char? = some c) : flat ∨ c ∉ groupMarks := by
  obtain rfl : b = .literal c := by
    cases a <;> simp_all [Atom.char?, Atom.toBracket]
  simpa [Bracket.isScanned] using hb

/-- An item is passed over at the start of a member. -/
theorem readClassItem_leads {a : Atom} (h : readClassItem false cs = .ok (a, rest))
    (hp : Fits flat p cs) (hopen : cs.head? ≠ some '[') (hclose : cs.head? ≠ some ']')
    (hmarks : ∀ c, a.char? = some c → flat ∨ c ∉ groupMarks) :
    ∃ taken, cs = taken ++ rest ∧ Leads taken p p.settled := by
  obtain ⟨taken, rfl, htaken⟩ := readClassItem_taken h
  refine ⟨taken, rfl, ?_⟩
  rcases htaken with htaken | ⟨c, hescape, rfl, rfl⟩
  · exact htaken p
  · refine leads_literal hescape (by simpa using hclose) (by simpa using hp.caret) fun hout ↦ ?_
    have hc := (hmarks c rfl).resolve_left fun hflat ↦ hp.inside hflat hout
    exact List.mem_cons.not.2 (not_or.2 ⟨by simpa using hopen, hc⟩)

/-- A member of a class or a range of members is passed over. -/
theorem readClassRange_leads {b : Bracket} (h : readClassRange false cs = .ok (b, rest))
    (hb : b.isScanned flat) (hp : Fits flat p cs) (hopen : cs.head? ≠ some '[')
    (hclose : cs.head? ≠ some ']') :
    ∃ taken, cs = taken ++ rest ∧ Leads taken p p.settled := by
  obtain ⟨first, left, hfirst,
    ⟨hb', rfl⟩ | ⟨lo, hi, r, last, hlo, rfl, hclose', hlast, hhi, rfl⟩⟩ :=
      exists_of_readClassRange h
  · exact readClassItem_leads hfirst hp hopen hclose fun c ↦ not_mem_of_toBracket hb' hb
  · simp only [Bracket.isScanned, Bool.or_eq_true, Bool.and_eq_true, decide_eq_true_eq] at hb
    obtain ⟨taken, rfl, hleads⟩ := readClassItem_leads hfirst hp hopen hclose fun c hc ↦ by
      obtain rfl := Option.some.inj (hlo.symm.trans hc)
      exact hb.imp_right And.left
    obtain ⟨taken', rfl, hleads'⟩ := readClassItem_taken hlast
    have hhyphen : Leads ['-'] p.settled p.settled :=
      .of_isPlain (isPlain_of_all (by decide)) p.settled_settled
    refine ⟨taken ++ '-' :: taken', by simp, hleads.append (hhyphen.cons ?_)⟩
    rcases hleads' with hleads' | ⟨c, hescape, rfl, rfl⟩
    · simpa using hleads' p.settled
    · obtain rfl := Option.some.inj hhi
      have hfits := hp.settled [c]
      have hleads' := leads_literal hescape (by simpa using hclose') (by simpa using hfits.caret)
        fun hout ↦ (hb.resolve_left fun hflat ↦ hfits.inside hflat hout).2
      simpa using hleads'

/-! ### Starts of classes and ASCII classes -/

/-- The hyphens at the start of a class are plain, and with any of them the class is not empty. -/
theorem readHyphens_taken {b b' : Bracket} {n : Nat} (h : readHyphens false b n cs = (b', rest)) :
    ∃ taken, cs = taken ++ rest ∧ (∀ c ∈ taken, IsPlain c) ∧
      (taken = [] ∧ b' = b ∨ taken ≠ [] ∧ b' ≠ .empty) := by
  induction n generalizing b cs with
  | zero =>
    obtain ⟨rfl, rfl⟩ : b = b' ∧ cs = rest := by simpa [readHyphens] using h
    exact ⟨[], rfl, by simp, .inl ⟨rfl, rfl⟩⟩
  | succ n ih =>
    rw [readHyphens.eq_def] at h
    split at h
    · next m r hm =>
      obtain rfl := Nat.succ.inj hm
      obtain ⟨taken, heq, hplain, htaken⟩ := ih h
      obtain rfl : r = taken ++ rest := heq
      refine ⟨'-' :: taken, rfl, List.forall_mem_cons.2 ⟨by decide, hplain⟩, .inr ⟨by simp, ?_⟩⟩
      rcases htaken with ⟨-, rfl⟩ | ⟨-, hb'⟩
      · simp
      · exact hb'
    · obtain ⟨rfl, rfl⟩ := Prod.mk.inj h
      exact ⟨[], rfl, by simp, .inl ⟨rfl, rfl⟩⟩

/-- What stands for itself at the start of a class is passed over. -/
theorem readLiteralStart_leads (flat : Bool) {negated negated' : Bool} {b : Bracket}
    (h : readLiteralStart false negated cs = (negated', b, rest))
    (hcaret : p = .opened → cs.head? ≠ some '^') (hp : p.settled = .inside)
    (hflat : flat → p ≠ .inside) :
    ∃ taken q, cs = taken ++ rest ∧ Leads taken p q ∧ Fits flat q rest := by
  unfold readLiteralStart at h
  split at h
  · next left hread =>
    obtain ⟨-, -, hleft⟩ : _ ∧ _ ∧ skip false left = rest := by simpa using h
    obtain rfl : left = rest := hleft
    obtain ⟨taken, rfl, -, ⟨rfl, -⟩ | ⟨-, hb⟩⟩ := readHyphens_taken hread
    · cases p with
      | outside => simp [ClassPosition.settled] at hp
      | opened | openedNegated =>
        exact ⟨[']'], .inside, rfl, .of_ignores (by simp [ClassPosition.Ignores]),
          .of_settled rfl (by simp) _⟩
      | inside =>
        exact ⟨[']'], .outside, rfl, .closing rfl, .of_settled rfl (fun h ↦ absurd rfl (hflat h)) _⟩
    · exact absurd rfl hb
  · next b' left hne hread =>
    obtain ⟨-, rfl, rfl⟩ : _ ∧ b' = b ∧ left = rest := by simpa using h
    obtain ⟨taken, rfl, hplain, ⟨rfl, rfl⟩ | ⟨htaken, -⟩⟩ := readHyphens_taken hread
    · refine ⟨[], p, rfl, .nil p, ⟨fun _ hclose ↦ ?_, hcaret, fun _ hout ↦ ?_⟩⟩
      · cases left with
        | nil => simp at hclose
        | cons c r => exact hne r rfl (by rw [Option.some.inj hclose])
      · simp [hout, ClassPosition.settled] at hp
    · refine ⟨taken, p.settled, rfl, leads_plain htaken hplain p, ?_⟩
      exact .of_settled p.settled_settled (by simp [hp]) left

/-- The start of a class is passed over, behind its opening bracket. -/
theorem readBracketStart_leads (flat : Bool) {negated : Bool} {b : Bracket}
    (h : readBracketStart false cs = (negated, b, rest))
    (hp : p = .opened ∨ p = .inside ∧ flat = false) :
    ∃ taken q, cs = taken ++ rest ∧ Leads taken p q ∧ Fits flat q rest := by
  have hsettled : p.settled = .inside := by rcases hp with rfl | ⟨rfl, -⟩ <;> rfl
  have hflat : flat → p ≠ .inside := by rcases hp with rfl | ⟨rfl, rfl⟩ <;> simp
  cases cs with
  | nil =>
    have hread : readLiteralStart false false [] = (negated, b, rest) := h
    exact readLiteralStart_leads flat hread (by simp) hsettled hflat
  | cons c r =>
    by_cases hc : c = '^'
    · subst hc
      rw [readBracketStart_caret rfl] at h
      rcases hp with rfl | ⟨rfl, rfl⟩
      · obtain ⟨taken, q, heq, hleads, hfits⟩ :=
          readLiteralStart_leads (p := .openedNegated) flat h (by simp) rfl (by simp)
        obtain rfl : r = taken ++ rest := heq
        exact ⟨'^' :: taken, q, rfl, Leads.caret.cons hleads, hfits⟩
      · obtain ⟨taken, q, heq, hleads, hfits⟩ :=
          readLiteralStart_leads (p := .inside) false h (by simp) rfl (by simp)
        obtain rfl : r = taken ++ rest := heq
        exact ⟨'^' :: taken, q, rfl, Leads.caret_inside.cons hleads, hfits⟩
    · rw [readBracketStart_of_ne rfl hc] at h
      exact readLiteralStart_leads flat h (by simpa using fun _ ↦ hc) hsettled hflat

theorem readClassName?_taken {negated : Bool} {b : Bracket}
    (h : readClassName? negated cs = some (b, rest)) :
    (∃ k, b = .posix k negated) ∧
      ∃ name, cs = name ++ ':' :: ']' :: rest ∧ ∀ c ∈ name, IsPlain c := by
  unfold readClassName? at h
  split at h
  · next name left hsplit =>
    obtain ⟨k, hk, heq⟩ := Option.map_eq_some_iff.1 h
    obtain ⟨rfl, rfl⟩ := Prod.mk.inj heq
    refine ⟨⟨k, rfl⟩, name, by simpa using eq_append_of_splitAtFirst? hsplit, fun c hc ↦ ?_⟩
    exact isPlain_of_any (by decide : brackets.any Char.isAlpha = false)
      (isAlpha_of_posixNamed? hk c hc)
  · simp at h

/-- An ASCII class is passed over, behind its opening bracket. -/
theorem readPosix?_leads {b : Bracket} (h : readPosix? cs = some (b, rest))
    (hp : p.settled = .inside) :
    (∃ k negated, b = .posix k negated) ∧ ∃ taken, cs = taken ++ rest ∧ Leads taken p .outside := by
  obtain ⟨negated, left, rfl, hname⟩ := exists_of_readPosix? h
  obtain ⟨⟨k, rfl⟩, name, rfl, hplain⟩ := readClassName?_taken hname
  have hcolon : Leads [':'] p .inside := hp ▸ leads_plain (by simp) (isPlain_of_all (by decide)) p
  have hcaret : Leads (if negated then ['^'] else []) .inside .inside := by
    cases negated
    · exact .nil _
    · exact .caret_inside
  have hclose : Leads [':', ']'] .inside .outside :=
    (Leads.of_isPlain (isPlain_of_all (by decide)) rfl).cons (.closing rfl)
  refine ⟨⟨k, negated, rfl⟩, ':' :: ((if negated then ['^'] else []) ++ (name ++ [':', ']'])),
    by simp, ?_⟩
  exact hcolon.cons (hcaret.append ((Leads.of_isPlain hplain rfl).append hclose))

/-! ### Members -/

/-- An opening bracket within a class opens one for the scan only if the scan is outside. -/
theorem exists_leads_open (p : ClassPosition) :
    ∃ q, Leads ['['] p q ∧ (q = .opened ∨ q = .inside) := by
  cases p with
  | outside => exact ⟨.opened, .opening, .inl rfl⟩
  | opened | openedNegated | inside =>
    exact ⟨.inside, .of_ignores (by simp [ClassPosition.Ignores]), .inr rfl⟩

/-- Whether the text of the members of a class leads out of it, wherever they may begin. -/
def LeadsOut (flat : Bool) (cs rest : List Char) : Prop :=
  ∀ p, Fits flat p cs → ∃ taken, cs = taken ++ rest ∧ Leads taken p .outside

namespace LeadsOut

variable {left : List Char}

theorem close (rest : List Char) : LeadsOut flat (']' :: rest) rest := by
  refine fun p hp ↦ ⟨[']'], rfl, .closing ?_⟩
  by_contra hne
  exact hp.close hne rfl

theorem operation (h : LeadsOut flat cs rest) {c : Char} (hc : IsPlain c) :
    LeadsOut flat (c :: c :: cs) rest := by
  intro p hp
  have hpair : Leads [c, c] p p.settled := leads_plain (by simp) (by simpa using hc) p
  obtain ⟨taken, rfl, htaken⟩ := h p.settled (hp.settled cs)
  exact ⟨c :: c :: taken, rfl, hpair.append htaken⟩

theorem member (h : LeadsOut flat left rest) {b : Bracket}
    (hrange : readClassRange false cs = .ok (b, left)) (hb : b.isScanned flat)
    (hopen : cs.head? ≠ some '[') (hclose : cs.head? ≠ some ']') : LeadsOut flat cs rest := by
  intro p hp
  obtain ⟨taken, rfl, htaken⟩ := readClassRange_leads hrange hb hp hopen hclose
  obtain ⟨taken', rfl, htaken'⟩ := h p.settled (hp.settled left)
  exact ⟨taken ++ taken', by simp, htaken.append htaken'⟩

theorem posix (h : LeadsOut false left rest) {b : Bracket}
    (hposix : readPosix? cs = some (b, left)) : LeadsOut false ('[' :: cs) rest := by
  intro p hp
  obtain ⟨q, hopen, hq⟩ := exists_leads_open p
  have hsettled : q.settled = .inside := by rcases hq with rfl | rfl <;> rfl
  obtain ⟨taken, rfl, htaken⟩ := (readPosix?_leads hposix hsettled).2
  obtain ⟨taken', rfl, htaken'⟩ := h .outside (.of_settled rfl (by simp) left)
  exact ⟨'[' :: (taken ++ taken'), by simp, hopen.cons (htaken.append htaken')⟩

theorem nested {cs' : List Char} (hinner : LeadsOut false cs' left)
    (h : LeadsOut false left rest) {negated : Bool} {b : Bracket}
    (hstart : readBracketStart false cs = (negated, b, cs')) :
    LeadsOut false ('[' :: cs) rest := by
  intro p hp
  obtain ⟨q, hopen, hq⟩ := exists_leads_open p
  obtain ⟨start, q', rfl, hleads, hfits⟩ :=
    readBracketStart_leads false hstart (hq.imp_right fun hq ↦ ⟨hq, rfl⟩)
  obtain ⟨taken, rfl, htaken⟩ := hinner q' hfits
  obtain ⟨taken', rfl, htaken'⟩ := h .outside (.of_settled rfl (by simp) left)
  exact ⟨'[' :: (start ++ (taken ++ taken')), by simp,
    hopen.cons (hleads.append (htaken.append htaken'))⟩

end LeadsOut

/-- The members of a class lead out of it, if those that are read are scanned; all of them are in
what is read. -/
theorem leadsOut_of_readMembers {n : Nat} {pending : PendingOperation} {acc b : Bracket}
    (h : readMembers false n pending acc cs = .ok (b, rest)) (hb : b.isScanned flat) :
    (pending.close acc).isScanned flat ∧ LeadsOut flat cs rest := by
  induction n generalizing flat pending acc cs b rest with
  | zero => simp [readMembers] at h
  | succ n ih =>
    have hoperation {c : Char} {r : List Char} {o : SetOperation} (hc : IsPlain c)
        (hcs : cs = c :: c :: r)
        (hread : readMembers false n (some (o, pending.close acc)) .empty r = .ok (b, rest)) :
        (pending.close acc).isScanned flat ∧ LeadsOut flat cs rest := by
      obtain ⟨hclose, hleads⟩ := ih hread hb
      rw [hcs]
      exact ⟨(Bool.and_eq_true_iff.1 hclose).1, hleads.operation hc⟩
    have hmember {b' : Bracket} {left : List Char}
        (hread : readMembers false n pending (acc.add b') left = .ok (b, rest)) :
        ((pending.close acc).isScanned flat ∧ b'.isScanned flat) ∧ LeadsOut flat left rest := by
      obtain ⟨hclose, hleads⟩ := ih hread hb
      rw [PendingOperation.isScanned_close_add, Bool.and_eq_true] at hclose
      exact ⟨hclose, hleads⟩
    rw [readMembers] at h
    split at h
    · simp at h
    · next r hskip =>
      obtain rfl : cs = ']' :: r := hskip
      obtain ⟨rfl, rfl⟩ := Prod.mk.inj (Except.ok.inj h)
      exact ⟨hb, .close r⟩
    · next r hskip =>
      obtain rfl : cs = '[' :: r := hskip
      split at h
      · next b' left hposix =>
        obtain ⟨⟨hclose, hb'⟩, hleads⟩ := hmember h
        obtain ⟨k, negated, rfl⟩ := (readPosix?_leads hposix (p := .inside) rfl).1
        obtain rfl : flat = false := by simpa [Bracket.isScanned] using hb'
        exact ⟨hclose, hleads.posix hposix⟩
      · rcases hstart : readBracketStart false r with ⟨negated, start, r'⟩
        simp only [hstart] at h
        obtain ⟨⟨inner, left⟩, hinner, hnext⟩ := bind_eq_ok.1 h
        obtain ⟨⟨hclose, hb'⟩, hleads⟩ := hmember hnext
        obtain ⟨rfl, hscanned⟩ : flat = false ∧ inner.isScanned flat := by
          simpa [Bracket.isScanned] using hb'
        exact ⟨hclose, (ih hinner hscanned).2.nested hleads hstart⟩
    · next hskip => exact hoperation (by decide) hskip h
    · next hskip => exact hoperation (by decide) hskip h
    · next hskip => exact hoperation (by decide) hskip h
    · next hclose hopen _ _ _ =>
      obtain ⟨⟨b', left⟩, hrange, hnext⟩ := bind_eq_ok.1 h
      obtain ⟨⟨hclosed, hb'⟩, hleads⟩ := hmember hnext
      have hhead {c : Char} (hc : ∀ r, cs ≠ c :: r) : cs.head? ≠ some c := by
        intro heq
        obtain ⟨r, hr⟩ := List.head?_eq_some_iff.1 heq
        exact hc r hr
      exact ⟨hclosed, hleads.member hrange hb' (hhead hopen) (hhead hclose)⟩

/-! ### Classes -/

/-- The scan comes out of a class where the class ends. -/
theorem readBracket_leads {b : Bracket} (h : readBracket false cs = .ok (b, rest))
    (hb : b.isScannable) :
    ∃ taken, '[' :: cs = taken ++ rest ∧ Leads taken .outside .outside := by
  unfold readBracket at h
  rcases hstart : readBracketStart false cs with ⟨negated, start, r⟩
  simp only [hstart] at h
  obtain ⟨⟨inner, left⟩, hinner, hpure⟩ := bind_eq_ok.1 h
  obtain ⟨rfl, rfl⟩ := Prod.mk.inj (pure_eq_ok.1 hpure)
  obtain ⟨flat, hflat⟩ : ∃ flat, inner.isScanned flat := by
    rcases Bool.or_eq_true_iff.1 hb with hb | hb
    · exact ⟨true, hb⟩
    · exact ⟨false, hb⟩
  obtain ⟨before, q, rfl, hbefore, hfits⟩ := readBracketStart_leads flat hstart (.inl rfl)
  obtain ⟨taken, rfl, htaken⟩ := (leadsOut_of_readMembers hinner hflat).2 q hfits
  exact ⟨'[' :: (before ++ taken), by simp, Leads.opening.cons (hbefore.append htaken)⟩

end Pattern.LookaheadScan

end ModeLexer
