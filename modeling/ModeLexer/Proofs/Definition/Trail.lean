import Mathlib.Data.List.Chain
import Mathlib.Data.List.Nodup
import Mathlib.Data.List.Perm.Subperm
import Mathlib.Logic.Relation

/-!
# Trails of names

Patterns refer to patterns and modes include modes, and both are followed in one way: depth first,
with the names on the way remembered. `Trail` is what holds of these names. A name that comes up
again closes a cycle (`Trail.closes`); and since no name is remembered twice, there are never more
of them than there are names at all (`Trail.length_le`), so the bound on the depth is not reached.

`Acyclic` says that no name leads back to itself. It is shown in the one direction from the
accessibility of every name (`not_transGen_of_acc`), which following all of them to the end
provides, and refuted in the other by a list that closes (`not_acyclic_of_closes`).
-/

namespace ModeLexer

open Relation

variable {R : String → String → Prop}

/-- Whether no name leads back to itself. -/
def Acyclic (R : String → String → Prop) : Prop := ∀ name, ¬TransGen R name name

/-- Whether a list of names goes from each to the next and ends in one that is on it before. -/
def Closes (R : String → String → Prop) (names : List String) : Prop :=
  names.IsChain R ∧ ∃ before last, names = before ++ [last] ∧ last ∈ before

theorem not_acyclic_of_closes {names : List String} (h : Closes R names) : ¬Acyclic R := by
  obtain ⟨hchain, before, last, rfl, hmem⟩ := h
  have hpairwise : (before ++ [last]).Pairwise (TransGen R) :=
    (hchain.imp fun _ _ ↦ TransGen.single).pairwise
  intro hacyclic
  exact hacyclic last
    ((List.pairwise_append.1 hpairwise).2.2 last hmem last (List.mem_singleton_self last))

/-- A name from which every way ends does not lead back to itself. -/
theorem not_transGen_of_acc {name : String} (h : Acc (fun a b ↦ R b a) name) :
    ¬TransGen R name name := by
  induction h with
  | intro name _ ih =>
    intro hcycle
    -- the cycle goes through the next name on it too
    obtain ⟨next, hnext, hback⟩ := TransGen.head'_iff.1 hcycle
    exact ih next hnext (TransGen.tail' hback hnext)

/-- What is known of the names on the way to a name. -/
structure Trail (R : String → String → Prop) (keys visiting : List String) (name : String) :
    Prop where
  isChain : (visiting ++ [name]).IsChain R
  nodup : visiting.Nodup
  subset : visiting ⊆ keys

namespace Trail

variable {keys visiting : List String} {name next : String}

theorem start (R : String → String → Prop) (keys : List String) (name : String) :
    Trail R keys [] name :=
  ⟨List.isChain_singleton _, .nil, List.nil_subset _⟩

/-- A name that has not come up yet is put on the trail. -/
theorem extend (h : Trail R keys visiting name) (hkey : name ∈ keys) (hnew : name ∉ visiting)
    (hnext : R name next) : Trail R keys (visiting ++ [name]) next where
  isChain := List.isChain_append.2 ⟨h.isChain, List.isChain_singleton _, by simpa using hnext⟩
  nodup := by
    rw [← List.concat_eq_append, List.nodup_concat]
    exact ⟨hnew, h.nodup⟩
  subset := List.append_subset.2 ⟨h.subset, by simpa using hkey⟩

theorem length_le (h : Trail R keys visiting name) : visiting.length ≤ keys.length :=
  (List.Nodup.subperm h.nodup h.subset).length_le

/-- A name that is on the trail already closes a cycle. -/
theorem closes (h : Trail R keys visiting name) (hmem : name ∈ visiting) :
    Closes R (visiting ++ [name]) :=
  ⟨h.isChain, visiting, name, rfl, hmem⟩

/-- The last name on a trail leads to the name it is a trail to. -/
theorem rel_getLastD (h : Trail R keys visiting name) (hne : visiting ≠ []) (default : String) :
    R (visiting.getLastD default) name := by
  obtain ⟨before, last, rfl⟩ := List.eq_nil_or_concat visiting |>.resolve_left hne
  have hlink := (List.isChain_append.1 h.isChain).2.2
  simpa using hlink

end Trail

end ModeLexer
