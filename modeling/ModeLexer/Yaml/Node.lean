import ModeLexer.Yaml.Token

/-!
# Nodes of a YAML document

A document is a tree of scalars, sequences and mappings, in which an alias may stand for a node that
has been given a name. The type of what stands for aliases is a parameter: names as they are
written, the numbers of the nodes that are meant, or nothing once all aliases have been replaced.
-/

namespace ModeLexer.Yaml

/-- What may stand before any node. -/
structure Properties where
  anchor? : Option String := none
  tag? : Option String := none
  deriving DecidableEq, Repr

/-- A node with aliases of type `ρ`. -/
inductive Node (ρ : Type) where
  | scalar (props : Properties) (style : ScalarStyle) (text : String)
  | sequence (props : Properties) (items : List (Node ρ))
  | mapping (props : Properties) (entries : List (Node ρ × Node ρ))
  | reference (target : ρ)
  deriving Repr

namespace Node

/-- A scalar that is not written at all. -/
def empty {ρ : Type} (props : Properties) : Node ρ := .scalar props .plain ""

mutual
/-- The number of scalars and aliases and of the starts and ends of collections. -/
def size {ρ : Type} : Node ρ → Nat
  | .scalar .. => 1
  | .sequence _ items => 2 + itemsSize items
  | .mapping _ entries => 2 + entriesSize entries
  | .reference _ => 1

def itemsSize {ρ : Type} : List (Node ρ) → Nat
  | [] => 0
  | node :: items => node.size + itemsSize items

def entriesSize {ρ : Type} : List (Node ρ × Node ρ) → Nat
  | [] => 0
  | (key, value) :: entries => key.size + value.size + entriesSize entries
end

end Node

end ModeLexer.Yaml
