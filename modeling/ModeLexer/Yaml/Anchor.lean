import ModeLexer.Yaml.Document

/-!
# Anchors and aliases

Named nodes are numbered in the order in which they begin. The number of a node is how many names
were in use before it; so the first node after one whose name was in use already gets the same
number, and then takes its place. An alias stands for the last node with the number that its name
has where the alias stands.
-/

namespace ModeLexer.Yaml

/-! ### Numbers -/

/-- A node whose aliases are numbers, with the numbered nodes in it in the order in which they
begin. -/
structure Numbered (α : Type) where
  node : α
  targets : List (Nat × Node Nat)
  /-- The names that are in use after it, with their numbers. -/
  names : List (String × Nat)

/-- The names in use after a node with an anchor. -/
def useName (names : List (String × Nat)) : Option String → List (String × Nat)
  | none => names
  | some name => (name, names.length) :: names.filter (·.1 != name)

/-- A node as the target of the aliases with its number. -/
def asTarget (names : List (String × Nat)) (props : Properties) (node : Node Nat) :
    List (Nat × Node Nat) :=
  if props.anchor?.isSome then [(names.length, node)] else []

namespace Node

mutual
/-- Replaces names by numbers in a node, before which certain names were in use. -/
def number (names : List (String × Nat)) :
    WrittenNode → Except SyntaxError (Numbered (Node Nat))
  | .reference name =>
    match names.lookup name with
    | some id => .ok ⟨.reference id, [], names⟩
    | none => .error .unknownAnchor
  | .scalar props style text =>
    let node := .scalar props style text
    .ok ⟨node, asTarget names props node, useName names props.anchor?⟩
  | .sequence props items => do
    let r ← numberItems (useName names props.anchor?) items
    let node := .sequence props r.node
    return ⟨node, asTarget names props node ++ r.targets, r.names⟩
  | .mapping props entries => do
    let r ← numberEntries (useName names props.anchor?) entries
    let node := .mapping props r.node
    return ⟨node, asTarget names props node ++ r.targets, r.names⟩

/-- Replaces names by numbers in the items of a sequence. -/
def numberItems (names : List (String × Nat)) :
    List WrittenNode → Except SyntaxError (Numbered (List (Node Nat)))
  | [] => .ok ⟨[], [], names⟩
  | item :: items => do
    let a ← number names item
    let b ← numberItems a.names items
    return ⟨a.node :: b.node, a.targets ++ b.targets, b.names⟩

/-- Replaces names by numbers in the entries of a mapping. -/
def numberEntries (names : List (String × Nat)) :
    List (WrittenNode × WrittenNode) → Except SyntaxError (Numbered (List (Node Nat × Node Nat)))
  | [] => .ok ⟨[], [], names⟩
  | (key, value) :: entries => do
    let a ← number names key
    let b ← number a.names value
    let c ← numberEntries b.names entries
    return ⟨(a.node, b.node) :: c.node, a.targets ++ b.targets ++ c.targets, c.names⟩
end

/-! ### Replacing aliases -/

/-- How deeply nodes may be nested, which also ends aliases that lead back to themselves. -/
def depthLimit : Nat := 128

/-- How many aliases may be replaced for each scalar, alias, start and end in a document. -/
def replacementFactor : Nat := 100

/-- Replaces the aliases in a node by their targets, to a depth of `d`. Carries how many more of
them may be replaced. -/
def expand (targets : List (Nat × Node Nat)) :
    Nat → Node Nat → StateT Nat (Except SyntaxError) (Node Empty)
  | 0, _ => throw .endlessAlias
  | d + 1, node => do
    let node ← match node with
      | .reference id => do
        let left ← get
        if left = 0 then throw .endlessAlias
        set (left - 1)
        match (targets.reverse).lookup id with
        | some target => pure target
        | none => throw .unknownAnchor
      | node => pure node
    match node with
    | .scalar props style text => return .scalar props style text
    | .sequence props items => return .sequence props (← items.mapM (expand targets d))
    | .mapping props entries =>
      return .mapping props (← entries.mapM fun (key, value) ↦ do
        return (← expand targets d key, ← expand targets d value))
    | .reference _ => throw .endlessAlias

end Node

/-- Reads a text as one document and replaces all aliases in it. -/
def parse (text : String) : Except SyntaxError (Node Empty) := do
  let written ← readDocument text
  let r ← written.number []
  let (node, _) ←
    (r.node.expand r.targets (Node.depthLimit + 1)).run (Node.replacementFactor * written.size)
  return node

end ModeLexer.Yaml
