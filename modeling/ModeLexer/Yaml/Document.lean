import ModeLexer.Yaml.Node
import ModeLexer.Yaml.TokenStream

/-!
# From tokens to a document

The grammar of nodes over tokens. Nearly everything may be left out and then is an empty scalar. A
text has to hold exactly one document.
-/

namespace ModeLexer.Yaml

/-! ### Handles -/

/-- What handles stand for, the first entry of a handle being the one that counts. -/
abbrev Handles := List (String × String)

/-- The handles that every document knows. -/
def Handles.standard : Handles := [("!", "!"), ("!!", "tag:yaml.org,2002:")]

/-- A tag in full. -/
def WrittenTag.full (handles : Handles) (t : WrittenTag) : Except SyntaxError String :=
  if t.handle.isEmpty then .ok t.suffix
  else match handles.lookup t.handle with
    | some stem => .ok (stem ++ t.suffix)
    | none => .error .undefinedHandle

/-! ### Nodes -/

/-- Reads an anchor, a tag or both in either order. -/
def readProperties (handles : Handles) : List Token → Except SyntaxError (Properties × List Token)
  | .anchor name :: .tag t :: ts => do
    return ({ anchor? := some name, tag? := some (← t.full handles) }, ts)
  | .tag t :: .anchor name :: ts => do
    return ({ anchor? := some name, tag? := some (← t.full handles) }, ts)
  | .anchor name :: ts => .ok ({ anchor? := some name }, ts)
  | .tag t :: ts => do return ({ tag? := some (← t.full handles) }, ts)
  | ts => .ok ({}, ts)

/-- The tag of a scalar that is written out; an exclamation mark alone is none. -/
def Properties.ofScalar (p : Properties) : Properties :=
  if p.tag? = some "!" then { p with tag? := none } else p

/-- Where a node stands, which decides about the shapes it may have. -/
inductive Place where
  /-- Within a flow collection. -/
  | flow
  | block
  /-- A key or a value in a block, which may be a sequence that is not indented. -/
  | blockEntry
  deriving DecidableEq, Repr

/-- Whether a block ends before a token or goes on with another part. -/
def endsBlockPart : Token → Bool
  | .key | .value | .blockEnd => true
  | _ => false

/-- The nodes of a document, with aliases as they are written. -/
abbrev WrittenNode := Node String

mutual
/-- Reads a node that is there. -/
def readNode (handles : Handles) :
    Nat → Place → List Token → Except SyntaxError (WrittenNode × List Token)
  | 0, _, _ => .error .malformed
  | _ + 1, _, .reference name :: ts => .ok (.reference name, ts)
  | n + 1, place, ts => do
    let (props, ts) ← readProperties handles ts
    match ts with
    | .scalar style text :: ts => return (.scalar props.ofScalar style text, ts)
    | .flowSequenceStart :: ts =>
      let (items, ts) ← readFlowItems handles n true ts
      return (.sequence props items, ts)
    | .flowMappingStart :: ts =>
      let (entries, ts) ← readFlowEntries handles n true ts
      return (.mapping props entries, ts)
    | token :: rest =>
      if token = .blockEntry && place = .blockEntry then
        let (items, ts) ← readLooseItems handles n ts
        return (.sequence props items, ts)
      else if token = .blockSequenceStart && place ≠ .flow then
        let (items, ts) ← readBlockItems handles n rest
        return (.sequence props items, ts)
      else if token = .blockMappingStart && place ≠ .flow then
        let (entries, ts) ← readBlockEntries handles n rest
        return (.mapping props entries, ts)
      else if props = {} then .error .malformed
      else return (.empty props, ts)
    | [] => if props = {} then .error .malformed else return (.empty props, ts)

/-- Reads a node, or an empty one before a token of which `absent` holds. -/
def readOptional (handles : Handles) (absent : Token → Bool) :
    Nat → Place → List Token → Except SyntaxError (WrittenNode × List Token)
  | 0, _, _ => .error .malformed
  | n + 1, place, ts =>
    if ts.head?.any absent then .ok (.empty {}, ts) else readNode handles n place ts

/-- Reads the value of an entry, which is empty without its indicator. -/
def readValue (handles : Handles) (absent : Token → Bool) :
    Nat → Place → List Token → Except SyntaxError (WrittenNode × List Token)
  | 0, _, _ => .error .malformed
  | n + 1, place, .value :: ts => readOptional handles absent n place ts
  | _ + 1, _, ts => .ok (.empty {}, ts)

/-- Reads the items of a sequence in a block, with its end. -/
def readBlockItems (handles : Handles) :
    Nat → List Token → Except SyntaxError (List WrittenNode × List Token)
  | 0, _ => .error .malformed
  | n + 1, .blockEntry :: ts => do
    let (item, ts) ← readOptional handles (fun t ↦ t = .blockEntry || t = .blockEnd) n .block ts
    let (items, ts) ← readBlockItems handles n ts
    return (item :: items, ts)
  | _ + 1, .blockEnd :: ts => .ok ([], ts)
  | _ + 1, _ => .error .malformed

/-- Reads the items of a sequence that is not indented and so has no end. -/
def readLooseItems (handles : Handles) :
    Nat → List Token → Except SyntaxError (List WrittenNode × List Token)
  | 0, _ => .error .malformed
  | n + 1, .blockEntry :: ts => do
    let (item, ts) ← readOptional handles (fun t ↦ t = .blockEntry || endsBlockPart t) n .block ts
    let (items, ts) ← readLooseItems handles n ts
    return (item :: items, ts)
  | _ + 1, ts => .ok ([], ts)

/-- Reads the entries of a mapping in a block, with its end. -/
def readBlockEntries (handles : Handles) :
    Nat → List Token → Except SyntaxError (List (WrittenNode × WrittenNode) × List Token)
  | 0, _ => .error .malformed
  | n + 1, .key :: ts => do
    let (key, ts) ← readOptional handles endsBlockPart n .blockEntry ts
    let (value, ts) ← readValue handles endsBlockPart n .blockEntry ts
    let (entries, ts) ← readBlockEntries handles n ts
    return ((key, value) :: entries, ts)
  | _ + 1, .blockEnd :: ts => .ok ([], ts)
  | _ + 1, _ => .error .malformed

/-- Reads the items of a sequence in brackets, with its end. An item may be an entry, which then is
a mapping of its own. -/
def readFlowItems (handles : Handles) :
    Nat → Bool → List Token → Except SyntaxError (List WrittenNode × List Token)
  | 0, _, _ => .error .malformed
  | _ + 1, _, .flowSequenceEnd :: ts => .ok ([], ts)
  | n + 1, false, .flowEntry :: ts => readFlowItems handles n true ts
  | _ + 1, false, _ => .error .malformed
  | n + 1, true, .key :: ts => do
    let absent (t : Token) : Bool := t = .flowEntry || t = .flowSequenceEnd
    let (key, ts) ← readOptional handles (fun t ↦ t = .value || absent t) n .flow ts
    let (value, ts) ← readValue handles absent n .flow ts
    let (items, ts) ← readFlowItems handles n false ts
    return (.mapping {} [(key, value)] :: items, ts)
  | n + 1, true, ts => do
    let (item, ts) ← readNode handles n .flow ts
    let (items, ts) ← readFlowItems handles n false ts
    return (item :: items, ts)

/-- Reads the entries of a mapping in braces, with its end. -/
def readFlowEntries (handles : Handles) :
    Nat → Bool → List Token → Except SyntaxError (List (WrittenNode × WrittenNode) × List Token)
  | 0, _, _ => .error .malformed
  | _ + 1, _, .flowMappingEnd :: ts => .ok ([], ts)
  | n + 1, false, .flowEntry :: ts => readFlowEntries handles n true ts
  | _ + 1, false, _ => .error .malformed
  | n + 1, true, .key :: ts => do
    let absent (t : Token) : Bool := t = .flowEntry || t = .flowMappingEnd
    let (key, ts) ← readOptional handles (fun t ↦ t = .value || absent t) n .flow ts
    let (value, ts) ← readValue handles absent n .flow ts
    let (entries, ts) ← readFlowEntries handles n false ts
    return ((key, value) :: entries, ts)
  | n + 1, true, ts => do
    let (key, ts) ← readNode handles n .flow ts
    let (entries, ts) ← readFlowEntries handles n false ts
    return ((key, .empty {}) :: entries, ts)
end

/-! ### Documents -/

/-- Reads the directives before a document: at most one version, and for each handle one meaning. -/
def readDirectives :
    Bool → Handles → List Token → Except SyntaxError (Handles × List Token)
  | versioned, handles, .directive (.version major minor) :: ts =>
    if versioned || major ≠ 1 || !(minor = 1 || minor = 2) then .error .invalidDirective
    else readDirectives true handles ts
  | versioned, handles, .directive (.handle name stem) :: ts =>
    if handles.any (·.1 == name) then .error .invalidDirective
    else readDirectives versioned ((name, stem) :: handles) ts
  | _, handles, ts => .ok (handles, ts)

/-- Whether a document that has been started is empty before a token. -/
def endsDocument : Token → Bool
  | .directive _ | .documentStart | .documentEnd => true
  | _ => false

/-- Reads a text as one document. -/
def readDocument (text : String) : Except SyntaxError WrittenNode := do
  let ts ← tokens text
  if ts.isEmpty then throw .unexpectedEnd
  let fuel := 4 * ts.length + 4
  let (handles, rest) ← readDirectives false [] ts
  let handles := handles ++ Handles.standard
  let (node, rest) ← match rest with
    | .documentStart :: rest =>
      if rest.isEmpty then pure (.empty {}, rest)
      else readOptional handles endsDocument fuel .block rest
    | _ =>
      if rest.length < ts.length then throw .malformed
      else readNode handles fuel .block rest
  if (rest.dropWhile (· = .documentEnd)).isEmpty then return node else throw .malformed

end ModeLexer.Yaml
