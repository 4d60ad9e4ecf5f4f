import Stackwright.Yaml.Token

/-!
Nodes of YAML: the tree that the tokens of a document stand for, with its tags, and with references
to its anchored nodes left in place.
-/

namespace Stackwright

namespace Yaml

inductive Node where
  | scalar (tag : Option Tag) (text : String) (style : ScalarStyle)
  | sequence (tag : Option Tag) (items : List Node)
  | mapping (tag : Option Tag) (entries : List (Node × Node))
  | reference (slot : Nat)

instance : Inhabited Node := ⟨.scalar none "" .plain⟩

structure Anchored where
  slot : Nat
  order : Nat
  node : Node

structure Document where
  root : Node
  anchored : List Anchored
  /-- How many scalars and references it has, and starts and ends of collections. -/
  size : Nat

/-- The node that a reference means: of nodes in the same slot the one that began last. -/
def Document.target? (document : Document) (slot : Nat) : Option Node :=
  let inSlot := document.anchored.filter fun a => a.slot = slot
  (inSlot.foldl (fun best a => match best with
    | none => some a
    | some (b : Anchored) => if b.order < a.order then some a else some b) none).map Anchored.node

structure Reading where
  tokens : List Token
  handles : List (String × List UInt8)
  /-- The slots of the anchors' names. A name that is anchored again gets a new slot; the slots are
  counted by the names, so that a later name may get the same one. -/
  slots : List (String × Nat) := []
  started : Nat := 0
  anchored : List Anchored := []
  size : Nat := 0

abbrev Read (α : Type) := StateT Reading (Except Malformed) α

namespace Read

def fail {α : Type} (problem : String) : Read α := do
  let state ← get
  throw ⟨(state.tokens.head?.map Token.line).getD 0, problem⟩

def next : Read Lexeme := do
  let state ← get
  return (state.tokens.head?.map Token.lexeme).getD .sourceEnd

def skip : Read Unit := modify fun state => { state with tokens := state.tokens.drop 1 }

def grow (count : Nat) : Read Unit := modify fun state => { state with size := state.size + count }

def anchor (name : String) : Read (Nat × Nat) := do
  let state ← get
  let slot := state.slots.length
  let others := state.slots.filter fun entry => entry.1 ≠ name
  set { state with slots := (name, slot) :: others, started := state.started + 1 }
  return (slot, state.started)

def reference (name : String) : Read Node := do
  let state ← get
  match state.slots.lookup name with
  | some slot => return .reference slot
  | none => fail "unknown anchor"

def resolveTag (handle : String) (suffix : List UInt8) : Read Tag := do
  if handle = "" then return ⟨suffix⟩
  let state ← get
  match state.handles.lookup handle with
  | some start => return ⟨start ++ suffix⟩
  | none => fail "found undefined tag handle"

structure Properties where
  anchor : Option String := none
  tag : Option (String × List UInt8) := none

def properties : Read Properties := do
  match ← next with
  | .anchor name =>
    skip
    match ← next with
    | .tag handle suffix =>
      skip
      return { anchor := some name, tag := some (handle, suffix) }
    | _ => return { anchor := some name }
  | .tag handle suffix =>
    skip
    match ← next with
    | .anchor name =>
      skip
      return { anchor := some name, tag := some (handle, suffix) }
    | _ => return { tag := some (handle, suffix) }
  | _ => return {}

def emptyNode : Read Node := do
  grow 1
  return .scalar none "" .plain

inductive Context where
  | block
  /-- The value of a block key, which may be a sequence that is not indented. -/
  | blockValue
  | flow
  deriving DecidableEq

mutual
/-- A node. The number of steps bounds the depth of the calls; none of them is made twice without
taking a token. -/
def node : Nat → Context → Read Node
  | 0, _ => fail "document is too deep"
  | steps + 1, context => do
    if let .aliased name ← next then
      skip
      grow 1
      return ← reference name
    let start ← properties
    let tag ← start.tag.mapM fun tag => resolveTag tag.1 tag.2
    let place ← start.anchor.mapM anchor
    let content ← content steps context start tag
    if let some (slot, order) := place then
      modify fun state => { state with anchored := ⟨slot, order, content⟩ :: state.anchored }
    return content

def content : Nat → Context → Properties → Option Tag → Read Node
  | 0, _, _, _ => fail "document is too deep"
  | steps + 1, context, start, tag => do
    match ← next with
    | .item =>
      if context = .blockValue then
        grow 2
        return .sequence tag (← looseItems steps)
      else bare start tag
    | .scalar text style =>
      skip
      grow 1
      return .scalar tag text style
    | .flowSequenceStart =>
      skip
      grow 2
      return .sequence tag (← flowItems steps true)
    | .flowMappingStart =>
      skip
      grow 2
      return .mapping tag (← flowEntries steps true)
    | .sequenceStart =>
      if context = .flow then bare start tag
      else
        skip
        grow 2
        return .sequence tag (← blockItems steps)
    | .mappingStart =>
      if context = .flow then bare start tag
      else
        skip
        grow 2
        return .mapping tag (← blockEntries steps)
    | _ => bare start tag

def bare (start : Properties) (tag : Option Tag) : Read Node := do
  if start.anchor.isNone && start.tag.isNone then fail "did not find expected node content"
  grow 1
  return .scalar tag "" .plain

def blockItems : Nat → Read (List Node)
  | 0 => fail "document is too deep"
  | steps + 1 => do
    match ← next with
    | .item =>
      skip
      let first ← match ← next with
        | .item | .blockEnd => emptyNode
        | _ => node steps .block
      return first :: (← blockItems steps)
    | .blockEnd =>
      skip
      return []
    | _ => fail "did not find expected '-' indicator"

/-- The items of a sequence that stands at the column of its key. -/
def looseItems : Nat → Read (List Node)
  | 0 => fail "document is too deep"
  | steps + 1 => do
    match ← next with
    | .item =>
      skip
      let first ← match ← next with
        | .item | .key | .value | .blockEnd => emptyNode
        | _ => node steps .block
      return first :: (← looseItems steps)
    | _ => return []

def blockEntries : Nat → Read (List (Node × Node))
  | 0 => fail "document is too deep"
  | steps + 1 => do
    match ← next with
    | .key =>
      skip
      let key ← blockPart steps
      let value ← match ← next with
        | .value =>
          skip
          blockPart steps
        | _ => emptyNode
      return (key, value) :: (← blockEntries steps)
    | .blockEnd =>
      skip
      return []
    | _ => fail "did not find expected key"

def blockPart : Nat → Read Node
  | 0 => fail "document is too deep"
  | steps + 1 => do
    match ← next with
    | .key | .value | .blockEnd => emptyNode
    | _ => node steps .blockValue

def flowItems : Nat → Bool → Read (List Node)
  | 0, _ => fail "document is too deep"
  | steps + 1, first => do
    if (← next) = .flowSequenceEnd then
      skip
      return []
    if !first then
      if (← next) ≠ .comma then fail "did not find expected ',' or ']'"
      skip
    match ← next with
    | .key =>
      skip
      grow 2
      let entry ← pair steps
      return .mapping none [entry] :: (← flowItems steps false)
    | .flowSequenceEnd =>
      skip
      return []
    | _ =>
      let item ← node steps .flow
      return item :: (← flowItems steps false)

def pair : Nat → Read (Node × Node)
  | 0 => fail "document is too deep"
  | steps + 1 => do
    let key ← match ← next with
      | .value | .comma | .flowSequenceEnd =>
        skip
        emptyNode
      | _ => node steps .flow
    match ← next with
    | .value =>
      skip
      match ← next with
      | .comma | .flowSequenceEnd => return (key, ← emptyNode)
      | _ => return (key, ← node steps .flow)
    | _ => return (key, ← emptyNode)

def flowEntries : Nat → Bool → Read (List (Node × Node))
  | 0, _ => fail "document is too deep"
  | steps + 1, first => do
    if (← next) = .flowMappingEnd then
      skip
      return []
    if !first then
      if (← next) ≠ .comma then fail "did not find expected ',' or '\x7d'"
      skip
    match ← next with
    | .key =>
      skip
      let key ← flowPart steps true
      let value ← match ← next with
        | .value =>
          skip
          flowPart steps false
        | _ => emptyNode
      return (key, value) :: (← flowEntries steps false)
    | .flowMappingEnd =>
      skip
      return []
    | _ =>
      let key ← node steps .flow
      return (key, ← emptyNode) :: (← flowEntries steps false)

def flowPart : Nat → Bool → Read Node
  | 0, _ => fail "document is too deep"
  | steps + 1, isKey => do
    match ← next with
    | .comma | .flowMappingEnd => emptyNode
    | .value => if isKey then emptyNode else node steps .flow
    | _ => node steps .flow
end

/-! Documents. -/

def defaultHandles : List (String × List UInt8) :=
  [("!", Tag.textBytes ['!']), ("!!", (Tag.standard "").bytes)]

/-- The directives before a document: at most one version, which has to be 1.1 or 1.2, and tag
handles, each told once. -/
def directives : Nat → Bool → List (String × List UInt8) → Read (List (String × List UInt8))
  | 0, _, handles => return handles
  | steps + 1, versioned, handles => do
    match ← next with
    | .versionDirective major minor =>
      if versioned then fail "found duplicate %YAML directive"
      if major ≠ 1 ∨ (minor ≠ 1 ∧ minor ≠ 2) then fail "found incompatible YAML document"
      skip
      directives steps true handles
    | .tagDirective handle uri =>
      if (handles.lookup handle).isSome then fail "found duplicate %TAG directive"
      skip
      directives steps versioned (handles ++ [(handle, uri)])
    | _ => return handles

def sourceEnd : Nat → Read Unit
  | 0 => return
  | steps + 1 => do
    match ← next with
    | .documentEnd =>
      skip
      sourceEnd steps
    | .sourceEnd => return
    | _ => fail "more than one document"

def document : Read Node := do
  let steps := 4 * ((← get).tokens.length + 1)
  let root ← match ← next with
    | .sourceEnd => emptyNode
    | .versionDirective _ _ | .tagDirective _ _ | .documentStart =>
      let handles ← directives steps false []
      modify fun state => { state with handles := handles ++ defaultHandles }
      if (← next) ≠ .documentStart then fail "did not find expected <document start>"
      skip
      match ← next with
      | .versionDirective _ _ | .tagDirective _ _ | .documentStart | .documentEnd
      | .sourceEnd => emptyNode
      | _ => node steps .block
    | _ => node steps .block
  sourceEnd steps
  return root

end Read

def Document.read (text : String) : Except Malformed Document := do
  let tokens ← tokensOf text
  let (root, state) ← Read.document.run { tokens, handles := Read.defaultHandles }
  return { root, anchored := state.anchored, size := state.size }

end Yaml

end Stackwright
