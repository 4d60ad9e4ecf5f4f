import Stackwright.Codec.Basic

/-!
Override trees. A fragment laid over a tree replaces scalars and sequences, is merged into maps key
by key, and leaves alone what it holds null for or does not mention.
-/

namespace Stackwright

inductive Scalar where
  | boolean (value : Bool)
  | integer (value : Int64)
  | unsigned (value : UInt64)
  | float (value : Float) (finite : value.isFinite = true)
  | string (value : String)

inductive Tree where
  | null
  | scalar (value : Scalar)
  | sequence (items : List Tree)
  | map (entries : List (String × Tree))

instance : Inhabited Tree := ⟨.null⟩

inductive TreeKind where
  | null
  | scalar
  | sequence
  | map
  deriving DecidableEq, Repr

def TreeKind.name : TreeKind → String
  | .null => "null"
  | .scalar => "scalar"
  | .sequence => "sequence"
  | .map => "map"

def Tree.kind : Tree → TreeKind
  | .null => .null
  | .scalar _ => .scalar
  | .sequence _ => .sequence
  | .map _ => .map

def Number.toScalar : Number → Scalar
  | .integer value _ =>
    if value < 0x8000000000000000 then .integer (Int64.ofInt value)
    else .unsigned (UInt64.ofNat value.toNat)
  | .float value finite => .float value finite

def Scalar.toJson : Scalar → Json
  | .boolean value => .boolean value
  | .integer value =>
    .number (.integer value.toInt (by have := value.le_toInt; have := value.toInt_lt; omega))
  | .unsigned value => .number (.ofUInt64 value)
  | .float value finite => .number (.float value finite)
  | .string value => .string value

mutual
def Tree.ofJson : Json → Tree
  | .null => .null
  | .boolean value => .scalar (.boolean value)
  | .number value => .scalar value.toScalar
  | .string value => .scalar (.string value)
  | .array items => .sequence (ofItems items)
  | .object entries => .map (ofEntries entries)

def ofItems : List Json → List Tree
  | [] => []
  | item :: rest => Tree.ofJson item :: ofItems rest

def ofEntries : List (String × Json) → List (String × Tree)
  | [] => []
  | entry :: rest => (entry.1, Tree.ofJson entry.2) :: ofEntries rest
end

mutual
def Tree.toJson : Tree → Json
  | .null => .null
  | .scalar value => value.toJson
  | .sequence items => .array (itemsToJson items)
  | .map entries => .object (entriesToJson entries)

def itemsToJson : List Tree → List Json
  | [] => []
  | item :: rest => item.toJson :: itemsToJson rest

def entriesToJson : List (String × Tree) → List (String × Json)
  | [] => []
  | entry :: rest => (entry.1, entry.2.toJson) :: entriesToJson rest
end

structure Clash where
  path : String
  base : TreeKind
  fragment : TreeKind
  deriving DecidableEq, Repr

def Clash.shownPath (clash : Clash) : String := if clash.path = "" then "<root>" else clash.path

def Clash.reason (clash : Clash) : String :=
  "cannot override a " ++ clash.base.name ++ " with a " ++ clash.fragment.name

def childPath (path key : String) : String := if path = "" then key else path ++ "." ++ key

mutual
/-- Lays a fragment over a base; `path` is where the two stand. -/
def Tree.merge (path : String) (base : Tree) : Tree → Except Clash Tree
  | .null => .ok base
  | .scalar value =>
    match base with
    | .null | .scalar _ => .ok (.scalar value)
    | other => .error ⟨path, other.kind, .scalar⟩
  | .sequence items =>
    match base with
    | .null | .sequence _ => .ok (.sequence items)
    | other => .error ⟨path, other.kind, .sequence⟩
  | .map fragment =>
    match base with
    | .null => .ok (.map fragment)
    | .map entries => (mergeEntries path entries fragment).map .map
    | other => .error ⟨path, other.kind, .map⟩

def mergeEntries (path : String) (base : List (String × Tree)) :
    List (String × Tree) → Except Clash (List (String × Tree))
  | [] => .ok base
  | entry :: rest => do
    let merged ← match findEntry entry.1 base with
      | some existing => Tree.merge (childPath path entry.1) existing entry.2
      | none => .ok entry.2
    mergeEntries path (putEntry entry.1 merged base) rest
end

def Tree.codec : Codec Tree where
  shape := .tree
  read value := .ok (.ofJson value)
  write := Tree.toJson

end Stackwright
