import Stackwright.Codec.Basic
import Stackwright.Yaml.Node

/-!
Fitting a YAML document to a shape: the JSON value that it stands for where a value of that shape is
wanted. References are followed where something is wanted of them, and only so often.
-/

namespace Stackwright

namespace Yaml

inductive Misfit where
  | wanted (what : String)
  | duplicateField (name : String)
  | notInRange (text : String)
  | tooDeep
  | tooManyReferences
  deriving DecidableEq, Repr

def Misfit.message : Misfit → String
  | .wanted what => "expected " ++ what
  | .duplicateField name => "duplicate field `" ++ name ++ "`"
  | .notInRange text => "number out of range: " ++ text
  | .tooDeep => "recursion limit exceeded"
  | .tooManyReferences => "repetition limit exceeded"

/-- Counts the references that may still be followed. -/
abbrev Fitting (α : Type) := StateT Nat (Except Misfit) α

def maxDepth : Nat := 128

namespace Fitting

def follow (document : Document) : Node → Fitting Node
  | .reference slot => do
    match ← get with
    | 0 => throw .tooManyReferences
    | left + 1 =>
      set left
      match document.target? slot with
      | some node => return node
      | none => throw (.wanted "an anchored node")
  | node => return node

def isEmptyPlain : Node → Bool
  | .scalar _ text style => text = "" && style = .plain
  | _ => false

/-- A scalar that may stand for the value of a standard tag: a plain one, or a literal block that
carries the tag. -/
def admits (standard : String) : Option Tag → ScalarStyle → Bool
  | _, .plain => true
  | tag, .literal => tag = some (.standard standard)
  | _, .other => false

def integerJson (value : Int) : Fitting Json :=
  if bounds : -0x8000000000000000 ≤ value ∧ value < 0x10000000000000000 then
    return .number (.integer value bounds)
  else throw (.notInRange (toString value))

/-- A number that is not finite has no place in JSON, and `instead` is taken for it. -/
def floatJson (instead : Json) (value : Float) : Json :=
  if finite : value.isFinite = true then .number (.float value finite) else instead

def plainJson (instead : Json) (text : String) : Fitting Json :=
  match plainValue text with
  | .null => return .null
  | .boolean value => return .boolean value
  | .integer value => integerJson value
  | .float value => return floatJson instead value
  | .text => return .string text

def noOwnTag (tag : Option Tag) : Fitting Unit :=
  if (tag.bind Tag.ownName?).isSome then throw (.wanted "a value without a tag of its own")
  else return

def scalarJson (instead : Json) (tag : Option Tag) (text : String) (style : ScalarStyle) :
    Fitting Json := do
  noOwnTag tag
  match tag with
  | none => if style = .plain then plainJson instead text else return .string text
  | some tag =>
    if tag = .standard "bool" then
      match readBoolean text with
      | some value => return .boolean value
      | none => throw (.wanted "a boolean")
    else if tag = .standard "int" then
      match readInteger text.toList with
      | some value => integerJson value
      | none => throw (.wanted "an integer")
    else if tag = .standard "float" then
      match readFloat text with
      | some value => return floatJson instead value
      | none => throw (.wanted "a float")
    else if tag = .standard "null" then
      if isNull text then return .null else throw (.wanted "null")
    else if tag.own?.isSome && style = .plain then plainJson instead text
    else return .string text

def isNothing : Node → Fitting Bool
  | .scalar tag text .plain =>
    if tag = some (.standard "null") then
      if isNull text then return true else throw (.wanted "null")
    else if tag.isSome then return false
    else return text = "" || isNull text
  | _ => return false

def isAbsent (isOptional : Bool) (node : Node) : Fitting Bool :=
  if isOptional then isNothing node else return false

def keyText (document : Document) (node : Node) : Fitting String := do
  match ← follow document node with
  | .scalar _ text _ => return text
  | _ => throw (.wanted "a text as key")

def tree (document : Document) : Nat → Node → Fitting Json
  | depth, node => do
    match ← follow document node with
    | .scalar tag text style => scalarJson .null tag text style
    | .sequence tag items =>
      noOwnTag tag
      match depth with
      | 0 => throw .tooDeep
      | depth + 1 => return .array (← items.mapM (tree document depth))
    | .mapping tag entries =>
      noOwnTag tag
      match depth with
      | 0 => throw .tooDeep
      | depth + 1 =>
        let entries ← entries.mapM fun entry => do
          let key ← keyText document entry.1
          return (key, ← tree document depth entry.2)
        return .ofEntries entries
    | .reference _ => throw (.wanted "an anchored node")

/-- Stands for what no form takes: none of them has a place for a boolean. -/
def noForm : Json := .boolean false

def formPart (document : Document) : Nat → Node → Fitting Json
  | depth, node => do
    match ← follow document node with
    | .scalar tag text style => scalarJson noForm tag text style
    | .sequence tag items =>
      noOwnTag tag
      match depth with
      | 0 => throw .tooDeep
      | depth + 1 =>
        discard <| items.mapM (formPart document depth)
        return noForm
    | .mapping tag entries =>
      noOwnTag tag
      match depth with
      | 0 => throw .tooDeep
      | depth + 1 =>
        discard <| entries.mapM fun entry => do
          discard <| formPart document depth entry.1
          formPart document depth entry.2
        return noForm
    | .reference _ => throw (.wanted "an anchored node")

/-- A key of a form. A number with a minus sign names no field. -/
def formKey (document : Document) (depth : Nat) (node : Node) : Fitting Json := do
  let node ← follow document node
  match ← formPart document depth node, node with
  | .number number, .scalar _ text _ =>
    return if text.toList.head? = some '-' then noForm else .number number
  | key, _ => return key

def formField (fields : List String) : Json → Fitting (Option String)
  | .string name => return if fields.contains name then some name else none
  | .number (.integer value _) =>
    if 0 ≤ value then return fields[value.toNat]? else throw (.wanted "a field")
  | _ => throw (.wanted "a field")

def form (document : Document) (fields : List String) (depth : Nat) (node : Node) :
    Fitting Json := do
  match ← follow document node with
  | .scalar tag text style => scalarJson noForm tag text style
  | .sequence tag items =>
    noOwnTag tag
    match depth with
    | 0 => throw .tooDeep
    | depth + 1 => return .array (← items.mapM (formPart document depth))
  | .mapping tag entries =>
    noOwnTag tag
    match depth with
    | 0 => throw .tooDeep
    | depth + 1 =>
      let parts ← entries.mapM fun entry => do
        let key ← formKey document depth entry.1
        return (key, ← formPart document depth entry.2)
      let named ← parts.filterMapM fun part => do
        return (← formField fields part.1).map fun name => (name, part.2)
      let names := named.map Prod.fst
      match names.find? fun name => 1 < names.count name with
      | some name => throw (.duplicateField name)
      | none => return .ofEntries named
  | .reference _ => throw (.wanted "an anchored node")

def choice (node : Node) : Fitting Json := do
  match node with
  | .scalar tag text style =>
    match tag.bind Tag.ownName? with
    | none => return .string text
    | some name =>
      if style = .plain && (text = "" || isNull text) then return .string name
      else throw (.wanted "nothing under a tag")
  | _ => throw (.wanted "a name")

def unsignedJson (text : String) : Fitting Json :=
  match readUnsigned text.toList with
  | some value => integerJson value
  | none => throw (.wanted "a natural number")

def core : Shape → Bool × Shape
  | .optional item => (true, (core item).2)
  | shape => (false, shape)

def recordEntries (document : Document) (fields : List (String × Shape))
    (value : Shape → Node → Fitting Json) :
    List (Node × Node) → List String → Fitting (List (String × Json))
  | [], _ => return []
  | entry :: rest, seen => do
    let name ← keyText document entry.1
    match fields.lookup name with
    | none => recordEntries document fields value rest seen
    | some shape =>
      if seen.contains name then throw (.duplicateField name)
      let json ← value shape entry.2
      return (name, json) :: (← recordEntries document fields value rest (name :: seen))

/-- The value of a shape; `depth` is how many more collections may be entered. -/
def value (document : Document) : Nat → Shape → Node → Fitting Json
  | depth, shape, node => do
    let (isOptional, shape) := core shape
    match shape with
    | .tree => tree document depth node
    | .forms fields =>
      let node ← follow document node
      if ← isAbsent isOptional node then return .null
      form document fields depth node
    | shape => do
      let node ← follow document node
      if ← isAbsent isOptional node then return .null
      match shape, node with
      | .text, .scalar _ text _ => return .string text
      | .boolean, .scalar tag text style =>
        match (if admits "bool" tag style then readBoolean text else none) with
        | some flag => return .boolean flag
        | none => throw (.wanted "a boolean")
      | .natural, .scalar tag text style =>
        if admits "int" tag style then unsignedJson text else throw (.wanted "a natural number")
      | .choice _, node => choice node
      | .list item, .sequence _ items =>
        match depth with
        | 0 => throw .tooDeep
        | depth + 1 => return .array (← items.mapM (value document depth item))
      | .table item, .mapping _ entries =>
        match depth with
        | 0 => throw .tooDeep
        | depth + 1 =>
          let entries ← entries.mapM fun entry => do
            let key ← keyText document entry.1
            return (key, ← value document depth item entry.2)
          return .ofEntries entries
      | .record fields, .mapping _ entries =>
        match depth with
        | 0 => throw .tooDeep
        | depth + 1 =>
          return .ofEntries (← recordEntries document fields (value document depth) entries [])
      | .list _, node =>
        if isEmptyPlain node then return .array [] else throw (.wanted "a sequence")
      | .table _, node | .record _, node =>
        if isEmptyPlain node then return .object [] else throw (.wanted "a mapping")
      | _, _ => throw (.wanted "a scalar")

end Fitting

def Document.fit (document : Document) (shape : Shape) : Except Misfit Json := do
  let (value, _) ← (Fitting.value document maxDepth shape document.root).run (100 * document.size)
  return value

end Yaml

end Stackwright
