import Stackwright.Codec.Mismatch

/-!
Codecs: how a type is read from JSON and written to it, with a description of what it takes, from
which a markup document can be turned into JSON of the right kinds.
-/

namespace Stackwright

/-- What a reader takes, as far as it decides how plain markup scalars are understood: `5` is a
text where a text is wanted and a number where a number is. -/
inductive Shape where
  | text
  | boolean
  | natural
  | optional (item : Shape)
  | list (item : Shape)
  | table (item : Shape)
  | record (fields : List (String × Shape))
  | choice (names : List String)
  | tree
  /-- One of several forms, one of them a record with these fields. Scalars are understood before
  a form is chosen. -/
  | forms (fields : List String)

structure Codec (α : Type) where
  shape : Shape
  read : Json → Except Mismatch α
  write : α → Json

namespace Codec

variable {α : Type}

def text : Codec String where
  shape := .text
  read
    | .string value => .ok value
    | found => .error (.kind found "a string")
  write := .string

def boolean : Codec Bool where
  shape := .boolean
  read
    | .boolean value => .ok value
    | found => .error (.kind found "a boolean")
  write := .boolean

def readNatural (bits : Nat) (name : String) : Json → Except Mismatch Nat
  | .number (.integer value bounds) =>
    if 0 ≤ value ∧ value < Nat.pow 2 bits then .ok value.toNat
    else .error (.range (.number (.integer value bounds)) name)
  | found => .error (.kind found name)

def word16 : Codec UInt16 where
  shape := .natural
  read value := (readNatural 16 "u16" value).map UInt16.ofNat
  write n := .natural n.toUInt64

def word32 : Codec UInt32 where
  shape := .natural
  read value := (readNatural 32 "u32" value).map UInt32.ofNat
  write n := .natural n.toUInt64

def word64 : Codec UInt64 where
  shape := .natural
  read value := (readNatural 64 "u64" value).map UInt64.ofNat
  write n := .natural n

def optional (item : Codec α) : Codec (Option α) where
  shape := .optional item.shape
  read
    | .null => .ok none
    | value => (item.read value).map some
  write
    | none => .null
    | some value => item.write value

def list (item : Codec α) : Codec (List α) where
  shape := .list item.shape
  read
    | .array items => items.mapM item.read
    | found => .error (.kind found "a sequence")
  write items := .array (items.map item.write)

def readEntries (read : Json → Except Mismatch α) :
    List (String × Json) → Except Mismatch (List (String × α))
  | [] => .ok []
  | entry :: rest => do
    let value ← read entry.2
    let others ← readEntries read rest
    return (entry.1, value) :: others

def table (item : Codec α) : Codec (Dict α) where
  shape := .table item.shape
  read
    | .object entries => (readEntries item.read entries).map Dict.ofList
    | found => .error (.kind found "a map")
  write entries := .ofDict (entries.map item.write)

/-- One of two named values. A name may also be given as the one key of an object, over null. -/
def choice (first second : String) (value : Bool → α) (isSecond : α → Bool) : Codec α where
  shape := .choice [first, second]
  read
    | .string name => named name
    | .object [(name, content)] => do
      let chosen ← named name
      match content with
      | .null => .ok chosen
      | found => .error (.kind found "unit")
    | .object entries => .error (.range (.object entries) "map with a single key")
    | found => .error (.kind found "string or map")
  write chosen := .string (if isSecond chosen then second else first)
where
  named (name : String) : Except Mismatch α :=
    if name = first then .ok (value false)
    else if name = second then .ok (value true)
    else .error (.unknownVariant name first second)

def readForms (type : String) (forms : List (Json → Except Mismatch α)) (value : Json) :
    Except Mismatch α :=
  match forms.findSome? fun read => (read value).toOption with
  | some found => .ok found
  | none => .error (.noForm type)

end Codec

end Stackwright
