import Stackwright.Codec.Basic

/-!
Codecs of records, built field by field. A record is read from an object, or from an array of its
fields in the order in which they are declared.
-/

namespace Stackwright

inductive Place where
  | entry (key : String)
  | position (index : Nat)

/-- Entries come before positions, entries by their keys. -/
def Place.notAfter : Place → Place → Bool
  | .entry a, .entry b => decide (a ≤ b)
  | .entry _, .position _ => true
  | .position _, .entry _ => false
  | .position a, .position b => decide (a ≤ b)

inductive Fault where
  | illTyped (place : Place) (mismatch : Mismatch)
  /-- Nothing stands where the field with this position has to be. -/
  | absent (index : Nat)

def Fault.place : Fault → Place
  | .illTyped place _ => place
  | .absent index => .position index

inductive Source where
  | entries (entries : List (String × Json))
  | items (items : List Json)

/-- Reads both parts. Of two faults the one whose place comes first is reported. -/
def both {α β : Type} (f : Except Fault (α → β)) (x : Except Fault α) : Except Fault β :=
  match f, x with
  | .ok f, .ok x => .ok (f x)
  | .error fault, .ok _ => .error fault
  | .ok _, .error fault => .error fault
  | .error a, .error b => .error (if a.place.notAfter b.place then a else b)

def Codec.readAt {β : Type} (codec : Codec β) (name : String) (index : Nat) (absent : Option β) :
    Source → Except Fault β
  | .entries entries =>
    match findEntry name entries with
    | some value => (codec.read value).mapError (.illTyped (.entry name))
    | none => absent.elim (.error (.absent index)) .ok
  | .items items =>
    match items[index]? with
    | some value => (codec.read value).mapError (.illTyped (.position index))
    | none => absent.elim (.error (.absent index)) .ok

/-- The fields of a record `ρ` declared so far. What is read so far is an `α`: the record itself
once all fields are declared, and before that a function of the fields to come. -/
structure Fields (ρ α : Type) where
  shapes : List (String × Shape)
  read : Source → Except Fault α
  write : ρ → List (String × Json)

namespace Fields

variable {ρ α β : Type}

def start (make : α) : Fields ρ α := ⟨[], fun _ => .ok make, fun _ => []⟩

def add (fields : Fields ρ (β → α)) (name : String) (get : ρ → β) (codec : Codec β)
    (absent : Option β) (skipped : β → Bool) : Fields ρ α where
  shapes := fields.shapes ++ [(name, codec.shape)]
  read source := both (fields.read source) (codec.readAt name fields.shapes.length absent source)
  write record :=
    fields.write record ++ if skipped (get record) then [] else [(name, codec.write (get record))]

def required (fields : Fields ρ (β → α)) (name : String) (get : ρ → β) (codec : Codec β) :
    Fields ρ α :=
  fields.add name get codec none fun _ => false

def defaulted (fields : Fields ρ (β → α)) (name : String) (get : ρ → β) (codec : Codec β)
    (default : β) : Fields ρ α :=
  fields.add name get codec (some default) fun _ => false

def optional (fields : Fields ρ (Option β → α)) (name : String) (get : ρ → Option β)
    (codec : Codec β) : Fields ρ α :=
  fields.add name get codec.optional (some none) Option.isNone

def listed (fields : Fields ρ (List β → α)) (name : String) (get : ρ → List β)
    (codec : Codec β) : Fields ρ α :=
  fields.add name get codec.list (some []) List.isEmpty

def tabled (fields : Fields ρ (Dict β → α)) (name : String) (get : ρ → Dict β)
    (codec : Codec β) : Fields ρ α :=
  fields.add name get codec.table (some .empty) Dict.isEmpty

def expected (fields : Fields ρ α) (name : String) : String :=
  let count := fields.shapes.length
  "struct " ++ name ++ " with " ++ toString count ++ if count = 1 then " element" else " elements"

def readRecord (name : String) (fields : Fields α α) : Json → Except Mismatch α
  | .object entries =>
    match fields.read (.entries entries) with
    | .ok record => .ok record
    | .error (.illTyped _ mismatch) => .error mismatch
    | .error (.absent index) =>
      .error (.missingField ((fields.shapes.map Prod.fst).getD index ""))
  | .array items =>
    match fields.read (.items items) with
    | .ok record =>
      if items.length ≤ fields.shapes.length then .ok record
      else .error (.length items.length "fewer elements in array")
    | .error (.illTyped _ mismatch) => .error mismatch
    | .error (.absent index) => .error (.length index (fields.expected name))
  | found => .error (.kind found ("struct " ++ name))

def codec (fields : Fields α α) (name : String) : Codec α where
  shape := .record fields.shapes
  read := fields.readRecord name
  write record := .ofEntries (fields.write record)

end Fields

end Stackwright
