/-!
Tables of TOML, and which of them a document may still extend.
-/

namespace Stackwright

namespace Toml

inductive Origin where
  | header
  /-- By the header of a table inside of it. -/
  | implied
  | dotted
  /-- Written in braces; nothing is added to it later. -/
  | braces
  deriving DecidableEq, Repr

inductive Value where
  | string (text : String)
  | integer (value : Int)
  | float
  | boolean (value : Bool)
  | moment (text : String)
  | array (items : List Value)
  | table (origin : Origin) (entries : List (String × Value))
  /-- Tables with one header, the last of them first. -/
  | tables (items : List (List (String × Value)))

instance : Inhabited Value := ⟨.float⟩

abbrev Entries := List (String × Value)

def replace (key : String) (value : Value) (entries : Entries) : Entries :=
  (key, value) :: entries.filter fun entry => entry.1 ≠ key

/-- Adds a value under a key with dots. The tables on the way may have been made by such keys or by
inner headers, but the one that gets the value only by such keys. -/
def addDotted (last : String) (value : Value) : Bool → List String → Entries → Option Entries
  | extendable, [], entries =>
    if extendable && (entries.lookup last).isNone then some ((last, value) :: entries) else none
  | _, key :: path, entries =>
    match entries.lookup key with
    | none => do
      let inner ← addDotted last value true path []
      return replace key (.table .dotted inner) entries
    | some (.table .dotted inner) => do
      let inner ← addDotted last value true path inner
      return replace key (.table .dotted inner) entries
    | some (.table .implied inner) => do
      let inner ← addDotted last value false path inner
      return replace key (.table .implied inner) entries
    | some (.tables (inner :: others)) => do
      let inner ← addDotted last value false path inner
      return replace key (.tables (inner :: others)) entries
    | some _ => none

/-- Changes the table at the end of a header's path; tables that are missing on the way are
implied. -/
def atPath (change : Entries → Option Entries) : List String → Entries → Option Entries
  | [], entries => change entries
  | key :: path, entries =>
    match entries.lookup key with
    | none => do
      let inner ← atPath change path []
      return replace key (.table .implied inner) entries
    | some (.table .braces _) => none
    | some (.table origin inner) => do
      let inner ← atPath change path inner
      return replace key (.table origin inner) entries
    | some (.tables (inner :: others)) => do
      let inner ← atPath change path inner
      return replace key (.tables (inner :: others)) entries
    | some _ => none

def openTable (key : String) (entries : Entries) : Option Entries :=
  match entries.lookup key with
  | none => some (replace key (.table .header []) entries)
  | some (.table .implied inner) => some (replace key (.table .header inner) entries)
  | some _ => none

def openTables (key : String) (entries : Entries) : Option Entries :=
  match entries.lookup key with
  | none => some (replace key (.tables [[]]) entries)
  | some (.tables items) => some (replace key (.tables ([] :: items)) entries)
  | some _ => none

structure Header where
  path : List String
  last : String
  several : Bool

def Header.enter (header : Header) (root : Entries) : Option Entries :=
  atPath (if header.several then openTables header.last else openTable header.last)
    header.path root

def addUnder (header : Option Header) (path : List String) (last : String) (value : Value)
    (root : Entries) : Option Entries :=
  match header with
  | none => addDotted last value true path root
  | some header =>
    let here (entries : Entries) : Option Entries :=
      match entries.lookup header.last with
      | some (.table origin inner) => do
        let inner ← addDotted last value true path inner
        return replace header.last (.table origin inner) entries
      | some (.tables (inner :: others)) => do
        let inner ← addDotted last value true path inner
        return replace header.last (.tables (inner :: others)) entries
      | _ => none
    atPath here header.path root

end Toml

end Stackwright
