import Stackwright.Toml.Scalar

/-!
TOML documents: keys, values, and the lines that put values into tables.
-/

namespace Stackwright

namespace Toml

/-- How deep arrays and tables in braces may be nested, and how many parts a key may have. -/
def maxDepth : Nat := 79

def isBareKeyChar (c : Char) : Bool := c.isAlphanum || c == '-' || c == '_'

def readSimpleKey (cs : List Char) : Option (String × List Char) :=
  match cs with
  | [] => none
  | c :: rest =>
    if c = '"' ∨ c = '\'' then lineString c cs.length [] rest
    else
      let name := cs.takeWhile isBareKeyChar
      if name = [] then none else some (String.ofList name, cs.dropWhile isBareKeyChar)

def keyParts : Nat → List String → Reader (List String)
  | 0, _, _ => none
  | steps + 1, parts, cs => do
    let (part, rest) ← readSimpleKey (skipSpaces cs)
    match skipSpaces rest with
    | '.' :: more => keyParts steps (part :: parts) more
    | left => some (part :: parts, left)

def readKey (cs : List Char) : Option ((List String × String) × List Char) := do
  let (parts, left) ← keyParts cs.length [] cs
  if maxDepth < parts.length then none
  match parts with
  | last :: path => return ((path.reverse, last), left)
  | [] => none

def skipComment (cs : List Char) : List Char :=
  match cs with
  | '#' :: rest => rest.dropWhile isShown
  | _ => cs

def skipLines : Nat → List Char → List Char
  | 0, cs => cs
  | steps + 1, cs =>
    let left := skipComment (skipSpaces cs)
    match readNewline left with
    | some rest => skipLines steps rest
    | none => left

mutual
/-- A value; the first argument bounds the number of calls, the second is the depth that is left. -/
def readValue : Nat → Nat → Reader Value
  | 0, _, _ => none
  | steps + 1, depth, cs =>
    match cs with
    | '"' :: _ | '\'' :: _ => (readString cs).map fun (text, left) => (.string text, left)
    | '[' :: rest =>
      match depth with
      | 0 => none
      | depth + 1 => do
        let (items, left) ← readItems steps depth rest
        return (.array items, left)
    | '\x7b' :: rest =>
      match depth with
      | 0 => none
      | depth + 1 => do
        match skipSpaces rest with
        | '\x7d' :: left => return (.table .braces [], left)
        | inner =>
          let (entries, left) ← readPairs steps depth [] inner
          return (.table .braces entries, left)
    | 't' :: 'r' :: 'u' :: 'e' :: left => some (.boolean true, left)
    | 'f' :: 'a' :: 'l' :: 's' :: 'e' :: left => some (.boolean false, left)
    | 'i' :: _ | 'n' :: _ => readFloat cs
    | _ => readNumber cs

def readItems : Nat → Nat → Reader (List Value)
  | 0, _, _ => none
  | steps + 1, depth, cs =>
    match skipLines cs.length cs with
    | ']' :: left => some ([], left)
    | start => do
      let (item, rest) ← readValue steps depth start
      match skipLines rest.length rest with
      | ',' :: more =>
        let (items, left) ← readItems steps depth more
        return (item :: items, left)
      | ']' :: left => return ([item], left)
      | _ => none

def readPairs : Nat → Nat → Entries → Reader Entries
  | 0, _, _, _ => none
  | steps + 1, depth, entries, cs => do
    let ((path, last), rest) ← readKey cs
    let rest ← expect '=' rest
    let (value, rest) ← readValue steps depth (skipSpaces rest)
    let entries ← addDotted last value true path entries
    match skipSpaces rest with
    | ',' :: more => readPairs steps depth entries more
    | '\x7d' :: left => return (entries, left)
    | _ => none
end

def endLine (cs : List Char) : Option (List Char) :=
  match skipComment (skipSpaces cs) with
  | [] => some []
  | left => readNewline left

def readHeader (cs : List Char) : Option (Header × List Char) :=
  match cs with
  | '[' :: '[' :: rest => do
    let ((path, last), left) ← readKey rest
    let left ← expect ']' left
    let left ← expect ']' left
    return (⟨path, last, true⟩, left)
  | '[' :: rest => do
    let ((path, last), left) ← readKey rest
    return (⟨path, last, false⟩, ← expect ']' left)
  | _ => none

structure State where
  header : Option Header := none
  root : Entries := []

def readLine (state : State) (cs : List Char) : Option (State × List Char) :=
  match cs with
  | [] => none
  | '[' :: _ => do
    let (header, left) ← readHeader cs
    let root ← header.enter state.root
    return ({ header := some header, root }, ← endLine left)
  | c :: _ =>
    if c = '#' ∨ c = '\n' ∨ c = '\r' then (endLine cs).map fun left => (state, left)
    else do
      let ((path, last), rest) ← readKey cs
      let rest ← expect '=' rest
      let (value, left) ← readValue (2 * cs.length + 2) maxDepth (skipSpaces rest)
      let root ← addUnder state.header path last value state.root
      return ({ state with root }, ← endLine left)

structure Malformed where
  /-- The line on which it shows, from one. -/
  line : Nat
  deriving DecidableEq, Repr

def readLines (total : Nat) : Nat → State → List Char → Except Malformed Entries
  | 0, state, _ => .ok state.root
  | steps + 1, state, cs =>
    match skipSpaces cs with
    | [] => .ok state.root
    | start =>
      match readLine state start with
      | some (state, left) => readLines total steps state left
      | none => .error ⟨total - start.count '\n'⟩

def readDocument (text : String) : Except Malformed Entries :=
  let cs := match text.toList with
    | '\uFEFF' :: rest => rest
    | all => all
  readLines (cs.count '\n' + 1) (cs.length + 1) {} cs

end Toml

end Stackwright
