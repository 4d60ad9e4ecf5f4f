import Stackwright.Dict
import Stackwright.Decimal

/-!
JSON values and their texts. An integer stays an integer and a floating-point number stays one:
`1` and `1.0` are different values.
-/

namespace Stackwright

inductive Number where
  | integer (value : Int) (bounds : -0x8000000000000000 ≤ value ∧ value < 0x10000000000000000)
  | float (value : Float) (finite : value.isFinite = true)
  deriving DecidableEq

inductive Json where
  | null
  | boolean (value : Bool)
  | number (value : Number)
  | string (value : String)
  | array (items : List Json)
  | object (entries : List (String × Json))

instance : Inhabited Json := ⟨.null⟩

def Number.ofUInt64 (n : UInt64) : Number :=
  .integer n.toNat (by have := n.toNat_lt; omega)

namespace Json

def natural (n : UInt64) : Json := .number (.ofUInt64 n)

def ofEntries (entries : List (String × Json)) : Json := .object (sortEntries entries)

def ofDict (entries : Dict Json) : Json := .object entries.entries

def get? (value : Json) (key : String) : Option Json :=
  match value with
  | .object entries => findEntry key entries
  | _ => none

/-- The digits of a floating-point number in JSON: `1e+16`, `1.5e-7`, `0.00001`. -/
def floatLayout : DecimalLayout := ⟨-5, 16, true⟩

def numberText : Number → String
  | .integer value _ => toString value
  | .float value _ => floatLayout.writeFloat value

def escapedChar (c : Char) : List Char :=
  if c = '"' then ['\\', '"']
  else if c = '\\' then ['\\', '\\']
  else if c = '\n' then ['\\', 'n']
  else if c = '\r' then ['\\', 'r']
  else if c = '\t' then ['\\', 't']
  else if c = '\x08' then ['\\', 'b']
  else if c = '\x0c' then ['\\', 'f']
  else if c.toNat < 16 then ['\\', 'u', '0', '0', '0'] ++ Nat.toDigits 16 c.toNat
  else if c.toNat < 32 then ['\\', 'u', '0', '0'] ++ Nat.toDigits 16 c.toNat
  else [c]

def stringText (text : String) : String :=
  String.ofList (['"'] ++ text.toList.flatMap escapedChar ++ ['"'])

def lineBreak (depth : Nat) : String := "\n" ++ String.ofList (List.replicate (2 * depth) ' ')

mutual
def text (depth : Nat) : Json → String
  | .null => "null"
  | .boolean true => "true"
  | .boolean false => "false"
  | .number value => numberText value
  | .string value => stringText value
  | .array [] => "[]"
  | .array (item :: rest) =>
    "[" ++ lineBreak (depth + 1) ++ item.text (depth + 1) ++ itemsText (depth + 1) rest
      ++ lineBreak depth ++ "]"
  | .object [] => "\x7b\x7d"
  | .object (entry :: rest) =>
    "\x7b" ++ lineBreak (depth + 1) ++ stringText entry.1 ++ ": " ++ entry.2.text (depth + 1)
      ++ entriesText (depth + 1) rest ++ lineBreak depth ++ "\x7d"

def itemsText (depth : Nat) : List Json → String
  | [] => ""
  | item :: rest => "," ++ lineBreak depth ++ item.text depth ++ itemsText depth rest

def entriesText (depth : Nat) : List (String × Json) → String
  | [] => ""
  | entry :: rest =>
    "," ++ lineBreak depth ++ stringText entry.1 ++ ": " ++ entry.2.text depth
      ++ entriesText depth rest
end

def pretty (value : Json) : String := value.text 0

end Json

end Stackwright
