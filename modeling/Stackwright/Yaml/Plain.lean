import Stackwright.Text.Natural

/-!
Plain scalars of YAML: what a text without quotes stands for.
-/

namespace Stackwright

namespace Yaml

inductive PlainValue where
  | null
  | boolean (value : Bool)
  | integer (value : Int)
  | float (value : Float)
  | text
  deriving DecidableEq

def isNull (text : String) : Bool := ["null", "Null", "NULL", "~"].contains text

def readBoolean (text : String) : Option Bool :=
  if ["true", "True", "TRUE"].contains text then some true
  else if ["false", "False", "FALSE"].contains text then some false
  else none

def baseDigit (c : Char) : Option Nat :=
  if c.isDigit then some (c.toNat - '0'.toNat)
  else if 'a' ≤ c ∧ c ≤ 'f' then some (c.toNat - 'a'.toNat + 10)
  else if 'A' ≤ c ∧ c ≤ 'F' then some (c.toNat - 'A'.toNat + 10)
  else none

def readBase (base : Nat) (cs : List Char) : Option Nat :=
  if cs = [] then none
  else cs.foldlM (fun n c => do
    let digit ← baseDigit c
    if digit < base then some (base * n + digit) else none) 0

/-- Two or more digits of which the first is a zero, after a sign or not: not a number. -/
def isZeroPadded (cs : List Char) : Bool :=
  let digits := match cs with
    | '+' :: rest | '-' :: rest => rest
    | all => all
  match digits with
  | '0' :: second :: rest => (second :: rest).all Char.isDigit
  | _ => false

def readMagnitude (cs : List Char) : Option Nat :=
  let based := match cs with
    | '0' :: 'x' :: digits => readBase 16 digits
    | '0' :: 'o' :: digits => readBase 8 digits
    | '0' :: 'b' :: digits => readBase 2 digits
    | _ => none
  based.orElse fun _ => if isZeroPadded cs then none else readDigits cs

def readUnsigned : List Char → Option Nat
  | '+' :: digits => readMagnitude digits
  | digits => readMagnitude digits

def readInteger (cs : List Char) : Option Int :=
  match cs with
  | '-' :: digits =>
    (readMagnitude digits).bind fun n => if n ≤ Nat.pow 2 127 then some (-(n : Int)) else none
  | _ => (readUnsigned cs).bind fun n => if n < Nat.pow 2 128 then some (n : Int) else none

/-- A decimal with or without a point and an exponent, as its digits and a power of ten. -/
def readDecimal (cs : List Char) : Option (Nat × Int) := do
  let whole := cs.takeWhile Char.isDigit
  let afterWhole := cs.dropWhile Char.isDigit
  let (fraction, afterFraction) := match afterWhole with
    | '.' :: rest => (rest.takeWhile Char.isDigit, rest.dropWhile Char.isDigit)
    | rest => ([], rest)
  if whole ++ fraction = [] then none
  let exponent ← match afterFraction with
    | [] => some 0
    | e :: rest =>
      if e = 'e' ∨ e = 'E' then
        match rest with
        | '-' :: digits => (readDigits digits).map fun n => -(n : Int)
        | '+' :: digits => (readDigits digits).map fun n => (n : Int)
        | digits => (readDigits digits).map fun n => (n : Int)
      else none
  return (digitsValue (whole ++ fraction), exponent - fraction.length)

def nearestFloat (digits : Nat) (exponent : Int) : Option Float :=
  let size := (Nat.toDigits 10 digits).length + exponent
  if digits = 0 ∨ size < -400 then some 0.0
  else if 400 < size then none
  else
    let value := Float.ofScientific digits (decide (exponent < 0)) exponent.natAbs
    if value.isFinite then some value else none

def infinity : Float := 1.0 / 0.0

def readFloat (text : String) : Option Float :=
  let cs := text.toList
  let unsigned := match cs with
    | '+' :: rest => rest
    | all => all
  if [".inf", ".Inf", ".INF"].contains (String.ofList unsigned) then some infinity
  else if ["-.inf", "-.Inf", "-.INF"].contains text then some (-infinity)
  else if [".nan", ".NaN", ".NAN"].contains text then some (0.0 / 0.0)
  else
    match cs with
    | '-' :: digits => (readDecimal digits).bind fun d => (nearestFloat d.1 d.2).map (-·)
    | _ => (readDecimal unsigned).bind fun d => nearestFloat d.1 d.2

def plainValue (text : String) : PlainValue :=
  let cs := text.toList
  if text = "" ∨ isNull text then .null
  else
    match readBoolean text with
    | some value => .boolean value
    | none =>
      match readInteger cs with
      | some value => .integer value
      | none =>
        match (if isZeroPadded cs then none else readFloat text) with
        | some value => .float value
        | none => .text

end Yaml

end Stackwright
