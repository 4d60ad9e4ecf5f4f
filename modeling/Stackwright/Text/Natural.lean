/-!
Reading decimal numbers.
-/

namespace Stackwright

def digitValue (c : Char) : Nat := c.toNat - '0'.toNat

def digitsValue (digits : List Char) : Nat :=
  digits.foldl (fun n c => 10 * n + digitValue c) 0

def readDigits (cs : List Char) : Option Nat :=
  if cs ≠ [] ∧ cs.all Char.isDigit then some (digitsValue cs) else none

/-- One or more decimal digits, a plus sign before them or not. -/
def readNatural : List Char → Option Nat
  | '+' :: digits => readDigits digits
  | digits => readDigits digits

def readBelow (limit : Nat) (cs : List Char) : Option Nat :=
  (readNatural cs).filter (· < limit)

end Stackwright
