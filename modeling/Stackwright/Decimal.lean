/-!
Decimal texts of floating-point numbers: the fewest digits that read back as the same number, found
with exact arithmetic on natural numbers, and the two layouts in which they are written.
-/

namespace Stackwright

structure Binary where
  significand : Nat
  exponent : Int
  deriving DecidableEq, Repr

structure Decimal where
  digits : Nat
  exponent : Int
  deriving DecidableEq, Repr

def Binary.ofBits (bits : UInt64) : Binary :=
  let fraction : Nat := bits.toNat % Nat.pow 2 52
  let field : Nat := bits.toNat / Nat.pow 2 52 % Nat.pow 2 11
  if field = 0 then ⟨fraction, -1074⟩ else ⟨Nat.pow 2 52 + fraction, (field : Int) - 1075⟩

/-- `digits * 10 ^ exponent` against `quarters * 2 ^ (power - 2)`. -/
def compareQuarters (decimal : Decimal) (quarters : Nat) (power : Int) : Ordering :=
  compare
    (decimal.digits * Nat.pow 10 decimal.exponent.toNat * Nat.pow 2 (2 - power).toNat)
    (quarters * Nat.pow 2 (power - 2).toNat * Nat.pow 10 (-decimal.exponent).toNat)

/-- The decimal lies among the reals that are nearer to the number than to its neighbours. The
neighbour below a power of two is half as far away; a point half way belongs to the even
significand. -/
def Decimal.readsBack (decimal : Decimal) (number : Binary) : Bool :=
  let below := if number.significand = Nat.pow 2 52 ∧ -1074 < number.exponent then 1 else 2
  let low := compareQuarters decimal (4 * number.significand - below) number.exponent
  let high := compareQuarters decimal (4 * number.significand + 2) number.exponent
  let even := number.significand % 2 == 0
  (low == .gt || (low == .eq && even)) && (high == .lt || (high == .eq && even))

def Binary.quotient (number : Binary) (unit : Int) : Nat × Nat :=
  (number.significand * Nat.pow 2 number.exponent.toNat * Nat.pow 10 (-unit).toNat,
    Nat.pow 2 (-number.exponent).toNat * Nat.pow 10 unit.toNat)

def Binary.magnitude (number : Binary) : Int :=
  let (above, below) := number.quotient 0
  if below ≤ above then (Nat.toDigits 10 (above / below)).length
  else 1 - (Nat.toDigits 10 ((below + above - 1) / above - 1)).length

def Binary.onGrid? (number : Binary) (unit : Int) : Option Decimal :=
  let (above, below) := number.quotient unit
  let low : Decimal := ⟨above / below, unit⟩
  let high : Decimal := ⟨above / below + 1, unit⟩
  let rest := above % below
  let lowNearer := 2 * rest < below ∨ (2 * rest = below ∧ low.digits % 2 = 0)
  match low.readsBack number, high.readsBack number with
  | true, true => some (if lowNearer then low else high)
  | true, false => some low
  | false, true => some high
  | false, false => none

def Decimal.withoutZeros (decimal : Decimal) : Decimal :=
  let zeros := ((Nat.toDigits 10 decimal.digits).reverse.takeWhile (· == '0')).length
  ⟨decimal.digits / Nat.pow 10 zeros, decimal.exponent + zeros⟩

/-- The fewest digits that read back; seventeen always do. -/
def Binary.shortest (number : Binary) : Decimal :=
  let grids := (List.range 17).map fun k => number.magnitude - (k + 1 : Nat)
  (grids.findSome? number.onGrid?).getD ⟨0, 0⟩ |>.withoutZeros

/-- How a decimal is written: without an exponent while the point stands after `leastPoint` and not
after `greatestPoint` digits, and whether an exponent above zero has a plus sign. -/
structure DecimalLayout where
  leastPoint : Int
  greatestPoint : Int
  plusSign : Bool

def DecimalLayout.write (layout : DecimalLayout) (decimal : Decimal) : String :=
  let digits := Nat.toDigits 10 decimal.digits
  let point := digits.length + decimal.exponent
  let written :=
    if layout.leastPoint < point ∧ point ≤ layout.greatestPoint then
      if 0 ≤ decimal.exponent then
        digits ++ List.replicate decimal.exponent.toNat '0' ++ ['.', '0']
      else if 0 < point then
        digits.take point.toNat ++ ['.'] ++ digits.drop point.toNat
      else
        ['0', '.'] ++ List.replicate (-point).toNat '0' ++ digits
    else
      let mantissa := match digits with
        | first :: second :: rest => first :: '.' :: second :: rest
        | few => few
      let sign := if point - 1 < 0 then ['-'] else if layout.plusSign then ['+'] else []
      mantissa ++ ['e'] ++ sign ++ Nat.toDigits 10 (point - 1).natAbs
  String.ofList written

def DecimalLayout.writeFloat (layout : DecimalLayout) (x : Float) : String :=
  let number := Binary.ofBits x.toBits
  let sign := if x.toBits.toNat < Nat.pow 2 63 then "" else "-"
  if number.significand = 0 then sign ++ "0.0" else sign ++ layout.write number.shortest

end Stackwright
