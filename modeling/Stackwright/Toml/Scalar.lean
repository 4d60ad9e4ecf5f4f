import Stackwright.Toml.Table
import Stackwright.Text.Natural

/-!
Scalars of TOML. Each reader gives what it read and what is left of the text, or nothing where the
text is not of its kind.
-/

namespace Stackwright

namespace Toml

abbrev Reader (α : Type) := List Char → Option (α × List Char)

def isSpace (c : Char) : Bool := c == ' ' || c == '\t'

def skipSpaces (cs : List Char) : List Char := cs.dropWhile isSpace

def isShown (c : Char) : Bool := c == '\t' || (0x20 ≤ c.toNat && c.toNat != 0x7F)

def readNewline : List Char → Option (List Char)
  | '\n' :: rest => some rest
  | '\r' :: '\n' :: rest => some rest
  | _ => none

/-! Strings. -/

def hexValue (c : Char) : Option Nat :=
  if c.isDigit then some (c.toNat - '0'.toNat)
  else if 'a' ≤ c ∧ c ≤ 'f' then some (c.toNat - 'a'.toNat + 10)
  else if 'A' ≤ c ∧ c ≤ 'F' then some (c.toNat - 'A'.toNat + 10)
  else none

def readCode (count : Nat) (cs : List Char) : Option (Char × List Char) := do
  let digits := cs.take count
  if digits.length ≠ count then none
  let code ← digits.foldlM (fun n c => (hexValue c).map fun d => 16 * n + d) 0
  if code.isValidChar then some (Char.ofNat code, cs.drop count) else none

def readEscape : Reader Char
  | 'b' :: rest => some ('\x08', rest)
  | 't' :: rest => some ('\t', rest)
  | 'n' :: rest => some ('\n', rest)
  | 'f' :: rest => some ('\x0c', rest)
  | 'r' :: rest => some ('\r', rest)
  | '"' :: rest => some ('"', rest)
  | '\\' :: rest => some ('\\', rest)
  | 'u' :: rest => readCode 4 rest
  | 'U' :: rest => readCode 8 rest
  | _ => none

def lineString (quote : Char) : Nat → List Char → Reader String
  | 0, _, _ => none
  | steps + 1, text, cs =>
    match cs with
    | [] => none
    | c :: rest =>
      if c = quote then some (String.ofList text.reverse, rest)
      else if c = '\\' ∧ quote = '"' then do
        let (escaped, left) ← readEscape rest
        lineString quote steps (escaped :: text) left
      else if isShown c then lineString quote steps (c :: text) rest
      else none

/-- A backslash at the end of a line hides the break and all blanks after it. -/
def skipHidden : List Char → List Char
  | '\r' :: '\n' :: rest => skipHidden rest
  | c :: rest => if c = '\n' ∨ isSpace c then skipHidden rest else c :: rest
  | [] => []

/-- What follows the three opening quotes of a string of several lines. Up to two quotes may stand
before the three that close it. -/
def blockString (quote : Char) : Nat → List Char → Reader String
  | 0, _, _ => none
  | steps + 1, text, cs =>
    let quotes := (cs.takeWhile (· == quote)).length
    if 3 ≤ quotes then
      if quotes ≤ 5 then
        some (String.ofList (text.reverse ++ List.replicate (quotes - 3) quote), cs.drop quotes)
      else none
    else
      match cs with
      | [] => none
      | c :: rest =>
        if c = '\\' ∧ quote = '"' then
          if (readNewline (skipSpaces rest)).isSome then
            blockString quote steps text (skipHidden rest)
          else do
            let (escaped, left) ← readEscape rest
            blockString quote steps (escaped :: text) left
        else
          match readNewline cs with
          | some left => blockString quote steps ('\n' :: text) left
          | none => if isShown c then blockString quote steps (c :: text) rest else none

/-- A string in one or three quotes; a line break right after three is no part of it. -/
def readString (cs : List Char) : Option (String × List Char) :=
  match cs with
  | a :: b :: c :: rest =>
    if (a = '"' ∨ a = '\'') ∧ a = b ∧ b = c then
      blockString a cs.length [] ((readNewline rest).getD rest)
    else if a = '"' ∨ a = '\'' then lineString a cs.length [] (b :: c :: rest)
    else none
  | a :: rest => if a = '"' ∨ a = '\'' then lineString a cs.length [] rest else none
  | [] => none

/-! Numbers. -/

/-- Digits with single underscores between them; `digits` are those read so far. -/
def groupedDigits (isDigit : Char → Bool) (digits : List Char) : List Char → List Char × List Char
  | '_' :: c :: rest =>
    if digits ≠ [] ∧ isDigit c then groupedDigits isDigit (digits ++ [c]) rest
    else (digits, '_' :: c :: rest)
  | c :: rest =>
    if isDigit c then groupedDigits isDigit (digits ++ [c]) rest else (digits, c :: rest)
  | [] => (digits, [])

def readGrouped (isDigit : Char → Bool) (cs : List Char) : Option (List Char × List Char) :=
  match groupedDigits isDigit [] cs with
  | ([], _) => none
  | found => some found

def readSign : List Char → Bool × List Char
  | '-' :: rest => (true, rest)
  | '+' :: rest => (false, rest)
  | cs => (false, cs)

def readWhole (cs : List Char) : Option (List Char × List Char) :=
  match cs with
  | '0' :: rest => some (['0'], rest)
  | _ => readGrouped Char.isDigit cs

def fitsWord (value : Int) : Bool := -0x8000000000000000 ≤ value && value < 0x8000000000000000

def readBased (base : Nat) (cs : List Char) : Option (Value × List Char) := do
  let (digits, left) ← readGrouped (fun c => (hexValue c).any (· < base)) cs
  let value : Int := digits.foldl (fun n c => base * n + (hexValue c).getD 0) 0
  if fitsWord value then some (.integer value, left) else none

def readInteger (cs : List Char) : Option (Value × List Char) :=
  match cs with
  | '0' :: 'x' :: digits => readBased 16 digits
  | '0' :: 'o' :: digits => readBased 8 digits
  | '0' :: 'b' :: digits => readBased 2 digits
  | _ => do
    let (negative, rest) := readSign cs
    let (digits, left) ← readWhole rest
    let magnitude : Int := digitsValue digits
    let value := if negative then -magnitude else magnitude
    if fitsWord value then some (.integer value, left) else none

def readExponent (cs : List Char) : Option (Int × List Char) :=
  match cs with
  | e :: rest =>
    if e = 'e' ∨ e = 'E' then do
      let (negative, rest) := readSign rest
      let (digits, left) ← readGrouped Char.isDigit rest
      let size : Int := digitsValue digits
      return (if negative then -size else size, left)
    else none
  | [] => none

def readDecimal (cs : List Char) : Option ((Nat × Int) × List Char) := do
  let (whole, rest) ← readWhole cs
  match rest with
  | '.' :: more =>
    let (fraction, left) ← readGrouped Char.isDigit more
    let digits := digitsValue (whole ++ fraction)
    match readExponent left with
    | some (exponent, left) => return ((digits, exponent - fraction.length), left)
    | none => return ((digits, -(fraction.length : Int)), left)
  | _ =>
    let (exponent, left) ← readExponent rest
    return ((digitsValue whole, exponent), left)

def overflows (digits : Nat) (exponent : Int) : Bool :=
  let size := (Nat.toDigits 10 digits).length + exponent
  if digits = 0 ∨ size < 0 then false
  else 400 < size || !(Float.ofScientific digits (decide (exponent < 0)) exponent.natAbs).isFinite

def readFloat (cs : List Char) : Option (Value × List Char) :=
  let (negative, rest) := readSign cs
  match rest with
  | 'i' :: 'n' :: 'f' :: left => some (.float, left)
  | 'n' :: 'a' :: 'n' :: left => some (.float, left)
  | _ => do
    let ((digits, exponent), left) ← readDecimal rest
    if !negative && overflows digits exponent then none else some (.float, left)

/-! Dates and times. -/

def readPart (count least greatest : Nat) (cs : List Char) : Option (Nat × List Char) := do
  let digits := cs.take count
  if digits.length ≠ count ∨ !digits.all Char.isDigit then none
  let value := digitsValue digits
  if least ≤ value ∧ value ≤ greatest then some (value, cs.drop count) else none

def expect (mark : Char) : List Char → Option (List Char)
  | c :: rest => if c = mark then some rest else none
  | [] => none

def padded (width n : Nat) : List Char :=
  let digits := Nat.toDigits 10 n
  List.replicate (width - digits.length) '0' ++ digits

def daysIn (year month : Nat) : Nat :=
  let isLeap := year % 4 = 0 ∧ (year % 100 ≠ 0 ∨ year % 400 = 0)
  if month = 2 then if isLeap then 29 else 28
  else if [4, 6, 9, 11].contains month then 30
  else 31

def readDate (cs : List Char) : Option (List Char × List Char) := do
  let (year, rest) ← readPart 4 0 9999 cs
  let (month, rest) ← readPart 2 1 12 (← expect '-' rest)
  let (day, rest) ← readPart 2 1 (daysIn year month) (← expect '-' rest)
  return (padded 4 year ++ ['-'] ++ padded 2 month ++ ['-'] ++ padded 2 day, rest)

/-- A fraction of a second, of which nine digits count. -/
def readFraction (cs : List Char) : List Char × List Char :=
  match cs with
  | '.' :: rest =>
    let digits := rest.takeWhile Char.isDigit
    if digits = [] then ([], cs)
    else
      let counted := ((digits.take 9).reverse.dropWhile (· == '0')).reverse
      (if counted = [] then [] else '.' :: counted, rest.dropWhile Char.isDigit)
  | _ => ([], cs)

def readTime (cs : List Char) : Option (List Char × List Char) := do
  let (hour, rest) ← readPart 2 0 23 cs
  let (minute, rest) ← readPart 2 0 59 (← expect ':' rest)
  let (second, rest) ← readPart 2 0 60 (← expect ':' rest)
  let (fraction, rest) := readFraction rest
  return (padded 2 hour ++ [':'] ++ padded 2 minute ++ [':'] ++ padded 2 second ++ fraction, rest)

def readOffset (cs : List Char) : Option (List Char × List Char) :=
  match cs with
  | c :: rest =>
    if c = 'Z' ∨ c = 'z' then some (['Z'], rest)
    else if c = '+' ∨ c = '-' then do
      let (hour, rest) ← readPart 2 0 23 rest
      let (minute, rest) ← readPart 2 0 59 (← expect ':' rest)
      let sign := if c = '-' ∧ 0 < hour + minute then '-' else '+'
      return (sign :: padded 2 hour ++ [':'] ++ padded 2 minute, rest)
    else none
  | [] => none

def readMoment (cs : List Char) : Option (Value × List Char) :=
  match readDate cs with
  | none => (readTime cs).map fun (time, rest) => (.moment (String.ofList time), rest)
  | some (date, rest) =>
    let alone := (Value.moment (String.ofList date), rest)
    match rest with
    | c :: more =>
      if c = 'T' ∨ c = 't' ∨ c = ' ' then
        match readTime more with
        | none => some alone
        | some (time, left) =>
          let (offset, left) := (readOffset left).getD ([], left)
          some (.moment (String.ofList (date ++ ['T'] ++ time ++ offset)), left)
      else some alone
    | [] => some alone

def readNumber (cs : List Char) : Option (Value × List Char) :=
  (readMoment cs).orElse fun _ => (readFloat cs).orElse fun _ => readInteger cs

end Toml

end Stackwright
