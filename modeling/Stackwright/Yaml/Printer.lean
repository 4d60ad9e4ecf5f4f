import Stackwright.Json
import Stackwright.Yaml.Character
import Stackwright.Yaml.Plain

/-!
Values written as block YAML. A text is written plain where it reads back as that text, and else in
the simplest quotes that can hold it; a text of several lines is written as a literal block.
-/

namespace Stackwright

namespace Yaml

inductive Style where
  | plain
  | single
  | double
  | literal
  deriving DecidableEq, Repr

def adjacent (first second : Char → Bool) : List Char → Bool
  | a :: b :: rest => (first a && second b) || adjacent first second (b :: rest)
  | _ => false

def hasMark (cs : List Char) : Bool :=
  let blank (c : Char) : Bool := isSpace c || isBreak c
  let first := match cs with
    | [] => false
    | c :: rest =>
      "#,[]\x7b\x7d&*!|>'\"%@`".toList.contains c || (['-', '?'].contains c && isSpaceOrEnd rest)
  first || ['-', '-', '-'].isPrefixOf cs || ['.', '.', '.'].isPrefixOf cs
    || adjacent (· == ':') blank cs || cs.getLast? == some ':' || adjacent blank (· == '#') cs

def isMultiline (cs : List Char) : Bool := cs.any isBreak

def spaceBeforeBreak (cs : List Char) : Bool := adjacent (· == ' ') isBreak cs

def needsEscapes (cs : List Char) : Bool := !cs.all isPrintable

def allowsPlain (cs : List Char) : Bool :=
  !(cs.head? == some ' ' || cs.getLast? == some ' ' || isMultiline cs || needsEscapes cs
    || hasMark cs)

def allowsSingle (cs : List Char) : Bool :=
  !(adjacent isBreak (· == ' ') cs || spaceBeforeBreak cs || needsEscapes cs)

def allowsLiteral (cs : List Char) : Bool :=
  !(cs.getLast? == some ' ' || spaceBeforeBreak cs || needsEscapes cs)

def isAmbiguous (text : String) : Bool :=
  plainValue text ≠ .text || isZeroPadded text.toList

def chooseStyle (asKey : Bool) (text : String) : Style :=
  let cs := text.toList
  if cs.contains '\n' then if asKey || !allowsLiteral cs then .double else .literal
  else if asKey && isMultiline cs then .double
  else if !isAmbiguous text && allowsPlain cs then .plain
  else if allowsSingle cs then .single
  else .double

def blanks (count : Nat) : String := String.ofList (List.replicate count ' ')

def upperHex (width n : Nat) : List Char :=
  let digits := (Nat.toDigits 16 n).map Char.toUpper
  List.replicate (width - digits.length) '0' ++ digits

def doubleChar (c : Char) : List Char :=
  let n := c.toNat
  if c = '"' || c = '\\' then ['\\', c]
  else if isPrintable c && !isBreak c then [c]
  else
    match n with
    | 0x00 => ['\\', '0']
    | 0x07 => ['\\', 'a']
    | 0x08 => ['\\', 'b']
    | 0x09 => ['\\', 't']
    | 0x0A => ['\\', 'n']
    | 0x0B => ['\\', 'v']
    | 0x0C => ['\\', 'f']
    | 0x0D => ['\\', 'r']
    | 0x1B => ['\\', 'e']
    | 0x85 => ['\\', 'N']
    | 0x2028 => ['\\', 'L']
    | 0x2029 => ['\\', 'P']
    | _ =>
      if n ≤ 0xFF then ['\\', 'x'] ++ upperHex 2 n
      else if n ≤ 0xFFFF then ['\\', 'u'] ++ upperHex 4 n
      else ['\\', 'U'] ++ upperHex 8 n

/-- Lines that each start at the indentation; `fresh` tells that a line has just begun, and `write`
writes a character that breaks no line. -/
def indentLines (indent : Nat) (write : Char → List Char) : Bool → List Char → List Char
  | _, [] => []
  | fresh, c :: rest =>
    if isBreak c then c :: indentLines indent write true rest
    else
      (if fresh then List.replicate indent ' ' else []) ++ write c
        ++ indentLines indent write false rest

/-- What the head of a literal block tells: an indentation, where the first line does not show it,
and what becomes of the breaks at the end. -/
def literalHints (cs : List Char) : List Char :=
  let indentation := match cs.head? with
    | some c => if c == ' ' || isBreak c then ['2'] else []
    | none => []
  let ending := match cs.reverse with
    | [] => ['-']
    | [last] => if isBreak last then ['+'] else ['-']
    | last :: before :: _ =>
      if !isBreak last then ['-'] else if isBreak before then ['+'] else []
  indentation ++ ending

def scalarText (asKey : Bool) (indent : Nat) (text : String) : String :=
  let cs := text.toList
  match chooseStyle asKey text with
  | .plain => text
  | .single =>
    let double (c : Char) : List Char := if c = '\'' then ['\'', '\''] else [c]
    let closing := if (cs.getLast?.map isBreak).getD false then List.replicate indent ' ' else []
    String.ofList (['\''] ++ indentLines indent double false cs ++ closing ++ ['\''])
  | .double => String.ofList (['"'] ++ cs.flatMap doubleChar ++ ['"'])
  | .literal =>
    String.ofList (['|'] ++ literalHints cs ++ ['\n'] ++ indentLines indent (fun c => [c]) true cs)

/-- A literal block that keeps a break at its end has ended its line already. -/
def endLine (text : String) : String :=
  if (text.toList.getLast?.map isBreak).getD false then text else text ++ "\n"

def floatLayout : DecimalLayout := ⟨-5, 16, false⟩

def numberText : Number → String
  | .integer value _ => toString value
  | .float value _ => floatLayout.writeFloat value

def isSimpleKey (key : String) : Bool := !isMultiline key.toList && key.utf8ByteSize ≤ 128

/-- A key and its colon. A key that cannot stand before a colon on one line gets lines of its own,
after a mark. -/
def keyText (indent : Nat) (key : String) : String :=
  if isSimpleKey key then scalarText true indent key ++ ":"
  else "? " ++ endLine (scalarText false (indent + 2) key) ++ blanks indent ++ ":"

def leafText (indent : Nat) : Json → String
  | .null => "null"
  | .boolean true => "true"
  | .boolean false => "false"
  | .number value => numberText value
  | .string value => scalarText false indent value
  | .array _ => "[]"
  | .object _ => "\x7b\x7d"

/-- Where the first part of a value begins: on the line of its dash or mark, or on lines of their
own after a plain key, items at the indentation of the key and entries two blanks deeper. -/
inductive Start where
  | onLine
  | onNext
  deriving DecidableEq, Repr

def Start.afterKey (key : String) : Start := if isSimpleKey key then .onNext else .onLine

def Start.itemIndent : Start → Nat → Nat
  | .onLine, indent => indent + 2
  | .onNext, indent => indent

def Start.gap : Start → Nat → String
  | .onLine, _ => " "
  | .onNext, indent => "\n" ++ blanks indent

mutual
def valueText (start : Start) (indent : Nat) : Json → String
  | .array (item :: rest) =>
    let inner := start.itemIndent indent
    start.gap inner ++ "-" ++ valueText .onLine inner item ++ itemsText inner rest
  | .object (entry :: rest) =>
    let inner := indent + 2
    start.gap inner ++ keyText inner entry.1 ++ valueText (.afterKey entry.1) inner entry.2
      ++ entriesText inner rest
  | other => " " ++ endLine (leafText (indent + 2) other)

def itemsText (indent : Nat) : List Json → String
  | [] => ""
  | item :: rest =>
    blanks indent ++ "-" ++ valueText .onLine indent item ++ itemsText indent rest

def entriesText (indent : Nat) : List (String × Json) → String
  | [] => ""
  | entry :: rest =>
    blanks indent ++ keyText indent entry.1 ++ valueText (.afterKey entry.1) indent entry.2
      ++ entriesText indent rest
end

def print : Json → String
  | .object (entry :: rest) => entriesText 0 (entry :: rest)
  | other => endLine (leafText 2 other)

end Yaml

end Stackwright
