import Stackwright.Yaml.Character

/-!
The source of a YAML document: its characters, each with its place.
-/

namespace Stackwright

namespace Yaml

structure Malformed where
  /-- The line on which it shows, from zero. -/
  line : Nat
  problem : String
  deriving DecidableEq, Repr

def Malformed.message (e : Malformed) : String :=
  e.problem ++ " at line " ++ toString (e.line + 1)

structure Placed where
  char : Char
  /-- How many bytes stand before it. -/
  index : Nat
  line : Nat
  column : Nat
  deriving DecidableEq, Repr

/-- Stands behind the last character; no document holds this character itself. -/
def endMark : Char := '\x00'

/-- A line break as it is read: all but two of them mean the same. -/
def readBreak (c : Char) : Char := if c = '\u2028' ∨ c = '\u2029' then c else '\n'

def placeFrom (index line column : Nat) : List Char → List Placed
  | [] => [⟨endMark, index, line, column⟩]
  | '\r' :: '\n' :: rest =>
    ⟨'\n', index, line, column⟩ :: placeFrom (index + 2) (line + 1) 0 rest
  | c :: rest =>
    let next := index + c.utf8Size
    if isBreak c then ⟨readBreak c, index, line, column⟩ :: placeFrom next (line + 1) 0 rest
    else ⟨c, index, line, column⟩ :: placeFrom next line (column + 1) rest

def isAllowed (c : Char) : Bool :=
  let n := c.toNat
  n == 0x09 || n == 0x0A || n == 0x0D || (0x20 ≤ n && n ≤ 0x7E) || n == 0x85
    || (0xA0 ≤ n && n ≤ 0xFFFD) || 0x10000 ≤ n

def sourceOf (text : String) : Except Malformed (List Placed) :=
  let cs := text.toList
  if cs.all isAllowed then .ok (placeFrom 0 0 0 cs)
  else .error ⟨0, "control characters are not allowed"⟩

def peekAt (offset : Nat) (rest : List Placed) : Char := (rest[offset]?.map Placed.char).getD endMark

def peek (rest : List Placed) : Char := peekAt 0 rest

def lineOf (rest : List Placed) : Nat := (rest.head?.map Placed.line).getD 0

def columnOf (rest : List Placed) : Nat := (rest.head?.map Placed.column).getD 0

def indexOf (rest : List Placed) : Nat := (rest.head?.map Placed.index).getD 0

def isEnd (c : Char) : Bool := c == endMark

def isGap (c : Char) : Bool := isSpace c || isBreak c || isEnd c

def isLineEnd (c : Char) : Bool := isBreak c || isEnd c

def takeChars (p : Char → Bool) (rest : List Placed) : List Char × List Placed :=
  ((rest.takeWhile fun c => p c.char).map Placed.char, rest.dropWhile fun c => p c.char)

def skipChars (p : Char → Bool) (rest : List Placed) : List Placed :=
  rest.dropWhile fun c => p c.char

def malformed {α : Type} (rest : List Placed) (problem : String) : Except Malformed α :=
  .error ⟨lineOf rest, problem⟩

def isDocumentMark (mark : Char) (rest : List Placed) : Bool :=
  columnOf rest == 0 && peekAt 0 rest == mark && peekAt 1 rest == mark && peekAt 2 rest == mark
    && isGap (peekAt 3 rest)

def isDocumentBoundary (rest : List Placed) : Bool :=
  isDocumentMark '-' rest || isDocumentMark '.' rest

end Yaml

end Stackwright
