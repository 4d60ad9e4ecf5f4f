import Stackwright.Yaml.Plain
import Stackwright.Yaml.Source

/-!
Scalars of YAML: plain ones, those in quotes, and blocks of lines. Each reader gives the text of the
scalar and what is left of the source.
-/

namespace Stackwright

namespace Yaml

structure Gap where
  spaces : List Char := []
  crossed : Bool := false
  firstBreak : Option Char := none
  moreBreaks : List Char := []

/-- One line break becomes a space; of several the first is lost. -/
def Gap.folded (gap : Gap) : List Char :=
  if gap.crossed then
    match gap.firstBreak with
    | some '\n' => if gap.moreBreaks = [] then [' '] else gap.moreBreaks
    | some other => other :: gap.moreBreaks
    | none => gap.moreBreaks
  else gap.spaces

/-- Reads blanks into a gap. A tab left of `margin` is no indentation. -/
def readGap (margin : Nat) (gap : Gap) : List Placed → Except Malformed (Gap × List Placed)
  | [] => .ok (gap, [])
  | p :: rest =>
    if isSpace p.char then
      if gap.crossed then
        if p.char = '\t' ∧ p.column < margin then
          malformed (p :: rest) "found a tab character that violates indentation"
        else readGap margin gap rest
      else readGap margin { gap with spaces := gap.spaces ++ [p.char] } rest
    else if isBreak p.char then
      if gap.crossed then readGap margin { gap with moreBreaks := gap.moreBreaks ++ [p.char] } rest
      else readGap margin { crossed := true, firstBreak := some p.char } rest
    else .ok (gap, p :: rest)

/-! Plain scalars. -/

def isFlowMark (c : Char) : Bool := [',', '[', ']', '\x7b', '\x7d'].contains c

def plainPiece (inFlow : Bool) : List Placed → Except Malformed (List Char × List Placed)
  | [] => .ok ([], [])
  | p :: rest =>
    if isGap p.char then .ok ([], p :: rest)
    else if inFlow && p.char == ':' && (isFlowMark (peek rest) || peek rest == '?') then
      malformed (p :: rest) "found unexpected ':'"
    else if (p.char == ':' && isGap (peek rest)) || (inFlow && isFlowMark p.char) then
      .ok ([], p :: rest)
    else do
      let (piece, left) ← plainPiece inFlow rest
      return (p.char :: piece, left)

def plainPieces (inFlow : Bool) (margin : Nat) :
    Nat → List Char → Gap → List Placed → Except Malformed (List Char × Gap × List Placed)
  | 0, text, gap, rest => .ok (text, gap, rest)
  | steps + 1, text, gap, rest => do
    if isDocumentBoundary rest || peek rest == '#' then return (text, gap, rest)
    let (piece, left) ← plainPiece inFlow rest
    let text := if piece = [] then text else text ++ gap.folded ++ piece
    let gap := if piece = [] then gap else {}
    if !(isSpace (peek left) || isBreak (peek left)) then return (text, gap, left)
    let (gap, left) ← readGap margin gap left
    if !inFlow && columnOf left < margin then return (text, gap, left)
    plainPieces inFlow margin steps text gap left

def readPlain (inFlow : Bool) (margin : Nat) (rest : List Placed) :
    Except Malformed (String × Bool × List Placed) := do
  let (text, gap, left) ← plainPieces inFlow margin rest.length [] {} rest
  return (String.ofList text, gap.crossed, left)

/-! Scalars in quotes. -/

def escapeOf : Char → Option Char
  | '0' => some '\x00'
  | 'a' => some '\x07'
  | 'b' => some '\x08'
  | 't' => some '\t'
  | '\t' => some '\t'
  | 'n' => some '\n'
  | 'v' => some '\x0b'
  | 'f' => some '\x0c'
  | 'r' => some '\r'
  | 'e' => some '\x1b'
  | ' ' => some ' '
  | '"' => some '"'
  | '/' => some '/'
  | '\\' => some '\\'
  | 'N' => some '\u0085'
  | '_' => some '\u00a0'
  | 'L' => some '\u2028'
  | 'P' => some '\u2029'
  | _ => none

def escapeDigits : Char → Option Nat
  | 'x' => some 2
  | 'u' => some 4
  | 'U' => some 8
  | _ => none

def readCode (count : Nat) (rest : List Placed) : Option Char := do
  let digits := (rest.take count).map Placed.char
  if digits.length ≠ count then none
  let code ← readBase 16 digits
  if code.isValidChar then some (Char.ofNat code) else none

/-- The characters up to a blank, the closing quote, or a line break that a backslash hides; the
flag tells of such a break. -/
def quotedPiece (single : Bool) :
    Nat → List Char → List Placed → Except Malformed (List Char × Bool × List Placed)
  | 0, text, rest => .ok (text, false, rest)
  | steps + 1, text, rest =>
    match rest with
    | [] => .ok (text, false, [])
    | p :: left =>
      if isGap p.char then .ok (text, false, rest)
      else if single then
        if p.char = '\'' then
          if peek left = '\'' then quotedPiece single steps (text ++ ['\'']) (left.drop 1)
          else .ok (text, false, rest)
        else quotedPiece single steps (text ++ [p.char]) left
      else if p.char = '"' then .ok (text, false, rest)
      else if p.char = '\\' then
        let escape := peek left
        if isBreak escape then .ok (text, true, left.drop 1)
        else
          match escapeOf escape, escapeDigits escape with
          | some c, _ => quotedPiece single steps (text ++ [c]) (left.drop 1)
          | none, some count =>
            match readCode count (left.drop 1) with
            | some c => quotedPiece single steps (text ++ [c]) (left.drop (1 + count))
            | none => malformed rest "found invalid character escape code"
          | none, none => malformed rest "found unknown escape character"
      else quotedPiece single steps (text ++ [p.char]) left

def quotedPieces (single : Bool) :
    Nat → List Char → List Placed → Except Malformed (List Char × List Placed)
  | 0, _, rest => malformed rest "found unexpected end of stream"
  | steps + 1, text, rest => do
    if isDocumentBoundary rest then malformed rest "found unexpected document indicator"
    if isEnd (peek rest) then malformed rest "found unexpected end of stream"
    let (text, hidden, left) ← quotedPiece single rest.length text rest
    if peek left == if single then '\'' else '"' then return (text, left.drop 1)
    let (gap, left) ← readGap 0 { crossed := hidden } left
    quotedPieces single steps (text ++ gap.folded) left

def readQuoted (single : Bool) (rest : List Placed) :
    Except Malformed (String × List Placed) := do
  let (text, left) ← quotedPieces single rest.length [] (rest.drop 1)
  return (String.ofList text, left)

/-! Blocks of lines. -/

inductive Chomping where
  | strip
  | clip
  | keep
  deriving DecidableEq, Repr

structure BlockHead where
  chomping : Chomping := .clip
  /-- How much deeper than its surroundings the block stands, where that is told. -/
  increment : Option Nat := none

def readChomping (rest : List Placed) : Option Chomping × List Placed :=
  match peek rest with
  | '+' => (some .keep, rest.drop 1)
  | '-' => (some .strip, rest.drop 1)
  | _ => (none, rest)

def readIncrement (rest : List Placed) : Except Malformed (Option Nat × List Placed) :=
  let c := peek rest
  if c = '0' then malformed rest "found an indentation indicator equal to 0"
  else if c.isDigit then .ok (some (digitValue c), rest.drop 1)
  else .ok (none, rest)

def readBlockHead (rest : List Placed) : Except Malformed (BlockHead × List Placed) := do
  match readChomping rest with
  | (some chomping, left) =>
    let (increment, left) ← readIncrement left
    return ({ chomping, increment }, left)
  | (none, left) =>
    let (increment, left) ← readIncrement left
    match increment with
    | none => return ({}, left)
    | some _ =>
      let (chomping, left) := readChomping left
      return ({ chomping := chomping.getD .clip, increment }, left)

def endOfLine (rest : List Placed) : Except Malformed (List Placed) :=
  let left := skipChars isSpace rest
  let left := if peek left = '#' then skipChars (fun c => !isLineEnd c) left else left
  if isBreak (peek left) then .ok (left.drop 1)
  else if isEnd (peek left) then .ok left
  else malformed left "did not find expected comment or line break"

/-- Empty lines, and the indentation of the line after them. Without a margin the deepest column
seen is told. -/
def blockBreaks (margin : Option Nat) (deepest : Nat) (breaks : List Char) :
    List Placed → Except Malformed (List Char × Nat × List Placed)
  | [] => .ok (breaks, deepest, [])
  | p :: rest =>
    let left := (margin.map fun m => decide (p.column < m)).getD true
    if left && p.char == ' ' then blockBreaks margin (max deepest (p.column + 1)) breaks rest
    else
      let deepest := max deepest p.column
      if left && p.char == '\t' then
        malformed (p :: rest) "found a tab character where an indentation space is expected"
      else if isBreak p.char then blockBreaks margin deepest (breaks ++ [p.char]) rest
      else .ok (breaks, deepest, p :: rest)

structure BlockState where
  text : List Char := []
  lastBreak : Option Char := none
  breaks : List Char
  afterBlank : Bool := false

def blockLines (literal : Bool) (margin : Nat) :
    Nat → BlockState → List Placed → Except Malformed (BlockState × List Placed)
  | 0, state, rest => .ok (state, rest)
  | steps + 1, state, rest => do
    if columnOf rest ≠ margin ∨ isEnd (peek rest) then return (state, rest)
    let startsBlank := isSpace (peek rest)
    let joined :=
      if !literal && state.lastBreak == some '\n' && !state.afterBlank && !startsBlank then
        if state.breaks = [] then [' '] else []
      else state.lastBreak.toList
    let (line, left) := takeChars (fun c => !isLineEnd c) rest
    let lastBreak := if isBreak (peek left) then some (peek left) else none
    let (breaks, _, left) ←
      blockBreaks (some margin) 0 [] (if lastBreak.isSome then left.drop 1 else left)
    blockLines literal margin steps {
      text := state.text ++ joined ++ state.breaks ++ line
      lastBreak, breaks
      afterBlank := startsBlank } left

def readBlock (literal : Bool) (indent : Int) (rest : List Placed) :
    Except Malformed (String × List Placed) := do
  let (head, left) ← readBlockHead (rest.drop 1)
  let left ← endOfLine left
  let told := head.increment.map fun n => if 0 ≤ indent then indent.toNat + n else n
  let (breaks, deepest, left) ← blockBreaks told 0 [] left
  let margin := told.getD (max (max deepest (indent + 1).toNat) 1)
  let (state, left) ← blockLines literal margin left.length { breaks } left
  let ending := match head.chomping with
    | .strip => []
    | .clip => state.lastBreak.toList
    | .keep => state.lastBreak.toList ++ state.breaks
  return (String.ofList (state.text ++ ending), left)

end Yaml

end Stackwright
