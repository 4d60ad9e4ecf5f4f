import Stackwright.Yaml.Scalar
import Stackwright.Yaml.Tag

/-!
Tokens of YAML. Indentation is told by tokens for the start and the end of a block; a key without a
mark is found at its colon, and the tokens for it are put in where it began.
-/

namespace Stackwright

namespace Yaml

inductive ScalarStyle where
  | plain
  | literal
  /-- In quotes, or a folded block. -/
  | other
  deriving DecidableEq, Repr

inductive Lexeme where
  | versionDirective (major minor : Nat)
  | tagDirective (handle : String) (uri : List UInt8)
  | documentStart
  | documentEnd
  | sourceEnd
  | sequenceStart
  | mappingStart
  | blockEnd
  | flowSequenceStart
  | flowSequenceEnd
  | flowMappingStart
  | flowMappingEnd
  | item
  | comma
  | key
  | value
  | aliased (name : String)
  | anchor (name : String)
  | tag (handle : String) (suffix : List UInt8)
  | scalar (text : String) (style : ScalarStyle)
  deriving DecidableEq, Repr

structure Token where
  lexeme : Lexeme
  line : Nat
  deriving DecidableEq, Repr

/-! Names, tags and directives. -/

def isNameChar (c : Char) : Bool := c.isAlphanum || c == '-' || c == '_'

def readName (rest : List Placed) : Except Malformed (String × List Placed) :=
  let (name, left) := takeChars isNameChar (rest.drop 1)
  if name = [] ∨ !(isGap (peek left) || "?:,]\x7d%@`".toList.contains (peek left)) then
    malformed left "did not find expected alphabetic or numeric character"
  else .ok (String.ofList name, left)

def readHandle (inDirective : Bool) (rest : List Placed) :
    Except Malformed (String × List Placed) :=
  if peek rest ≠ '!' then malformed rest "did not find expected '!'"
  else
    let (name, left) := takeChars isNameChar (rest.drop 1)
    if peek left = '!' then .ok (String.ofList ('!' :: name ++ ['!']), left.drop 1)
    else if inDirective && name ≠ [] then malformed left "did not find expected '!'"
    else .ok (String.ofList ('!' :: name), left)

def isUriChar (inBrackets : Bool) (c : Char) : Bool :=
  isNameChar c || ";/?:@&=+$.!~*'()".toList.contains c || (inBrackets && ",[]".toList.contains c)

def readEscapedByte (rest : List Placed) : Option (UInt8 × List Placed) :=
  match rest with
  | p :: a :: b :: left =>
    if p.char = '%' then (readBase 16 [a.char, b.char]).map fun n => (UInt8.ofNat n, left)
    else none
  | _ => none

def bytesAfter (first : UInt8) : Option Nat :=
  if first < 0x80 then some 0
  else if first &&& 0xE0 = 0xC0 then some 1
  else if first &&& 0xF0 = 0xE0 then some 2
  else if first &&& 0xF8 = 0xF0 then some 3
  else none

def readTrailingBytes : Nat → List Placed → Option (List UInt8 × List Placed)
  | 0, rest => some ([], rest)
  | count + 1, rest => do
    let (byte, left) ← readEscapedByte rest
    if byte &&& 0xC0 ≠ 0x80 then none
    let (others, left) ← readTrailingBytes count left
    return (byte :: others, left)

def readEscapedChar (rest : List Placed) : Option (List UInt8 × List Placed) := do
  let (first, left) ← readEscapedByte rest
  let count ← bytesAfter first
  let (others, left) ← readTrailingBytes count left
  return (first :: others, left)

def uriBytes (inBrackets : Bool) :
    Nat → List UInt8 → List Placed → Except Malformed (List UInt8 × List Placed)
  | 0, uri, rest => .ok (uri, rest)
  | steps + 1, uri, rest =>
    if peek rest = '%' then
      match readEscapedChar rest with
      | some (escaped, left) => uriBytes inBrackets steps (uri ++ escaped) left
      | none => malformed rest "did not find URI escaped octet"
    else if isUriChar inBrackets (peek rest) then
      uriBytes inBrackets steps (uri ++ Tag.textBytes [peek rest]) (rest.drop 1)
    else .ok (uri, rest)

/-- Part of a tag. It may be empty only after a handle that it continues. -/
def readUri (inBrackets continues : Bool) (start : List UInt8) (rest : List Placed) :
    Except Malformed (List UInt8 × List Placed) := do
  let (uri, left) ← uriBytes inBrackets rest.length start rest
  if uri = [] && !continues then malformed left "did not find expected tag URI"
  return (Tag.beforeZero uri, left)

def readTag (inFlow : Bool) (rest : List Placed) :
    Except Malformed (Lexeme × List Placed) := do
  let (lexeme, left) ←
    if peekAt 1 rest = '<' then do
      let (uri, left) ← readUri true false [] (rest.drop 2)
      if peek left ≠ '>' then malformed left "did not find the expected '>'"
      pure (Lexeme.tag "" uri, left.drop 1)
    else do
      let (handle, left) ← readHandle false rest
      let name := handle.toList
      if name.length > 1 ∧ name.getLast? = some '!' then do
        let (suffix, left) ← readUri false false [] left
        pure (Lexeme.tag handle suffix, left)
      else do
        let (suffix, left) ← readUri false true (Tag.textBytes (name.drop 1)) left
        pure (if suffix = [] then Lexeme.tag "" (Tag.textBytes ['!']) else Lexeme.tag "!" suffix,
          left)
  if (inFlow && peek left == ',') || isGap (peek left) then return (lexeme, left)
  malformed left "did not find expected whitespace or line break"

def readVersionNumber (rest : List Placed) : Except Malformed (Nat × List Placed) :=
  let (digits, left) := takeChars Char.isDigit rest
  if digits = [] ∨ 9 < digits.length then malformed rest "did not find expected version number"
  else .ok (digitsValue digits, left)

def readDirective (rest : List Placed) : Except Malformed (Lexeme × List Placed) := do
  let (name, left) := takeChars isNameChar (rest.drop 1)
  if name = [] then malformed left "could not find expected directive name"
  if !isGap (peek left) then malformed left "found unexpected non-alphabetical character"
  let left := skipChars isSpace left
  if name = "YAML".toList then
    let (major, left) ← readVersionNumber left
    if peek left ≠ '.' then malformed left "did not find expected digit or '.' character"
    let (minor, left) ← readVersionNumber (left.drop 1)
    return (.versionDirective major minor, ← endOfLine left)
  else if name = "TAG".toList then
    let (handle, left) ← readHandle true left
    if !isSpace (peek left) then malformed left "did not find expected whitespace"
    let (uri, left) ← readUri true false [] (skipChars isSpace left)
    if !isGap (peek left) then
      malformed left "did not find expected whitespace or line break"
    return (.tagDirective handle uri, ← endOfLine left)
  else malformed left "found unknown directive name"

/-! The lexer. -/

/-- Where a key without a mark may have begun. -/
structure PendingKey where
  required : Bool
  position : Nat
  index : Nat
  line : Nat
  column : Nat

structure Lexer where
  rest : List Placed
  tokens : Array Token := #[]
  /-- The column of the innermost block, minus one outside of any. -/
  indent : Int := -1
  outerIndents : List Int := []
  keyAllowed : Bool := true
  /-- The pending key of each open flow collection, the innermost first, and of the block. -/
  keys : List (Option PendingKey) := [none]

namespace Lexer

def inFlow (lexer : Lexer) : Bool := lexer.keys.tail ≠ []

def column (lexer : Lexer) : Nat := columnOf lexer.rest

def fail {α : Type} (lexer : Lexer) (problem : String) : Except Malformed α :=
  malformed lexer.rest problem

def emit (lexer : Lexer) (lexeme : Lexeme) : Lexer :=
  { lexer with tokens := lexer.tokens.push ⟨lexeme, lineOf lexer.rest⟩ }

def emitMark (lexer : Lexer) (lexeme : Lexeme) (size : Nat) : Lexer :=
  { lexer.emit lexeme with rest := lexer.rest.drop size }

def insertAt (lexer : Lexer) (position : Nat) (lexeme : Lexeme) : Lexer :=
  { lexer with tokens := lexer.tokens.insertIdxIfInBounds position ⟨lexeme, lineOf lexer.rest⟩ }

def closedBlocks (column : Int) : Int → List Int → Nat × Int × List Int
  | indent, [] => (0, indent, [])
  | indent, outer :: others =>
    if column < indent then
      let (count, left) := closedBlocks column outer others
      (count + 1, left)
    else (0, indent, outer :: others)

def closeTo (lexer : Lexer) (column : Int) : Lexer :=
  if lexer.inFlow then lexer
  else
    let (count, indent, outerIndents) := closedBlocks column lexer.indent lexer.outerIndents
    { (List.range count).foldl (fun l _ => l.emit .blockEnd) lexer with indent, outerIndents }

/-- Starts a block at a column, unless one stands there or the place is in a flow collection. -/
def openAt (lexer : Lexer) (column position : Nat) (lexeme : Lexeme) : Lexer :=
  if lexer.inFlow || decide ((column : Int) ≤ lexer.indent) then lexer
  else
    let outerIndents := lexer.indent :: lexer.outerIndents
    { lexer with indent := column, outerIndents }.insertAt position lexeme

def dropKey (lexer : Lexer) : Except Malformed Lexer :=
  match lexer.keys with
  | some key :: others =>
    if key.required then lexer.fail "could not find expected ':'"
    else .ok { lexer with keys := none :: others }
  | _ => .ok lexer

def expectKey (lexer : Lexer) : Except Malformed Lexer :=
  if lexer.keyAllowed then do
    let key : PendingKey := {
      required := !lexer.inFlow && lexer.indent == (lexer.column : Int)
      position := lexer.tokens.size
      index := indexOf lexer.rest
      line := lineOf lexer.rest
      column := lexer.column }
    let lexer ← lexer.dropKey
    return { lexer with keys := some key :: lexer.keys.drop 1 }
  else .ok lexer

/-- A key without a mark ends on its line, and within 1024 bytes. -/
def dropStaleKey (lexer : Lexer) : Except Malformed Lexer :=
  match lexer.keys with
  | some key :: _ =>
    if key.line < lineOf lexer.rest ∨ key.index + 1024 < indexOf lexer.rest then lexer.dropKey
    else .ok lexer
  | _ => .ok lexer

/-- Blanks, comments and line breaks between tokens, and byte order marks at the start of a line,
which take up a column. Outside of flow collections a tab does not indent, and a key may begin on a
new line. -/
def skipBlanks (inFlow : Bool) : Bool → Bool → List Placed → Bool × List Placed
  | keyAllowed, _, [] => (keyAllowed, [])
  | keyAllowed, inComment, p :: rest =>
    if isBreak p.char then skipBlanks inFlow (keyAllowed || !inFlow) false rest
    else if inComment then
      if isEnd p.char then (keyAllowed, p :: rest) else skipBlanks inFlow keyAllowed true rest
    else if p.char = '#' then skipBlanks inFlow keyAllowed true rest
    else if p.char = ' ' ∨ (p.char = '\t' ∧ (inFlow ∨ !keyAllowed)) then
      skipBlanks inFlow keyAllowed false rest
    else if p.char = '\uFEFF' ∧ p.column = 0 then skipBlanks inFlow keyAllowed false rest
    else (keyAllowed, p :: rest)

def toNextToken (lexer : Lexer) : Lexer :=
  let (keyAllowed, rest) := skipBlanks lexer.inFlow lexer.keyAllowed false lexer.rest
  { lexer with keyAllowed, rest }

def atDocumentLevel (lexer : Lexer) : Except Malformed Lexer := do
  let lexer ← (lexer.closeTo (-1)).dropKey
  return { lexer with keyAllowed := false }

def openFlow (lexer : Lexer) (lexeme : Lexeme) : Except Malformed Lexer := do
  let lexer ← lexer.expectKey
  return { lexer with keys := none :: lexer.keys, keyAllowed := true }.emitMark lexeme 1

def closeFlow (lexer : Lexer) (lexeme : Lexeme) : Except Malformed Lexer := do
  let lexer ← lexer.dropKey
  let keys := if lexer.inFlow then lexer.keys.drop 1 else lexer.keys
  return { lexer with keys, keyAllowed := false }.emitMark lexeme 1

def comma (lexer : Lexer) : Except Malformed Lexer := do
  let lexer ← lexer.dropKey
  return { lexer with keyAllowed := true }.emitMark .comma 1

def item (lexer : Lexer) : Except Malformed Lexer := do
  if !lexer.inFlow && !lexer.keyAllowed then
    lexer.fail "block sequence entries are not allowed in this context"
  let lexer ← (lexer.openAt lexer.column lexer.tokens.size .sequenceStart).dropKey
  return { lexer with keyAllowed := true }.emitMark .item 1

def markedKey (lexer : Lexer) : Except Malformed Lexer := do
  if !lexer.inFlow && !lexer.keyAllowed then
    lexer.fail "mapping keys are not allowed in this context"
  let lexer ← (lexer.openAt lexer.column lexer.tokens.size .mappingStart).dropKey
  return { lexer with keyAllowed := !lexer.inFlow }.emitMark .key 1

def value (lexer : Lexer) : Except Malformed Lexer :=
  match lexer.keys with
  | some key :: others =>
    let lexer := (lexer.insertAt key.position .key).openAt key.column key.position .mappingStart
    .ok ({ lexer with keys := none :: others, keyAllowed := false }.emitMark .value 1)
  | _ => do
    if !lexer.inFlow && !lexer.keyAllowed then
      lexer.fail "mapping values are not allowed in this context"
    let lexer := lexer.openAt lexer.column lexer.tokens.size .mappingStart
    return { lexer with keyAllowed := !lexer.inFlow }.emitMark .value 1

def node (lexer : Lexer)
    (read : List Placed → Except Malformed (Lexeme × List Placed)) : Except Malformed Lexer := do
  let lexer ← lexer.expectKey
  let (lexeme, rest) ← read lexer.rest
  return { lexer.emit lexeme with rest, keyAllowed := false }

def plain (lexer : Lexer) : Except Malformed Lexer := do
  let lexer ← lexer.expectKey
  let (text, crossed, rest) ← readPlain lexer.inFlow (lexer.indent + 1).toNat lexer.rest
  return { lexer.emit (.scalar text .plain) with rest, keyAllowed := crossed }

def block (lexer : Lexer) (literal : Bool) : Except Malformed Lexer := do
  let lexer ← lexer.dropKey
  let (text, rest) ← readBlock literal lexer.indent lexer.rest
  let style := if literal then ScalarStyle.literal else .other
  return { lexer.emit (.scalar text style) with rest, keyAllowed := true }

/-- A character that begins no plain scalar, unless it is one of three and something is joined to
it. -/
def startsPlain (inFlow : Bool) (rest : List Placed) : Bool :=
  let c := peek rest
  let next := peekAt 1 rest
  !(isGap c || "-?:,[]\x7b\x7d#&*!|>'\"%@`".toList.contains c)
    || (c == '-' && !isSpace next)
    || (!inFlow && (c == '?' || c == ':') && !isGap next)

def step (lexer : Lexer) : Except Malformed Lexer := do
  let lexer ← lexer.toNextToken.dropStaleKey
  let lexer := lexer.closeTo lexer.column
  let c := peek lexer.rest
  let joined := !isGap (peekAt 1 lexer.rest)
  let inFlow := lexer.inFlow
  if lexer.column = 0 ∧ c = '%' then
    let lexer ← lexer.atDocumentLevel
    let (lexeme, rest) ← readDirective lexer.rest
    return { lexer.emit lexeme with rest }
  else if isDocumentMark '-' lexer.rest then
    return (← lexer.atDocumentLevel).emitMark .documentStart 3
  else if isDocumentMark '.' lexer.rest then
    return (← lexer.atDocumentLevel).emitMark .documentEnd 3
  else if c = '[' then lexer.openFlow .flowSequenceStart
  else if c = '\x7b' then lexer.openFlow .flowMappingStart
  else if c = ']' then lexer.closeFlow .flowSequenceEnd
  else if c = '\x7d' then lexer.closeFlow .flowMappingEnd
  else if c = ',' then lexer.comma
  else if c = '-' ∧ !joined then lexer.item
  else if c = '?' ∧ (inFlow ∨ !joined) then lexer.markedKey
  else if c = ':' ∧ (inFlow ∨ !joined) then lexer.value
  else if c = '*' then
    lexer.node fun rest => (readName rest).map fun (name, left) => (.aliased name, left)
  else if c = '&' then
    lexer.node fun rest => (readName rest).map fun (name, left) => (.anchor name, left)
  else if c = '!' then lexer.node (readTag inFlow)
  else if c = '|' ∧ !inFlow then lexer.block true
  else if c = '>' ∧ !inFlow then lexer.block false
  else if c = '\'' then
    lexer.node fun rest => (readQuoted true rest).map fun (text, left) =>
      (.scalar text .other, left)
  else if c = '"' then
    lexer.node fun rest => (readQuoted false rest).map fun (text, left) =>
      (.scalar text .other, left)
  else if startsPlain inFlow lexer.rest then lexer.plain
  else lexer.fail "found character that cannot start any token"

/-- Token after token to the end of the source; every one takes a character, so that the length of
the source bounds their number. -/
def run : Nat → Lexer → Except Malformed Lexer
  | 0, lexer => .ok lexer
  | steps + 1, lexer =>
    if isEnd (peek lexer.toNextToken.rest) then do
      let lexer ← lexer.toNextToken.dropStaleKey
      return (← lexer.atDocumentLevel).emit .sourceEnd
    else do run steps (← lexer.step)

end Lexer

def tokensOf (text : String) : Except Malformed (List Token) := do
  let source ← sourceOf text
  let lexer ← Lexer.run source.length { rest := source }
  return lexer.tokens.toList

end Yaml

end Stackwright
