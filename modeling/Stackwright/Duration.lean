import Stackwright.Codec.Basic
import Stackwright.Text.Blank
import Stackwright.Text.Natural

/-!
Durations in whole seconds, read from texts such as `90`, `10s` or `1h30m`.
-/

namespace Stackwright

structure Duration where
  seconds : UInt64
  deriving DecidableEq, Repr

structure InvalidDuration where
  text : String

def InvalidDuration.message (e : InvalidDuration) : String := durationMessage e.text

namespace Duration

def unitSeconds : Char → Option UInt64
  | 'h' => some 3600
  | 'm' => some 60
  | 's' => some 1
  | _ => none

def readWord (cs : List Char) : Option UInt64 := (readBelow UInt64.size cs).map UInt64.ofNat

def times? (a b : UInt64) : Option UInt64 :=
  if a.toNat * b.toNat < UInt64.size then some (a * b) else none

def plus? (a b : UInt64) : Option UInt64 :=
  if a.toNat + b.toNat < UInt64.size then some (a + b) else none

/-- The seconds of groups such as `1h30m`, where `sum` is the seconds of the groups before and
`digits` were read of the next one. -/
def scan (sum : UInt64) (digits : List Char) : List Char → Option UInt64
  | [] => if digits = [] then some sum else none
  | c :: rest =>
    if c.isDigit then scan sum (digits ++ [c]) rest
    else do
      let factor ← unitSeconds c
      let number ← readWord digits
      let seconds ← times? number factor
      let sum ← plus? sum seconds
      scan sum [] rest

def seconds? (cs : List Char) : Option UInt64 :=
  if cs = [] then none else (readWord cs).orElse fun _ => scan 0 [] cs

/-- Blanks around the text are ignored; the total has to fit 64 bits. -/
def parse (text : String) : Except InvalidDuration Duration :=
  let trimmed := trim text
  match seconds? trimmed.toList with
  | some seconds => .ok ⟨seconds⟩
  | none => .error ⟨trimmed⟩

def display (d : Duration) : String := toString d.seconds.toNat ++ "s"

def codec : Codec Duration where
  shape := .forms []
  read
    | .string text => (parse text).mapError fun e => .duration e.text
    | value => Codec.readForms "Repr" [fun v => (Codec.word64.read v).map Duration.mk] value
  write d := .string d.display

end Duration

end Stackwright
