/-!
Tags of YAML nodes. A tag is written part by part, and each part ends before a byte that is zero.
-/

namespace Stackwright

namespace Yaml

/-- A tag by its bytes: those that are escaped need not be UTF-8. -/
structure Tag where
  bytes : List UInt8
  deriving DecidableEq, Repr

namespace Tag

def textBytes (cs : List Char) : List UInt8 := cs.flatMap String.utf8EncodeChar

def ofText (text : String) : Tag := ⟨textBytes text.toList⟩

def beforeZero (written : List UInt8) : List UInt8 := written.takeWhile (· ≠ 0)

def standard (name : String) : Tag := ofText ("tag:yaml.org,2002:" ++ name)

/-- What follows the mark of a tag of the document's own. -/
def own? (tag : Tag) : Option (List UInt8) :=
  match tag.bytes with
  | first :: name => if first = '!'.toUInt8 then some name else none
  | [] => none

def ownName? (tag : Tag) : Option String :=
  tag.own?.bind fun name => if name = [] then some "!" else String.fromUTF8? ⟨name.toArray⟩

end Tag

end Yaml

end Stackwright
