import Stackwright.Json

/-!
The values of a template: JSON with calls of the provider's functions in it.
-/

namespace Stackwright

inductive Expr where
  | null
  | flag (value : Bool)
  | number (value : Number)
  | text (value : String)
  | list (items : List Expr)
  | record (fields : List (String × Expr))
  /-- The value of a parameter, or what a resource is known by. -/
  | ref (name : String)
  | getAttribute (resource name : String)
  /-- A text in which names between `${` and `}` are replaced by their values. -/
  | substitute (pattern : String)
  | join (delimiter : String) (values : Expr)
  | split (delimiter : String) (source : Expr)
  | equals (left right : Expr)
  | negation (condition : Expr)
  | choose (condition : String) (yes no : Expr)
  | imported (name : Expr)

instance : Inhabited Expr := ⟨.null⟩

namespace Expr

def call (function : String) (argument : Json) : Json := .object [(function, argument)]

mutual
def toJson : Expr → Json
  | null => .null
  | flag value => .boolean value
  | number value => .number value
  | text value => .string value
  | list items => .array (itemsToJson items)
  | record fields => .ofEntries (fieldsToJson fields)
  | ref name => call "Ref" (.string name)
  | getAttribute resource name => call "Fn::GetAtt" (.array [.string resource, .string name])
  | substitute pattern => call "Fn::Sub" (.string pattern)
  | join delimiter values => call "Fn::Join" (.array [.string delimiter, values.toJson])
  | split delimiter source => call "Fn::Split" (.array [.string delimiter, source.toJson])
  | equals left right => call "Fn::Equals" (.array [left.toJson, right.toJson])
  | negation condition => call "Fn::Not" (.array [condition.toJson])
  | choose condition yes no =>
    call "Fn::If" (.array [.string condition, yes.toJson, no.toJson])
  | imported name => call "Fn::ImportValue" name.toJson

def itemsToJson : List Expr → List Json
  | [] => []
  | item :: rest => item.toJson :: itemsToJson rest

def fieldsToJson : List (String × Expr) → List (String × Json)
  | [] => []
  | field :: rest => (field.1, field.2.toJson) :: fieldsToJson rest
end

mutual
def ofJson : Json → Expr
  | .null => null
  | .boolean value => flag value
  | .number value => number value
  | .string value => text value
  | .array items => list (ofItems items)
  | .object entries => record (ofEntries entries)

def ofItems : List Json → List Expr
  | [] => []
  | item :: rest => ofJson item :: ofItems rest

def ofEntries : List (String × Json) → List (String × Expr)
  | [] => []
  | entry :: rest => (entry.1, ofJson entry.2) :: ofEntries rest
end

def natural (n : UInt64) : Expr := number (.ofUInt64 n)

def noValue : Expr := ref "AWS::NoValue"

/-- A value that the environment's stack exports under `name`. Its own names precede it, so that
the template holds no identifier of an account or a region. -/
def ofEnvironment (name : String) : Expr :=
  imported (substitute ("$\x7bAppName\x7d-$\x7bEnvName\x7d-" ++ name))

def tagList (tags : Dict String) : Expr :=
  list (tags.entries.map fun tag => record [("Key", text tag.1), ("Value", text tag.2)])

end Expr

end Stackwright
