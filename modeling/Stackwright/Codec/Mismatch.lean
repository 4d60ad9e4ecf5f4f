import Stackwright.Json
import Stackwright.Text.Quoted

/-!
Why a value could not be read as what was wanted, and the wording of it.
-/

namespace Stackwright

inductive Mismatch where
  | kind (found : Json) (expected : String)
  | range (found : Json) (expected : String)
  | length (found : Nat) (expected : String)
  | missingField (name : String)
  | unknownVariant (found first second : String)
  /-- None of the forms that the named type may take. -/
  | noForm (type : String)
  | duration (text : String)

def Json.described : Json → String
  | .null => "null"
  | .boolean true => "boolean `true`"
  | .boolean false => "boolean `false`"
  | .number (.integer value _) => "integer `" ++ toString value ++ "`"
  | .number (.float value _) => "floating point `" ++ floatLayout.writeFloat value ++ "`"
  | .string value => "string " ++ quoted value
  | .array _ => "sequence"
  | .object _ => "map"

def durationMessage (text : String) : String :=
  "invalid duration '" ++ text ++ "', expected e.g. 1h, 30m, 10s"

def Mismatch.message : Mismatch → String
  | .kind found expected => "invalid type: " ++ found.described ++ ", expected " ++ expected
  | .range found expected => "invalid value: " ++ found.described ++ ", expected " ++ expected
  | .length found expected => "invalid length " ++ toString found ++ ", expected " ++ expected
  | .missingField name => "missing field `" ++ name ++ "`"
  | .unknownVariant found first second =>
    "unknown variant `" ++ found ++ "`, expected `" ++ first ++ "` or `" ++ second ++ "`"
  | .noForm type => "data did not match any variant of untagged enum " ++ type
  | .duration text => durationMessage text

end Stackwright
