import Stackwright.Partition

/-!
Why a workload does not compile.
-/

namespace Stackwright

inductive RequiredField where
  | name
  | imageLocation
  | cpu
  | memory
  | count
  | http
  | httpPath
  | imagePort
  deriving DecidableEq, Repr

def RequiredField.path : RequiredField → String
  | .name => "name"
  | .imageLocation => "image.location"
  | .cpu => "cpu"
  | .memory => "memory"
  | .count => "count"
  | .http => "http"
  | .httpPath => "http.path"
  | .imagePort => "image.port"

inductive Unsupported where
  | countRange (text : String)
  | backendHttp
  | unknownTarget (container : String)
  | targetWithoutPort (sidecar : String)
  | aliasInPartition (partition : Partition)
  | aliasWithoutHttps
  | suffixTooLong (suffix : String)
  | suffixCharacter (suffix : String) (character : Char)
  deriving DecidableEq, Repr

/-- The greatest length of a unique suffix in bytes, that of a UUID. -/
def maxSuffixLength : Nat := 36

namespace Unsupported

def feature : Unsupported → String
  | countRange _ => "count.range"
  | backendHttp => "http"
  | unknownTarget _ | targetWithoutPort _ => "http.target_container"
  | aliasInPartition _ | aliasWithoutHttps => "http.alias"
  | suffixTooLong _ | suffixCharacter _ _ => "unique_suffix"

def reason : Unsupported → String
  | countRange text => "'" ++ text ++ "' is not a range like 1-10"
  | backendHttp => "a Backend Service is not exposed through the load balancer"
  | unknownTarget container =>
    "'" ++ container ++ "' is neither the main container nor a sidecar"
  | targetWithoutPort sidecar => "sidecar '" ++ sidecar ++ "' does not expose a port"
  | aliasInPartition partition =>
    "aliases are not available in the " ++ partition.name ++ " partition"
  | aliasWithoutHttps => "aliases require an HTTPS listener in the environment"
  | suffixTooLong suffix =>
    "'" ++ suffix ++ "' is longer than " ++ toString maxSuffixLength ++ " characters"
  | suffixCharacter suffix character =>
    "'" ++ suffix ++ "' contains '" ++ character.toString
      ++ "'; only letters, digits, '-' and '_' are allowed"

end Unsupported

inductive CompileError where
  | missing (field : RequiredField)
  | unsupported (what : Unsupported)
  deriving DecidableEq, Repr

namespace CompileError

def message : CompileError → String
  | missing field => "missing required field '" ++ field.path ++ "'"
  | unsupported what => "unsupported " ++ what.feature ++ ": " ++ what.reason

/-- A missing field is the fault of whatever made the workload, not of its author. -/
def isDefect : CompileError → Bool
  | missing _ => true
  | unsupported _ => false

end CompileError

end Stackwright
