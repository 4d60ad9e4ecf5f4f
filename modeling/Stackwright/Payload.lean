import Stackwright.Digest
import Stackwright.Payload.EnvController
import Stackwright.Payload.RulePriority

/-!
Payloads: the sources of the helper functions that run beside a load balanced service.
-/

namespace Stackwright

structure Payload where
  name : String
  source : String

namespace Payload

def ofLines (name : String) (lines : List String) : Payload :=
  ⟨name, String.join (lines.map (· ++ "\n"))⟩

def envController : Payload := ofLines "env-controller" envControllerLines

def rulePriority : Payload := ofLines "rule-priority" rulePriorityLines

/-- The SHA-256 digest of the source in base 64, as the provider shows it for a function. -/
def digest (payload : Payload) : String :=
  String.ofList (base64Text (sha256 (textBytes payload.source)))

def runtime : String := "nodejs18.x"

def handler : String := "index.handler"

end Payload

end Stackwright
