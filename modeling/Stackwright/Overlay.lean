import Stackwright.Workload

/-!
Resolving a workload for an environment: its fragment for that environment is laid over it, and
what comes out is read as a workload again.
-/

namespace Stackwright

inductive OverlayError where
  | clash (clash : Clash)
  | unreadable (environment : String) (mismatch : Mismatch)

namespace OverlayError

def path : OverlayError → String
  | clash c => c.shownPath
  | unreadable environment _ => "environments." ++ environment

def reason : OverlayError → String
  | clash c => c.reason
  | unreadable _ mismatch => mismatch.message

def message (e : OverlayError) : String :=
  "invalid override at " ++ e.path ++ ": " ++ e.reason

end OverlayError

def Workload.plain (workload : Workload) : Workload := { workload with environments := .empty }

/-- The workload as it is in an environment. No fragments are left in it, so that resolving it
once more changes nothing. -/
def Workload.resolve (workload : Workload) (environment : String) :
    Except OverlayError Workload := do
  match workload.environments.get? environment with
  | none => return workload.plain
  | some fragment =>
    let base := Tree.ofJson (Workload.codec.write workload.plain)
    let merged ← (Tree.merge "" base fragment).mapError .clash
    let resolved ← (Workload.codec.read merged.toJson).mapError (.unreadable environment)
    return resolved.plain

end Stackwright
