import Stackwright.Partition

/-!
The caller: who asks the provider, as its identity service replies, qualified by a region.
-/

namespace Stackwright

structure Identity where
  account : String
  userId : String
  deriving DecidableEq, Repr

structure Caller where
  rootUser : String
  account : String
  userId : String
  deriving DecidableEq, Repr

inductive CallerError where
  | noRegion
  | serviceFailed (text : String)
  deriving DecidableEq, Repr

namespace CallerError

def reason : CallerError → String
  | noRegion => "region is not set"
  | serviceFailed text => "get caller identity: " ++ text

def message (e : CallerError) : String := "identity unavailable: " ++ e.reason

end CallerError

def Identity.qualify (identity : Identity) (region : String) : Except CallerError Caller :=
  if region = "" then .error .noRegion
  else .ok {
    rootUser := "arn:" ++ (Partition.ofRegion region).name ++ ":iam::" ++ identity.account ++ ":root"
    account := identity.account
    userId := identity.userId }

abbrev Reply := Except String Identity

/-- The identity service, as the replies it has yet to give and the number of those it gave. -/
structure IdentityService where
  replies : Nat → Reply
  calls : Nat

namespace IdentityService

def start (replies : Nat → Reply) : IdentityService := ⟨replies, 0⟩

def call (service : IdentityService) : Reply × IdentityService :=
  (service.replies service.calls, { service with calls := service.calls + 1 })

/-- Asks who is calling. Without a region the service is not called. -/
def resolve (service : IdentityService) (region : Option String) :
    Except CallerError Caller × IdentityService :=
  match region with
  | none => (.error .noRegion, service)
  | some region =>
    if region = "" then (.error .noRegion, service)
    else
      let (reply, after) := service.call
      match reply with
      | .error text => (.error (.serviceFailed text), after)
      | .ok identity => (identity.qualify region, after)

def resolveAll (service : IdentityService) :
    List (Option String) → List (Except CallerError Caller × Nat)
  | [] => []
  | region :: rest =>
    let (outcome, after) := service.resolve region
    (outcome, after.calls) :: after.resolveAll rest

end IdentityService

end Stackwright
