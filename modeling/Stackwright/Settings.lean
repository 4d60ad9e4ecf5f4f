import Stackwright.Dict
import Stackwright.Partition

/-!
The settings of a deployment: where a stack goes, and what is chosen for it outside the workload.
-/

namespace Stackwright

def defaultLogRetentionDays : UInt32 := 30

structure Settings where
  partition : Partition := .commercial
  account : String := ""
  region : String := ""
  additionalTags : Dict String := .empty
  /-- A built image, taken in place of the workload's. -/
  image : Option String := none
  addonsTemplateUrl : Option String := none
  httpsListener : Bool := false
  /-- The suffix of an earlier deployment of the stack. -/
  uniqueSuffix : Option String := none
  logRetentionDays : UInt32 := defaultLogRetentionDays
  deriving DecidableEq

def Settings.inRegion (account region : String) : Settings :=
  { account, region, partition := .ofRegion region }

end Stackwright
