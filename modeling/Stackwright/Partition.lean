/-!
Partitions of the provider: separate worlds of regions, each with names of its own.
-/

namespace Stackwright

inductive Partition where
  | commercial
  | china
  deriving DecidableEq, Repr

structure UnknownPartition where
  text : String
  deriving DecidableEq, Repr

def UnknownPartition.message (e : UnknownPartition) : String :=
  "unknown partition '" ++ e.text ++ "'"

namespace Partition

def name : Partition → String
  | commercial => "aws"
  | china => "aws-cn"

def parse (text : String) : Except UnknownPartition Partition :=
  if text = "aws" then .ok commercial
  else if text = "aws-cn" then .ok china
  else .error ⟨text⟩

/-- Two regions are in China; every other text counts as a commercial region. -/
def ofRegion (region : String) : Partition :=
  if region = "cn-north-1" ∨ region = "cn-northwest-1" then china else commercial

def managedPolicy (partition : Partition) (policy : String) : String :=
  "arn:" ++ partition.name ++ ":iam::aws:policy/" ++ policy

end Partition

end Stackwright
