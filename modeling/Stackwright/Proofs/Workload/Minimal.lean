import Stackwright.Workload

/-!
Workloads of which as little is given as possible.
-/

namespace Stackwright.Workload

def minimal (name : String) (kind : Kind) : Workload where
  name := name
  kind := kind
  image := ⟨none, none⟩
  cpu := none
  memory := none
  count := none
  exec := false
  entryPoint := none
  command := none
  processVariables := .empty
  secrets := .empty
  http := none
  healthCheck := none
  network := ⟨⟨.publicSubnets, []⟩⟩
  sidecars := .empty
  environments := .empty

/-- One task of an image, with what it takes to run it. -/
def runnable (name : String) (kind : Kind) : Workload :=
  { minimal name kind with
    image := ⟨some "nginx", some 80⟩
    cpu := some 256
    memory := some 512
    count := some (.fixed 1) }

def served (name : String) : Workload :=
  { runnable name .loadBalanced with
    http := some ⟨some "/", none, none, none, none, none, none⟩ }

end Stackwright.Workload
