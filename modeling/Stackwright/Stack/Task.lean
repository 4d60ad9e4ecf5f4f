import Stackwright.CompileError
import Stackwright.Expr
import Stackwright.Naming
import Stackwright.Parameter
import Stackwright.Settings
import Stackwright.Workload

/-!
The task of a stack: what every kind of workload needs to run, checked before anything is built.
-/

namespace Stackwright

structure ScalingRange where
  least : UInt32
  greatest : UInt32
  cpuPercentage : Option UInt32
  memoryPercentage : Option UInt32
  deriving DecidableEq, Repr

structure Task where
  image : String
  port : Option UInt16
  cpu : UInt32
  memory : UInt32
  desiredCount : UInt32
  scaling : Option ScalingRange
  deriving DecidableEq, Repr

def readBound (cs : List Char) : Option UInt32 :=
  (readBelow UInt32.size (dropEnds isBlank cs)).map UInt32.ofNat

/-- The bounds of a range such as `1-10`, which the first dash separates. -/
def readRange? (text : String) : Option (UInt32 × UInt32) := do
  let first := text.toList.takeWhile (· ≠ '-')
  match text.toList.dropWhile (· ≠ '-') with
  | [] => none
  | _ :: second =>
    let least ← readBound first
    let greatest ← readBound second
    if least ≤ greatest then some (least, greatest) else none

def readRange (text : String) : Except CompileError (UInt32 × UInt32) :=
  match readRange? text with
  | some bounds => .ok bounds
  | none => .error (.unsupported (.countRange text))

def require {α : Type} (field : RequiredField) : Option α → Except CompileError α
  | some value => .ok value
  | none => .error (.missing field)

/-- The image of the settings is taken before that of the workload. -/
def Task.ofWorkload (workload : Workload) (settings : Settings) : Except CompileError Task := do
  let image ← require .imageLocation (settings.image.or workload.image.location)
  let cpu ← require .cpu workload.cpu
  let memory ← require .memory workload.memory
  let count ← require .count workload.count
  let port := workload.image.port
  match count with
  | .fixed tasks =>
    return { image, port, cpu, memory, desiredCount := tasks, scaling := none }
  | .scaled scaling =>
    let (least, greatest) ← readRange scaling.range
    return {
      image, port, cpu, memory
      desiredCount := least
      scaling := some {
        least, greatest
        cpuPercentage := scaling.cpuPercentage
        memoryPercentage := scaling.memoryPercentage } }

structure Plan where
  workload : Workload
  app : String
  environment : String
  settings : Settings
  task : Task

namespace Plan

def of (workload : Workload) (app environment : String) (settings : Settings) :
    Except CompileError Plan := do
  if workload.name = "" then throw (.missing .name)
  let task ← Task.ofWorkload workload settings
  return { workload, app, environment, settings, task }

def names (plan : Plan) : StackNames := ⟨plan.app, plan.environment, plan.workload.name⟩

/-- The tags of the stack. Those that name it cannot be replaced by additional ones. -/
def tags (plan : Plan) : Dict String :=
  plan.settings.additionalTags
    |>.insert "application" plan.app
    |>.insert "environment" plan.environment
    |>.insert "service" plan.workload.name

end Plan

abbrev Parameters := Dict ParameterValue

def ParameterKey.ref (key : ParameterKey) : Expr := .ref key.text

namespace Role

def ref (role : Role) : Expr := .ref role.id

def get (role : Role) (name : String) : Expr := .getAttribute role.id name

def arn (role : Role) : Expr := role.get "Arn"

end Role

/-- Stands for the port of a workload that exposes none. -/
def noPort : String := "-1"

def baseParameters (plan : Plan) : List (ParameterKey × ParameterValue) :=
  [(.appName, .ofText plan.app),
   (.envName, .ofText plan.environment),
   (.workloadName, .ofText plan.workload.name),
   (.containerImage, .ofText plan.task.image),
   (.containerPort, ⟨.number, (plan.task.port.map fun port => toString port.toNat).getD noPort⟩),
   (.taskCpu, .ofNat plan.task.cpu.toNat),
   (.taskMemory, .ofNat plan.task.memory.toNat),
   (.taskCount, .ofNat plan.task.desiredCount.toNat),
   (.logRetention, .ofNat plan.settings.logRetentionDays.toNat),
   (.addonsTemplateUrl, .ofText (plan.settings.addonsTemplateUrl.getD ""))]

def Parameters.of (values : List (ParameterKey × ParameterValue)) : Parameters :=
  .ofList (values.map fun value => (value.1.text, value.2))

def Parameters.toList (parameters : Parameters) : List Parameter :=
  parameters.entries.map fun entry => ⟨entry.1, entry.2.value⟩

def Parameters.declarations (parameters : Parameters) : Dict Expr :=
  parameters.map fun parameter =>
    .record [("Type", .text (match parameter.kind with
      | .text => "String"
      | .number => "Number"))]

end Stackwright
