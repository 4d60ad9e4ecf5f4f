import Stackwright.Codec.Record

/-!
The parameters of a stack: the values that are handed over beside the template.
-/

namespace Stackwright

inductive ParameterKey where
  | appName
  | envName
  | workloadName
  | containerImage
  | containerPort
  | taskCpu
  | taskMemory
  | taskCount
  | logRetention
  | addonsTemplateUrl
  | targetContainer
  | targetPort
  | httpsEnabled
  | rulePath
  | healthCheckPath
  | stickiness
  | aliases
  deriving DecidableEq, Repr

def ParameterKey.text : ParameterKey → String
  | .appName => "AppName"
  | .envName => "EnvName"
  | .workloadName => "WorkloadName"
  | .containerImage => "ContainerImage"
  | .containerPort => "ContainerPort"
  | .taskCpu => "TaskCPU"
  | .taskMemory => "TaskMemory"
  | .taskCount => "TaskCount"
  | .logRetention => "LogRetention"
  | .addonsTemplateUrl => "AddonsTemplateURL"
  | .targetContainer => "TargetContainer"
  | .targetPort => "TargetPort"
  | .httpsEnabled => "HTTPSEnabled"
  | .rulePath => "RulePath"
  | .healthCheckPath => "HealthCheckPath"
  | .stickiness => "Stickiness"
  | .aliases => "Aliases"

inductive ParameterKind where
  | text
  | number
  deriving DecidableEq, Repr

/-- The kind with which a parameter is declared, and the value to deploy it with. -/
structure ParameterValue where
  kind : ParameterKind
  value : String
  deriving DecidableEq, Repr

def ParameterValue.ofText (value : String) : ParameterValue := ⟨.text, value⟩

def ParameterValue.ofFlag (value : Bool) : ParameterValue :=
  ⟨.text, if value then "true" else "false"⟩

def ParameterValue.ofNat (value : Nat) : ParameterValue := ⟨.number, toString value⟩

structure Parameter where
  key : String
  value : String
  deriving DecidableEq, Repr

def Parameter.codec : Codec Parameter :=
  (Fields.start Parameter.mk
    |>.required "ParameterKey" key .text
    |>.required "ParameterValue" value .text).codec "Parameter"

def parametersText (parameters : List Parameter) : String :=
  ((Codec.list Parameter.codec).write parameters).pretty

end Stackwright
