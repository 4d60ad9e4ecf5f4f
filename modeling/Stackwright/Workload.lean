import Stackwright.Codec.Record
import Stackwright.Duration
import Stackwright.Tree

/-!
Workloads: one containerized service, with override fragments for its environments.
-/

namespace Stackwright

inductive Kind where
  | loadBalanced
  | backend
  deriving DecidableEq, Repr

def Kind.display : Kind → String
  | .loadBalanced => "Load Balanced Web Service"
  | .backend => "Backend Service"

def Kind.codec : Codec Kind :=
  .choice Kind.loadBalanced.display Kind.backend.display
    (fun second => if second then .backend else .loadBalanced) (· = .backend)

structure Image where
  location : Option String
  port : Option UInt16
  deriving DecidableEq, Repr

def Image.codec : Codec Image :=
  (Fields.start Image.mk
    |>.optional "location" location .text
    |>.optional "port" port .word16).codec "ImageConfig"

structure AutoScaling where
  /-- The least and the greatest task count, such as `1-10`. -/
  range : String
  cpuPercentage : Option UInt32
  memoryPercentage : Option UInt32
  deriving DecidableEq, Repr

def AutoScaling.codec : Codec AutoScaling :=
  (Fields.start AutoScaling.mk
    |>.required "range" range .text
    |>.optional "cpu_percentage" cpuPercentage .word32
    |>.optional "memory_percentage" memoryPercentage .word32).codec "AutoscalingConfig"

inductive Count where
  | fixed (tasks : UInt32)
  | scaled (settings : AutoScaling)
  deriving DecidableEq, Repr

def Count.codec : Codec Count where
  shape := .forms ["range", "cpu_percentage", "memory_percentage"]
  read := Codec.readForms "Count"
    [fun v => (Codec.word32.read v).map fixed, fun v => (AutoScaling.codec.read v).map scaled]
  write
    | fixed tasks => Codec.word32.write tasks
    | scaled settings => AutoScaling.codec.write settings

structure HealthCheck where
  path : Option String := none
  successCodes : Option String := none
  healthyThreshold : Option UInt32 := none
  unhealthyThreshold : Option UInt32 := none
  interval : Option Duration := none
  timeout : Option Duration := none
  gracePeriod : Option Duration := none
  deriving DecidableEq, Repr

def HealthCheck.codec : Codec HealthCheck :=
  (Fields.start HealthCheck.mk
    |>.optional "path" path .text
    |>.optional "success_codes" successCodes .text
    |>.optional "healthy_threshold" healthyThreshold .word32
    |>.optional "unhealthy_threshold" unhealthyThreshold .word32
    |>.optional "interval" interval Duration.codec
    |>.optional "timeout" timeout Duration.codec
    |>.optional "grace_period" gracePeriod Duration.codec).codec "HealthCheckConfig"

/-- A health check may be given by its path alone. -/
inductive HealthCheckSetting where
  | path (path : String)
  | full (settings : HealthCheck)
  deriving DecidableEq, Repr

namespace HealthCheckSetting

def codec : Codec HealthCheckSetting where
  shape := .forms ["path", "success_codes", "healthy_threshold", "unhealthy_threshold",
    "interval", "timeout", "grace_period"]
  read := Codec.readForms "HealthCheckArgs"
    [fun v => (Codec.text.read v).map path, fun v => (HealthCheck.codec.read v).map full]
  write
    | path value => Codec.text.write value
    | full settings => HealthCheck.codec.write settings

def settings : HealthCheckSetting → HealthCheck
  | path value => { path := some value }
  | full settings => settings

end HealthCheckSetting

structure Http where
  path : Option String
  healthCheck : Option HealthCheckSetting
  deregistrationDelay : Option Duration
  stickiness : Option Bool
  targetContainer : Option String
  targetPort : Option UInt16
  aliases : Option (List String)
  deriving DecidableEq, Repr

def Http.codec : Codec Http :=
  (Fields.start Http.mk
    |>.optional "path" path .text
    |>.optional "healthcheck" healthCheck HealthCheckSetting.codec
    |>.optional "deregistration_delay" deregistrationDelay Duration.codec
    |>.optional "stickiness" stickiness .boolean
    |>.optional "target_container" targetContainer .text
    |>.optional "target_port" targetPort .word16
    |>.optional "alias" aliases (.list .text)).codec "HttpConfig"

structure ContainerCheck where
  command : List String
  interval : Option Duration
  retries : Option UInt32
  timeout : Option Duration
  startPeriod : Option Duration
  deriving DecidableEq, Repr

def ContainerCheck.codec : Codec ContainerCheck :=
  (Fields.start ContainerCheck.mk
    |>.required "command" command (.list .text)
    |>.optional "interval" interval Duration.codec
    |>.optional "retries" retries .word32
    |>.optional "timeout" timeout Duration.codec
    |>.optional "start_period" startPeriod Duration.codec).codec "ContainerHealthCheck"

inductive Placement where
  | publicSubnets
  | privateSubnets
  deriving DecidableEq, Repr

def Placement.codec : Codec Placement :=
  .choice "public" "private" (fun second => if second then .privateSubnets else .publicSubnets)
    (· = .privateSubnets)

structure Vpc where
  placement : Placement
  securityGroups : List String
  deriving DecidableEq, Repr

def Vpc.codec : Codec Vpc :=
  (Fields.start Vpc.mk
    |>.defaulted "placement" placement Placement.codec .publicSubnets
    |>.listed "security_groups" securityGroups .text).codec "VpcConfig"

structure Network where
  vpc : Vpc
  deriving DecidableEq, Repr

def Network.codec : Codec Network :=
  (Fields.start Network.mk
    |>.defaulted "vpc" vpc Vpc.codec ⟨.publicSubnets, []⟩).codec "NetworkConfig"

structure Sidecar where
  image : String
  port : Option UInt16
  essential : Option Bool
  processVariables : Dict String
  deriving DecidableEq

def Sidecar.codec : Codec Sidecar :=
  (Fields.start Sidecar.mk
    |>.required "image" image .text
    |>.optional "port" port .word16
    |>.optional "essential" essential .boolean
    |>.tabled "variables" processVariables .text).codec "SidecarConfig"

structure Workload where
  name : String
  kind : Kind
  image : Image
  cpu : Option UInt32
  memory : Option UInt32
  count : Option Count
  exec : Bool
  entryPoint : Option (List String)
  command : Option (List String)
  processVariables : Dict String
  secrets : Dict String
  http : Option Http
  healthCheck : Option ContainerCheck
  network : Network
  sidecars : Dict Sidecar
  /-- Override fragments by the names of their environments. -/
  environments : Dict Tree

def Workload.codec : Codec Workload :=
  (Fields.start Workload.mk
    |>.defaulted "name" name .text ""
    |>.required "type" kind Kind.codec
    |>.defaulted "image" image Image.codec ⟨none, none⟩
    |>.optional "cpu" cpu .word32
    |>.optional "memory" memory .word32
    |>.optional "count" count Count.codec
    |>.defaulted "exec" exec .boolean false
    |>.optional "entrypoint" entryPoint (.list .text)
    |>.optional "command" command (.list .text)
    |>.tabled "variables" processVariables .text
    |>.tabled "secrets" secrets .text
    |>.optional "http" http Http.codec
    |>.optional "healthcheck" healthCheck ContainerCheck.codec
    |>.defaulted "network" network Network.codec ⟨⟨.publicSubnets, []⟩⟩
    |>.tabled "sidecars" sidecars Sidecar.codec
    |>.tabled "environments" environments Tree.codec).codec "Workload"

end Stackwright
