import Stackwright.Proofs.Codec.Faithful
import Stackwright.Proofs.Duration
import Stackwright.Workload

/-!
A workload and its parts by the lists of their fields, and their codecs: what they write is read as
what it was written for.
-/

namespace Stackwright

open Codec RecordField

theorem Kind.codec_faithful : Kind.codec.Faithful := by
  apply choice_faithful (by decide)
  intro kind
  cases kind <;> rfl

theorem Placement.codec_faithful : Placement.codec.Faithful := by
  apply choice_faithful (by decide)
  intro placement
  cases placement <;> rfl

def Image.declaration : Declaration Image where
  list := [.optional "location" location .text, .optional "port" port .word16]
  make := Image.mk
  distinct := by decide
  rebuilt _ := rfl
  recovers _ _ := ⟨⟨trivial, rfl⟩, rfl⟩

theorem Image.codec_faithful : Image.codec.Faithful := by
  apply declaration.codec_faithful "ImageConfig"
  simp only [declaration, List.forall_mem_cons]
  exact ⟨optional_kept _ _ text_faithful, optional_kept _ _ word16_faithful, nofun⟩

def AutoScaling.declaration : Declaration AutoScaling where
  list := [
    .required "range" range .text,
    .optional "cpu_percentage" cpuPercentage .word32,
    .optional "memory_percentage" memoryPercentage .word32]
  make := AutoScaling.mk
  distinct := by decide
  rebuilt _ := rfl
  recovers _ _ _ := ⟨⟨⟨trivial, rfl⟩, rfl⟩, rfl⟩

theorem AutoScaling.codec_faithful : AutoScaling.codec.Faithful := by
  apply declaration.codec_faithful "AutoscalingConfig"
  simp only [declaration, List.forall_mem_cons]
  exact ⟨required_kept _ _ text_faithful, optional_kept _ _ word32_faithful,
    optional_kept _ _ word32_faithful, nofun⟩

def HealthCheck.declaration : Declaration HealthCheck where
  list := [
    .optional "path" path .text,
    .optional "success_codes" successCodes .text,
    .optional "healthy_threshold" healthyThreshold .word32,
    .optional "unhealthy_threshold" unhealthyThreshold .word32,
    .optional "interval" interval Duration.codec,
    .optional "timeout" timeout Duration.codec,
    .optional "grace_period" gracePeriod Duration.codec]
  make := HealthCheck.mk
  distinct := by decide
  rebuilt _ := rfl
  recovers _ _ _ _ _ _ _ := by repeat' constructor

theorem HealthCheck.codec_faithful : HealthCheck.codec.Faithful := by
  apply declaration.codec_faithful "HealthCheckConfig"
  simp only [declaration, List.forall_mem_cons]
  exact ⟨optional_kept _ _ text_faithful, optional_kept _ _ text_faithful,
    optional_kept _ _ word32_faithful, optional_kept _ _ word32_faithful,
    optional_kept _ _ Duration.codec_faithful, optional_kept _ _ Duration.codec_faithful,
    optional_kept _ _ Duration.codec_faithful, nofun⟩

/-- A value of either of two types, written and read in the form of its own. -/
def Codec.readEither {α β γ : Type} (type : String) (first : Codec α) (inFirst : α → γ)
    (second : Codec β) (inSecond : β → γ) (value : Json) : Except Mismatch γ :=
  readForms type [fun v => (first.read v).map inFirst, fun v => (second.read v).map inSecond] value

section Forms

variable {α β γ : Type} {type : String} {first : Codec α} {second : Codec β} {inFirst : α → γ}
  {inSecond : β → γ}

theorem readEither_first {value : α} (back : first.ReadsBack value) :
    readEither type first inFirst second inSecond (first.write value) = .ok (inFirst value) := by
  have reads : first.read (first.write value) = .ok value := back
  simp [readEither, readForms, List.findSome?, reads, Except.map, Except.toOption]

theorem readEither_second {value : β} {mismatch : Mismatch}
    (fails : first.read (second.write value) = .error mismatch) (back : second.ReadsBack value) :
    readEither type first inFirst second inSecond (second.write value) = .ok (inSecond value) := by
  have reads : second.read (second.write value) = .ok value := back
  simp [readEither, readForms, List.findSome?, fails, reads, Except.map, Except.toOption]

end Forms

theorem Count.codec_read :
    Count.codec.read = readEither "Count" word32 fixed AutoScaling.codec scaled := rfl

theorem Count.codec_faithful : Count.codec.Faithful := by
  constructor
  · intro count
    rw [ReadsBack, Count.codec_read]
    cases count with
    | fixed tasks => exact readEither_first (word32_readsBack tasks)
    | scaled settings => exact readEither_second rfl (AutoScaling.codec_faithful.back settings)
  · intro count
    cases count with
    | fixed tasks => exact word32_faithful.given tasks
    | scaled settings => exact AutoScaling.codec_faithful.given settings

theorem HealthCheckSetting.codec_read : HealthCheckSetting.codec.read =
    readEither "HealthCheckArgs" text path HealthCheck.codec full := rfl

theorem HealthCheckSetting.codec_faithful : HealthCheckSetting.codec.Faithful := by
  constructor
  · intro setting
    rw [ReadsBack, HealthCheckSetting.codec_read]
    cases setting with
    | path value => exact readEither_first (text_faithful.back value)
    | full settings => exact readEither_second rfl (HealthCheck.codec_faithful.back settings)
  · intro setting
    cases setting with
    | path value => exact text_faithful.given value
    | full settings => exact HealthCheck.codec_faithful.given settings

def Http.declaration : Declaration Http where
  list := [
    .optional "path" path .text,
    .optional "healthcheck" healthCheck HealthCheckSetting.codec,
    .optional "deregistration_delay" deregistrationDelay Duration.codec,
    .optional "stickiness" stickiness .boolean,
    .optional "target_container" targetContainer .text,
    .optional "target_port" targetPort .word16,
    .optional "alias" aliases (.list .text)]
  make := Http.mk
  distinct := by decide
  rebuilt _ := rfl
  recovers _ _ _ _ _ _ _ := by repeat' constructor

theorem Http.codec_faithful : Http.codec.Faithful := by
  apply declaration.codec_faithful "HttpConfig"
  simp only [declaration, List.forall_mem_cons]
  exact ⟨optional_kept _ _ text_faithful, optional_kept _ _ HealthCheckSetting.codec_faithful,
    optional_kept _ _ Duration.codec_faithful, optional_kept _ _ boolean_faithful,
    optional_kept _ _ text_faithful, optional_kept _ _ word16_faithful,
    optional_kept _ _ (list_faithful text_faithful), nofun⟩

def ContainerCheck.declaration : Declaration ContainerCheck where
  list := [
    .required "command" command (.list .text),
    .optional "interval" interval Duration.codec,
    .optional "retries" retries .word32,
    .optional "timeout" timeout Duration.codec,
    .optional "start_period" startPeriod Duration.codec]
  make := ContainerCheck.mk
  distinct := by decide
  rebuilt _ := rfl
  recovers _ _ _ _ _ := by repeat' constructor

theorem ContainerCheck.codec_faithful : ContainerCheck.codec.Faithful := by
  apply declaration.codec_faithful "ContainerHealthCheck"
  simp only [declaration, List.forall_mem_cons]
  exact ⟨required_kept _ _ (list_faithful text_faithful),
    optional_kept _ _ Duration.codec_faithful, optional_kept _ _ word32_faithful,
    optional_kept _ _ Duration.codec_faithful, optional_kept _ _ Duration.codec_faithful, nofun⟩

def Vpc.declaration : Declaration Vpc where
  list := [
    .defaulted "placement" placement Placement.codec .publicSubnets,
    .listed "security_groups" securityGroups .text]
  make := Vpc.mk
  distinct := by decide
  rebuilt _ := rfl
  recovers _ _ := by repeat' constructor

theorem Vpc.codec_faithful : Vpc.codec.Faithful := by
  apply declaration.codec_faithful "VpcConfig"
  simp only [declaration, List.forall_mem_cons]
  exact ⟨defaulted_kept _ _ Placement.codec_faithful _, listed_kept _ _ text_faithful, nofun⟩

def Network.declaration : Declaration Network where
  list := [.defaulted "vpc" vpc Vpc.codec ⟨.publicSubnets, []⟩]
  make := Network.mk
  distinct := by decide
  rebuilt _ := rfl
  recovers _ := by repeat' constructor

theorem Network.codec_faithful : Network.codec.Faithful := by
  apply declaration.codec_faithful "NetworkConfig"
  simp only [declaration, List.forall_mem_cons]
  exact ⟨defaulted_kept _ _ Vpc.codec_faithful _, nofun⟩

def Sidecar.declaration : Declaration Sidecar where
  list := [
    .required "image" image .text,
    .optional "port" port .word16,
    .optional "essential" essential .boolean,
    .tabled "variables" processVariables .text]
  make := Sidecar.mk
  distinct := by decide
  rebuilt _ := rfl
  recovers _ _ _ _ := by repeat' constructor

theorem Sidecar.codec_faithful : Sidecar.codec.Faithful := by
  apply declaration.codec_faithful "SidecarConfig"
  simp only [declaration, List.forall_mem_cons]
  exact ⟨required_kept _ _ text_faithful, optional_kept _ _ word16_faithful,
    optional_kept _ _ boolean_faithful, tabled_kept _ _ text_faithful, nofun⟩

namespace Workload

def ownFieldList : List (RecordField Workload) := [
  .defaulted "name" name .text "",
  .required "type" kind Kind.codec,
  .defaulted "image" image Image.codec ⟨none, none⟩,
  .optional "cpu" cpu .word32,
  .optional "memory" memory .word32,
  .optional "count" count Count.codec,
  .defaulted "exec" exec .boolean false,
  .optional "entrypoint" entryPoint (.list .text),
  .optional "command" command (.list .text),
  .tabled "variables" processVariables .text,
  .tabled "secrets" secrets .text,
  .optional "http" http Http.codec,
  .optional "healthcheck" healthCheck ContainerCheck.codec,
  .defaulted "network" network Network.codec ⟨⟨.publicSubnets, []⟩⟩,
  .tabled "sidecars" sidecars Sidecar.codec]

def fragmentsField : RecordField Workload := .tabled "environments" environments Tree.codec

def declaration : Declaration Workload where
  list := ownFieldList ++ [fragmentsField]
  make := Workload.mk
  distinct := by decide
  rebuilt _ := rfl
  recovers _ _ _ _ _ _ _ _ _ _ _ _ _ _ _ _ := by repeat' constructor

theorem codec_eq_declared : Workload.codec = declaration.codec "Workload" := rfl

theorem ownFieldList_kept : ∀ field ∈ ownFieldList, field.Kept := by
  simp only [ownFieldList, List.forall_mem_cons]
  exact ⟨defaulted_kept _ _ text_faithful _, required_kept _ _ Kind.codec_faithful,
    defaulted_kept _ _ Image.codec_faithful _, optional_kept _ _ word32_faithful,
    optional_kept _ _ word32_faithful, optional_kept _ _ Count.codec_faithful,
    defaulted_kept _ _ boolean_faithful _, optional_kept _ _ (list_faithful text_faithful),
    optional_kept _ _ (list_faithful text_faithful), tabled_kept _ _ text_faithful,
    tabled_kept _ _ text_faithful, optional_kept _ _ Http.codec_faithful,
    optional_kept _ _ ContainerCheck.codec_faithful,
    defaulted_kept _ _ Network.codec_faithful _, tabled_kept _ _ Sidecar.codec_faithful, nofun⟩

end Workload

end Stackwright
