import Stackwright.Proofs.Stack.TaskRange

/-!
How many tasks a stack runs: the number that it starts with, and the range within which it starts
and stops tasks by their load.
-/

namespace Stackwright

def Expr.int? : Expr → Option Int
  | .number (.integer value _) => some value
  | _ => none

structure LoadTarget where
  measured : Option String
  percentage : Option Int

def Resource.loadTarget (policy : Resource) : LoadTarget :=
  let configuration := policy.properties.field? "TargetTrackingScalingPolicyConfiguration"
  { measured := ((configuration.bind (Expr.field? "PredefinedMetricSpecification")).bind
      (Expr.field? "PredefinedMetricType")).bind Expr.text?
    percentage := (configuration.bind (Expr.field? "TargetValue")).bind Expr.int? }

/-- The load of the processors that is kept to: the given one, or else a default where there is
nothing else to keep to. -/
def AutoScaling.cpuLoad (settings : AutoScaling) : Option UInt32 :=
  if settings.cpuPercentage = none ∧ settings.memoryPercentage = none then some 70
  else settings.cpuPercentage

namespace Stack

variable (stack : Stack)

def loadTarget? (role : Role) : Option LoadTarget :=
  (stack.template.resources.get? role.id).map Resource.loadTarget

def Starts (tasks : UInt32) : Prop :=
  stack.value? ParameterKey.taskCount.text = some (toString tasks.toNat)

/-- Nothing changes the number of tasks. -/
structure RunsFixed (tasks : UInt32) : Prop where
  starts : stack.Starts tasks
  unscaled : ∀ role ∈ scalingRoles, stack.template.resources.get? role.id = none

structure RunsScaled (settings : AutoScaling) (least greatest : UInt32) : Prop where
  range : WritesRange settings.range least greatest
  starts : stack.Starts least
  least : (stack.template.property? .scalingTarget "MinCapacity").bind Expr.int? =
    some (least.toNat : Int)
  greatest : (stack.template.property? .scalingTarget "MaxCapacity").bind Expr.int? =
    some (greatest.toNat : Int)
  cpu : stack.loadTarget? .scalingCpuPolicy = settings.cpuLoad.map fun percentage =>
    ⟨some "ECSServiceAverageCPUUtilization", some (percentage.toNat : Int)⟩
  memory : stack.loadTarget? .scalingMemoryPolicy = settings.memoryPercentage.map fun percentage =>
    ⟨some "ECSServiceAverageMemoryUtilization", some (percentage.toNat : Int)⟩
  kept : (stack.loadTarget? .scalingCpuPolicy).isSome ∨
    (stack.loadTarget? .scalingMemoryPolicy).isSome

def Runs : Count → Prop
  | .fixed tasks => stack.RunsFixed tasks
  | .scaled settings => ∃ least greatest, stack.RunsScaled settings least greatest

end Stack

def ScalingRange.resource? (range : ScalingRange) : Role → Option Resource
  | .scalingTarget => some (scalingTarget range)
  | .scalingCpuPolicy =>
    range.cpuTarget.map (scalingPolicy .scalingCpuPolicy "ECSServiceAverageCPUUtilization")
  | .scalingMemoryPolicy =>
    range.memoryPercentage.map
      (scalingPolicy .scalingMemoryPolicy "ECSServiceAverageMemoryUtilization")
  | _ => none

section

variable {resources : List (Role × Resource)} {kind : Kind} {plan : Plan}
  {parts : List (Role × Resource)}

theorem get?_resourcesById_eq_find? (distinct : (resources.map fun r => r.1.id).Nodup)
    (role : Role) : (resourcesById resources).get? role.id =
      (resources.find? fun r => r.1 = role).map Prod.snd := by
  cases found : resources.find? fun r => r.1 = role with
  | none =>
      rw [Option.map_none, Option.eq_none_iff_forall_not_mem]
      intro resource held
      obtain ⟨other, member, sameId⟩ := mem_of_get?_resourcesById held
      have different := List.find?_eq_none.mp found _ member
      exact different (decide_eq_true (Role.eq_of_id sameId.symm))
  | some entry =>
      have decided := List.find?_some found
      have isRole : entry.1 = role := of_decide_eq_true decided
      rw [← isRole]
      exact get?_resourcesById distinct (List.mem_of_find?_eq_some found)

theorem scalingResources_find? (plan : Plan) (role : Role) :
    ((scalingResources plan).find? fun r => r.1 = role).map Prod.snd =
      plan.task.scaling.bind fun range => range.resource? role := by
  rw [scalingResources]
  cases plan.task.scaling with
  | none => rfl
  | some range =>
      cases role <;> cases cpu : range.cpuTarget <;> cases memory : range.memoryPercentage <;>
        simp [ScalingRange.resource?, cpu, memory]

theorem Kind.not_scaling (kind : Kind) : ∀ role ∈ scalingRoles, role ∉ kind.roles := by
  cases kind <;> decide

theorem get?_scaling (roles : parts.map Prod.fst = kind.roles) {role : Role}
    (scales : role ∈ scalingRoles) :
    (resourcesById (parts ++ scalingResources plan)).get? role.id =
      plan.task.scaling.bind fun range => range.resource? role := by
  have elsewhere : parts.find? (fun r => r.1 = role) = none := by
    rw [List.find?_eq_none]
    intro entry member isRole
    apply kind.not_scaling role scales
    rw [← roles, ← of_decide_eq_true isRole]
    exact List.mem_map_of_mem member
  rw [get?_resourcesById_eq_find? (distinct_of_roles roles), List.find?_append, elsewhere,
    Option.none_or, scalingResources_find?]

theorem isSome_get?_unscaled (roles : parts.map Prod.fst = kind.roles) {id : String}
    (unscaled : id ∉ scalingRoles.map Role.id) :
    ((resourcesById (parts ++ scalingResources plan)).get? id).isSome ↔
      id ∈ kind.roles.map Role.id := by
  rw [isSome_get?_resourcesById (distinct_of_roles roles), List.map_append, roles, List.map_append,
    List.mem_append]
  have none_ : id ∉ ((scalingResources plan).map Prod.fst).map Role.id := fun member =>
    unscaled (((scalingResources_roles plan).map Role.id).subset member)
  exact or_iff_left none_

end

section

variable {range : ScalingRange}

theorem loadTarget_scalingPolicy (role : Role) (metric : String) (percentage : UInt32) :
    (scalingPolicy role metric percentage).loadTarget =
      ⟨some metric, some (percentage.toNat : Int)⟩ := by
  simp [Resource.loadTarget, scalingPolicy, Expr.field?, findEntry, Expr.text?, Expr.natural,
    Number.ofUInt64, Expr.int?]

theorem loadTarget?_of_held {stack : Stack} {role : Role} {metric : String} {load : Option UInt32}
    (held : stack.template.resources.get? role.id = load.map (scalingPolicy role metric)) :
    stack.loadTarget? role =
      load.map fun percentage => ⟨some metric, some (percentage.toNat : Int)⟩ := by
  rw [Stack.loadTarget?, held, Option.map_map]
  simp only [Function.comp_def, loadTarget_scalingPolicy]

theorem scalingTarget_least :
    ((scalingTarget range).properties.field? "MinCapacity").bind Expr.int? =
      some (range.least.toNat : Int) := by
  simp [scalingTarget, Expr.field?, findEntry, Expr.natural, Number.ofUInt64, Expr.int?]

theorem scalingTarget_greatest :
    ((scalingTarget range).properties.field? "MaxCapacity").bind Expr.int? =
      some (range.greatest.toNat : Int) := by
  simp [scalingTarget, Expr.field?, findEntry, Expr.natural, Number.ofUInt64, Expr.int?]

theorem cpuTarget_eq (settings : AutoScaling) (least greatest : UInt32) :
    ScalingRange.cpuTarget ⟨least, greatest, settings.cpuPercentage, settings.memoryPercentage⟩ =
      settings.cpuLoad := by
  rw [ScalingRange.cpuTarget, AutoScaling.cpuLoad]
  cases settings.cpuPercentage <;> cases settings.memoryPercentage <;> rfl

theorem load_given (settings : AutoScaling) :
    settings.cpuLoad.isSome ∨ settings.memoryPercentage.isSome := by
  rw [AutoScaling.cpuLoad]
  cases settings.cpuPercentage <;> cases settings.memoryPercentage <;> simp

end

variable {workload : Workload} {app environment : String} {settings : Settings}
  {fresh : UniqueSuffix} {stack : Stack}

theorem compile_runs (compiled : compile workload app environment settings fresh = .ok stack) :
    ∃ count, workload.count = some count ∧ stack.Runs count := by
  obtain ⟨plan, others, planned, roles, held, valued⟩ := compile_holds compiled
  have starts : stack.Starts plan.task.desiredCount :=
    valued .taskCount (.ofNat plan.task.desiredCount.toNat) (by simp [baseParameters])
  have scales : ∀ role ∈ scalingRoles, stack.template.resources.get? role.id =
      plan.task.scaling.bind fun range => range.resource? role := by
    intro role member
    rw [held]
    exact get?_scaling roles member
  obtain ⟨_, task, made, rfl⟩ := Plan.of_eq_ok planned
  rcases Task.ofWorkload_count made with
    ⟨tasks, asked, rfl, unscaled⟩ | ⟨asking, least, greatest, asked, ranged, rfl, scaled⟩
  · refine ⟨_, asked, starts, ?_⟩
    intro role member
    rw [scales role member, unscaled, Option.bind_none]
  · simp only [scaled, Option.bind_some] at scales
    have target := scales .scalingTarget (by decide)
    have cpuHeld := scales .scalingCpuPolicy (by decide)
    rw [ScalingRange.resource?, cpuTarget_eq] at cpuHeld
    have cpu := loadTarget?_of_held cpuHeld
    have memory := loadTarget?_of_held (scales .scalingMemoryPolicy (by decide))
    refine ⟨_, asked, task.desiredCount, greatest, ?_⟩
    constructor
    case range => exact readRange_eq_ok_iff.mp ranged
    case starts => exact starts
    case least =>
      rw [Template.property?, target]
      exact scalingTarget_least
    case greatest =>
      rw [Template.property?, target]
      exact scalingTarget_greatest
    case cpu => exact cpu
    case memory => exact memory
    case kept =>
      rw [cpu, memory, Option.isSome_map, Option.isSome_map]
      exact load_given asking

/-- A text is read as a range just if it is one as it is written. A stack runs as many tasks as its
workload asks for: a fixed number that nothing changes, or a number within the range that is read,
by one load at least. Its other resources are those of its kind. -/
theorem taskCount_consistent :
    (∀ text least greatest,
      readRange text = .ok (least, greatest) ↔ WritesRange text least greatest) ∧
    ∀ workload app environment settings fresh stack,
      compile workload app environment settings fresh = .ok stack →
        (∃ count, workload.count = some count ∧ stack.Runs count) ∧
        ∀ id, id ∉ scalingRoles.map Role.id →
          ((stack.template.resources.get? id).isSome ↔ id ∈ workload.kind.roles.map Role.id) := by
  refine ⟨fun _ _ _ => readRange_eq_ok_iff, ?_⟩
  intro workload app environment settings fresh stack compiled
  refine ⟨compile_runs compiled, ?_⟩
  intro id unscaled
  obtain ⟨plan, others, _, roles, held, _⟩ := compile_holds compiled
  rw [held]
  exact isSome_get?_unscaled roles unscaled

def Workload.scaledOver (range : String) : Workload :=
  { runnable "api" .backend with count := some (.scaled ⟨range, none, some 60⟩) }

theorem taskCount_scaledOver : ∃ stack,
    compile (.scaledOver " 2 - +010") "shop" "test" {} ⟨"s1", by decide, by decide, by decide⟩ =
        .ok stack ∧
      stack.RunsScaled ⟨" 2 - +010", none, some 60⟩ 2 10 ∧
      stack.loadTarget? .scalingCpuPolicy = none ∧
      (stack.template.resources.get? Role.addonsStack.id).isSome := by
  obtain ⟨stack, compiled⟩ : ∃ stack, compile (.scaledOver " 2 - +010") "shop" "test" {}
      ⟨"s1", by decide, by decide, by decide⟩ = .ok stack := ⟨_, rfl⟩
  obtain ⟨reads, counts⟩ := taskCount_consistent
  obtain ⟨⟨count, asked, runs⟩, others⟩ := counts _ _ _ _ _ _ compiled
  cases asked
  obtain ⟨least, greatest, scaled⟩ := runs
  have read : readRange " 2 - +010" = .ok (2, 10) := rfl
  have same := Except.ok.inj (read.symm.trans ((reads _ _ _).mpr scaled.range))
  obtain ⟨rfl, rfl⟩ := Prod.mk.inj same
  exact ⟨stack, compiled, scaled, scaled.cpu,
    (others Role.addonsStack.id (by decide)).mpr (by decide)⟩

end Stackwright
