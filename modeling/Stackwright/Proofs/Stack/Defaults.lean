import Stackwright.Proofs.Stack.Change

/-!
Defaults. A setting that is left open and one that spells out its default mean the same: all that is
compiled is compiled from the settings as they are with every default spelled out.
-/

namespace Stackwright

section SpelledOut

def HealthCheck.spelledOut (check : HealthCheck) : HealthCheck where
  path := some (check.path.getD "/")
  successCodes := some (check.successCodes.getD "200")
  healthyThreshold := some (check.healthyThreshold.getD 2)
  unhealthyThreshold := some (check.unhealthyThreshold.getD 2)
  interval := some (check.interval.getD ⟨10⟩)
  timeout := some (check.timeout.getD ⟨5⟩)
  gracePeriod := some (check.gracePeriod.getD ⟨60⟩)

def Http.check (http : Http) : HealthCheck :=
  (http.healthCheck.map HealthCheckSetting.settings).getD {}

def Http.container (http : Http) (workload : Workload) : String :=
  http.targetContainer.getD workload.name

def Workload.ownPort (workload : Workload) (container : String) : Option UInt16 :=
  if container = workload.name then workload.image.port
  else (workload.sidecars.get? container).bind Sidecar.port

def Http.spelledOut (workload : Workload) (http : Http) : Http where
  path := http.path
  healthCheck := some (.full http.check.spelledOut)
  deregistrationDelay := some (http.deregistrationDelay.getD ⟨60⟩)
  stickiness := some (http.stickiness.getD false)
  targetContainer := some (http.container workload)
  targetPort := http.targetPort.or (workload.ownPort (http.container workload))
  aliases := some (http.aliases.getD [])

def ContainerCheck.spelledOut (check : ContainerCheck) : ContainerCheck where
  command := check.command
  interval := some (check.interval.getD ⟨10⟩)
  retries := some (check.retries.getD 2)
  timeout := some (check.timeout.getD ⟨5⟩)
  startPeriod := some (check.startPeriod.getD ⟨0⟩)

def Sidecar.spelledOut (sidecar : Sidecar) : Sidecar :=
  { sidecar with essential := some (sidecar.essential.getD true) }

/-- Where no load is given, that of the processors is. -/
def AutoScaling.spelledOut (settings : AutoScaling) : AutoScaling :=
  match settings.cpuPercentage, settings.memoryPercentage with
  | none, none => { settings with cpuPercentage := some 70 }
  | _, _ => settings

def Count.spelledOut : Count → Count
  | fixed tasks => fixed tasks
  | scaled settings => scaled settings.spelledOut

def Workload.spelledOut (workload : Workload) : Workload :=
  { workload with
    count := workload.count.map Count.spelledOut
    http := workload.http.map (Http.spelledOut workload)
    healthCheck := workload.healthCheck.map ContainerCheck.spelledOut
    sidecars := workload.sidecars.map Sidecar.spelledOut }

def Settings.spelledOut (workload : Workload) (settings : Settings) : Settings :=
  { settings with
    image := settings.image.or workload.image.location
    addonsTemplateUrl := some (settings.addonsTemplateUrl.getD "") }

def ScalingRange.spelledOut (range : ScalingRange) : ScalingRange :=
  { range with cpuPercentage := range.cpuTarget }

def Task.spelledOut (task : Task) : Task :=
  { task with scaling := task.scaling.map ScalingRange.spelledOut }

def Plan.spelledOut (plan : Plan) : Plan :=
  { plan with
    workload := plan.workload.spelledOut
    settings := plan.settings.spelledOut plan.workload
    task := plan.task.spelledOut }

def Routing.spelledOut (workload : Workload) (routing : Routing) : Routing :=
  { routing with
    http := routing.http.spelledOut workload
    healthCheck := routing.healthCheck.spelledOut }

end SpelledOut

section

variable (plan : Plan) (routing : Routing) (suffix : UniqueSuffix)

theorem ContainerCheck.expr_spelledOut (check : ContainerCheck) :
    check.spelledOut.expr = check.expr := by
  obtain ⟨command, interval, retries, timeout, startPeriod⟩ := check
  cases interval <;> cases timeout <;> cases startPeriod <;> rfl

theorem mainContainer_spelledOut : mainContainer plan.spelledOut = mainContainer plan := by
  have checks : (plan.workload.healthCheck.map ContainerCheck.spelledOut).map
      (fun check => ("HealthCheck", check.expr)) =
        plan.workload.healthCheck.map fun check => ("HealthCheck", check.expr) := by
    rw [Option.map_map]
    congr 1
    funext check
    exact congrArg (Prod.mk "HealthCheck") check.expr_spelledOut
  rw [mainContainer, mainContainer, ← checks]
  rfl

theorem taskDefinition_spelledOut : taskDefinition plan.spelledOut = taskDefinition plan := by
  have sidecars : plan.spelledOut.workload.sidecars.entries.map
      (fun entry => sidecarContainer entry.1 entry.2) =
        plan.workload.sidecars.entries.map fun entry => sidecarContainer entry.1 entry.2 := by
    show ((plan.workload.sidecars.map Sidecar.spelledOut).entries.map _) = _
    rw [Dict.map, Dict.mapEntries, List.map_map]
    -- A container is essential where nothing else is said.
    rfl
  rw [taskDefinition, taskDefinition, mainContainer_spelledOut, sidecars]

theorem taskResources_spelledOut : taskResources plan.spelledOut = taskResources plan := by
  rw [taskResources, taskResources, taskDefinition_spelledOut]
  rfl

theorem ScalingRange.cpuTarget_spelledOut (range : ScalingRange) :
    range.spelledOut.cpuTarget = range.cpuTarget := by
  obtain ⟨least, greatest, cpu, memory⟩ := range
  cases cpu <;> cases memory <;> rfl

theorem scalingResources_spelledOut : scalingResources plan.spelledOut = scalingResources plan := by
  have scaling : plan.spelledOut.task.scaling = plan.task.scaling.map ScalingRange.spelledOut := rfl
  rw [scalingResources, scalingResources, scaling]
  cases plan.task.scaling with
  | none => rfl
  | some range =>
      simp only [Option.map_some, range.cpuTarget_spelledOut]
      rfl

theorem seconds_getD (duration : Option Duration) (default : UInt64) :
    ((some (duration.getD ⟨default⟩)).map Duration.seconds).getD default =
      (duration.map Duration.seconds).getD default := by
  cases duration <;> rfl

theorem targetGroup_spelledOut (workload : Workload) :
    targetGroup (routing.spelledOut workload) = targetGroup routing := by
  simp only [targetGroup, Routing.spelledOut, HealthCheck.spelledOut, Http.spelledOut, seconds_getD,
    Option.getD_some]

theorem serviceProperties_spelledOut :
    serviceProperties plan.spelledOut = serviceProperties plan := rfl

theorem routedService_spelledOut :
    routedService plan.spelledOut (routing.spelledOut plan.workload) =
      routedService plan routing := by
  simp only [routedService, serviceProperties_spelledOut, Routing.spelledOut,
    HealthCheck.spelledOut, seconds_getD]

theorem backendResources_spelledOut :
    backendResources plan.spelledOut = backendResources plan := by
  rw [backendResources, backendResources, taskResources_spelledOut, scalingResources_spelledOut]
  rfl

theorem loadBalancedResources_spelledOut :
    loadBalancedResources plan.spelledOut (routing.spelledOut plan.workload) suffix =
      loadBalancedResources plan routing suffix := by
  rw [loadBalancedResources, loadBalancedResources, taskResources_spelledOut,
    scalingResources_spelledOut, targetGroup_spelledOut, routedService_spelledOut]
  rfl

theorem backendTemplate_spelledOut (parameters : Parameters) :
    backendTemplate plan.spelledOut parameters = backendTemplate plan parameters :=
  Template.ext rfl rfl rfl rfl (congrArg resourcesById (backendResources_spelledOut plan)) rfl

theorem loadBalancedTemplate_spelledOut (parameters : Parameters) :
    loadBalancedTemplate plan.spelledOut (routing.spelledOut plan.workload) parameters suffix =
      loadBalancedTemplate plan routing parameters suffix :=
  Template.ext rfl rfl rfl rfl
    (congrArg resourcesById (loadBalancedResources_spelledOut plan routing suffix)) rfl

end

section

variable {plan : Plan}

theorem require_map {α β : Type} (field : RequiredField) (given : Option α) (f : α → β) :
    require field (given.map f) = (require field given).map f := by
  cases given <;> rfl

theorem AutoScaling.spelledOut_eq (settings : AutoScaling) (least greatest : UInt32) :
    (⟨least, greatest, settings.spelledOut.cpuPercentage, settings.spelledOut.memoryPercentage⟩ :
      ScalingRange) = ScalingRange.spelledOut
        ⟨least, greatest, settings.cpuPercentage, settings.memoryPercentage⟩ := by
  obtain ⟨range, cpu, memory⟩ := settings
  cases cpu <;> cases memory <;> rfl

theorem AutoScaling.spelledOut_range (settings : AutoScaling) :
    settings.spelledOut.range = settings.range := by
  obtain ⟨range, cpu, memory⟩ := settings
  cases cpu <;> cases memory <;> rfl

theorem Task.ofWorkload_spelledOut (workload : Workload) (settings : Settings) :
    Task.ofWorkload workload.spelledOut (settings.spelledOut workload) =
      (Task.ofWorkload workload settings).map Task.spelledOut := by
  have image : (settings.spelledOut workload).image.or workload.spelledOut.image.location =
      settings.image.or workload.image.location := by
    show (settings.image.or workload.image.location).or workload.image.location = _
    rw [Option.or_assoc, Option.or_self]
  have count : workload.spelledOut.count = workload.count.map Count.spelledOut := rfl
  rw [Task.ofWorkload, Task.ofWorkload, image, count, map_bind]
  refine bind_congr fun image => ?_
  rw [map_bind]
  refine bind_congr fun cpu => ?_
  rw [map_bind]
  refine bind_congr fun memory => ?_
  -- Of what is required, only the count has defaults of its own.
  rw [map_bind, require_map, bind_map]
  refine bind_congr fun count => ?_
  cases count with
  | fixed tasks => rfl
  | scaled scaling =>
      simp only [Count.spelledOut, map_bind, AutoScaling.spelledOut_range]
      refine bind_congr fun bounds => ?_
      rw [AutoScaling.spelledOut_eq]
      rfl

theorem Plan.of_spelledOut (workload : Workload) (app environment : String) (settings : Settings) :
    Plan.of workload.spelledOut app environment (settings.spelledOut workload) =
      (Plan.of workload app environment settings).map Plan.spelledOut := by
  rw [Plan.of, Plan.of, Task.ofWorkload_spelledOut]
  show (if workload.name = "" then _ else _) = _
  by_cases unnamed : workload.name = ""
  · rw [if_pos unnamed, if_pos unnamed]
    rfl
  · rw [if_neg unnamed, if_neg unnamed]
    cases Task.ofWorkload workload settings <;> rfl

theorem routingTarget_spelledOut (workload : Workload) (http : Http) {mainPort : UInt16}
    (ported : workload.image.port = some mainPort) :
    routingTarget workload.spelledOut (http.spelledOut workload) mainPort =
      routingTarget workload http mainPort := by
  have chosen : (http.spelledOut workload).targetContainer.getD workload.spelledOut.name =
      http.container workload := rfl
  have given : http.targetContainer.getD workload.name = http.container workload := rfl
  have port : (http.spelledOut workload).targetPort =
      http.targetPort.or (workload.ownPort (http.container workload)) := rfl
  have sidecar : workload.spelledOut.sidecars.get? (http.container workload) =
      (workload.sidecars.get? (http.container workload)).map Sidecar.spelledOut :=
    Dict.get?_map _ _ _
  simp only [routingTarget, chosen, given, port, sidecar]
  show (if http.container workload = workload.name then _ else _) =
    if http.container workload = workload.name then _ else _
  by_cases isMain : http.container workload = workload.name
  · rw [if_pos isMain, if_pos isMain, Workload.ownPort, if_pos isMain, ported]
    cases http.targetPort <;> rfl
  · rw [if_neg isMain, if_neg isMain, Workload.ownPort, if_neg isMain]
    cases workload.sidecars.get? (http.container workload) with
    | none => rfl
    | some sidecar =>
        have own : (http.targetPort.or sidecar.port).or sidecar.port =
            http.targetPort.or sidecar.port := by
          rw [Option.or_assoc, Option.or_self]
        simp only [Option.map_some, Option.bind_some, Sidecar.spelledOut, own]

theorem Routing.of_spelledOut (ported : plan.task.port = plan.workload.image.port) :
    Routing.of plan.spelledOut = (Routing.of plan).map (Routing.spelledOut plan.workload) := by
  rw [Routing.of, Routing.of, map_bind]
  show (require .http (plan.workload.http.map (Http.spelledOut plan.workload)) >>= _) = _
  rw [require_map, bind_map]
  refine bind_congr fun http => ?_
  rw [map_bind]
  refine bind_congr fun path => ?_
  rw [map_bind]
  show (require .imagePort plan.task.port >>= _) = _
  cases exposed : plan.task.port with
  | none => rfl
  | some mainPort =>
      have target := routingTarget_spelledOut plan.workload http (ported.symm.trans exposed)
      show (routingTarget plan.workload.spelledOut (http.spelledOut plan.workload) mainPort >>= _) =
        (routingTarget plan.workload http mainPort >>= _).map _
      rw [target, map_bind]
      refine bind_congr fun target => ?_
      rw [map_bind]
      exact bind_congr fun _ => rfl

theorem planParameters_spelledOut (ported : plan.task.port = plan.workload.image.port) :
    planParameters plan.spelledOut = planParameters plan := by
  have sameKind : plan.spelledOut.workload.kind = plan.workload.kind := rfl
  have exposure : plan.spelledOut.workload.http =
      plan.workload.http.map (Http.spelledOut plan.workload) := rfl
  rw [planParameters, planParameters, sameKind, exposure, Routing.of_spelledOut ported, bind_map]
  cases plan.workload.kind with
  | backend => cases plan.workload.http <;> rfl
  | loadBalanced => rfl

/-- Spelling out every default changes nothing. -/
theorem compile_spelledOut (workload : Workload) (app environment : String) (settings : Settings)
    (fresh : UniqueSuffix) :
    compile workload.spelledOut app environment (settings.spelledOut workload) fresh =
      compile workload app environment settings fresh := by
  have sameKind : workload.spelledOut.kind = workload.kind := rfl
  rw [compile, compile, Plan.of_spelledOut, bind_map, sameKind]
  cases planned : Plan.of workload app environment settings with
  | error fault => rfl
  | ok plan =>
      have ported : plan.task.port = plan.workload.image.port := by
        obtain ⟨-, task, made, rfl⟩ := Plan.of_eq_ok planned
        exact Task.ofWorkload_port made
      rw [ok_bind, ok_bind, planParameters_spelledOut ported]
      refine bind_congr fun parameters => ?_
      cases workload.kind with
      | backend =>
          have template := backendTemplate_spelledOut plan parameters
          exact congrArg Except.ok (Stack.ext rfl template rfl rfl rfl)
      | loadBalanced =>
          refine bind_congr fun suffix => ?_
          rw [Routing.of_spelledOut ported, bind_map]
          refine bind_congr fun routing => ?_
          have template := loadBalancedTemplate_spelledOut plan routing suffix parameters
          exact congrArg Except.ok (Stack.ext rfl template rfl rfl rfl)

end

end Stackwright
