import Stackwright.Proofs.Stack.Change
import Stackwright.Proofs.Workload.Minimal

/-!
What a template is made from. The settings that a stack is handed as values of parameters leave no
trace in its template: the template is made from the outline, in which they are left out.
-/

namespace Stackwright

section Outlines

def Image.outline (image : Image) : Image := ⟨none, image.port.map fun _ => 0⟩

def Count.outline : Count → Count
  | .fixed _ => .fixed 0
  | .scaled settings => .scaled settings

def HealthCheck.outline (check : HealthCheck) : HealthCheck := { check with path := none }

def Http.outline (http : Http) : Http where
  path := none
  healthCheck := some (.full
    ((http.healthCheck.map HealthCheckSetting.settings).getD {}).outline)
  deregistrationDelay := http.deregistrationDelay
  stickiness := none
  targetContainer := none
  targetPort := none
  aliases := none

/-- The workload without all that its stack is handed as values of parameters, and without the
fragments for its environments. -/
def Workload.outline (workload : Workload) : Workload :=
  { workload with
    image := workload.image.outline
    cpu := none
    memory := none
    count := workload.count.map Count.outline
    http := workload.http.map Http.outline
    environments := .empty }

/-- The settings without what a stack is handed as values of parameters. The suffix is left out as
well; which one a stack is given is told by the stack. -/
def Settings.outline (settings : Settings) : Settings :=
  { settings with
    image := none
    addonsTemplateUrl := none
    httpsListener := false
    uniqueSuffix := none
    logRetentionDays := 0 }

def Task.outline (task : Task) : Task where
  image := ""
  port := task.port.map fun _ => 0
  cpu := 0
  memory := 0
  desiredCount := 0
  scaling := task.scaling

def Plan.outline (plan : Plan) : Plan :=
  { plan with
    workload := plan.workload.outline
    settings := plan.settings.outline
    task := plan.task.outline }

def Routing.outline (routing : Routing) : Routing where
  http := routing.http.outline
  path := ""
  targetContainer := ""
  targetPort := 0
  aliases := []
  healthCheck := routing.healthCheck.outline

end Outlines

section

variable (plan : Plan) (routing : Routing) (suffix : UniqueSuffix)

theorem outline_port_isSome : plan.outline.task.port.isSome = plan.task.port.isSome :=
  Option.isSome_map

theorem mainContainer_outline : mainContainer plan.outline = mainContainer plan := by
  rw [mainContainer, mainContainer, outline_port_isSome]
  rfl

theorem taskDefinition_outline : taskDefinition plan.outline = taskDefinition plan := by
  rw [taskDefinition, taskDefinition, mainContainer_outline]
  rfl

theorem discoveryService_outline : discoveryService plan.outline = discoveryService plan := by
  rw [discoveryService, discoveryService, outline_port_isSome]

theorem taskResources_outline : taskResources plan.outline = taskResources plan := by
  rw [taskResources, taskResources, taskDefinition_outline, discoveryService_outline]
  rfl

theorem serviceProperties_outline : serviceProperties plan.outline = serviceProperties plan := by
  have registry : serviceRegistry plan.outline = serviceRegistry plan := by
    rw [serviceRegistry, serviceRegistry, outline_port_isSome]
  rw [serviceProperties, serviceProperties, registry]
  rfl

theorem routedService_outline :
    routedService plan.outline routing.outline = routedService plan routing := by
  rw [routedService, routedService, serviceProperties_outline]
  rfl

theorem backendResources_outline : backendResources plan.outline = backendResources plan := by
  rw [backendResources, backendResources, taskResources_outline, serviceProperties_outline]
  rfl

theorem loadBalancedResources_outline :
    loadBalancedResources plan.outline routing.outline suffix =
      loadBalancedResources plan routing suffix := by
  rw [loadBalancedResources, loadBalancedResources, taskResources_outline, routedService_outline]
  rfl

theorem backendTemplate_outline (parameters : Parameters) :
    backendTemplate plan.outline parameters = backendTemplate plan parameters := by
  have resources := congrArg resourcesById (backendResources_outline plan)
  exact Template.ext rfl rfl rfl rfl resources rfl

theorem backendTemplate_declared {parameters others : Parameters}
    (declared : parameters.declarations = others.declarations) :
    backendTemplate plan parameters = backendTemplate plan others :=
  Template.ext rfl rfl declared rfl rfl rfl

theorem loadBalancedTemplate_declared {parameters others : Parameters}
    (declared : parameters.declarations = others.declarations) :
    loadBalancedTemplate plan routing parameters suffix =
      loadBalancedTemplate plan routing others suffix :=
  Template.ext rfl rfl declared rfl rfl rfl

theorem loadBalancedTemplate_outline (parameters : Parameters) :
    loadBalancedTemplate plan.outline routing.outline parameters suffix =
      loadBalancedTemplate plan routing parameters suffix := by
  have resources := congrArg resourcesById (loadBalancedResources_outline plan routing suffix)
  exact Template.ext rfl rfl rfl rfl resources rfl

end

theorem declarations_without_values (values : List (ParameterKey × ParameterValue)) :
    (Parameters.of values).declarations =
      (Parameters.of (values.map fun v => (v.1, ⟨v.2.kind, ""⟩))).declarations := by
  simp only [Parameters.declarations, Parameters.of, Dict.map_ofList, List.map_map]
  rfl

/-- A template declares the keys and the kinds of parameters, but not their values. -/
theorem declarations_of_kinds {values others : List (ParameterKey × ParameterValue)}
    (alike : values.map (fun v => (v.1, v.2.kind)) = others.map (fun v => (v.1, v.2.kind))) :
    (Parameters.of values).declarations = (Parameters.of others).declarations := by
  have unvalued := congrArg
    (List.map fun k => (k.1, (⟨k.2, ""⟩ : ParameterValue))) alike
  rw [List.map_map, List.map_map] at unvalued
  rw [declarations_without_values values, declarations_without_values others]
  exact congrArg (fun vs => (Parameters.of vs).declarations) unvalued

theorem baseParameters_kinds (plan : Plan) :
    (baseParameters plan).map (fun v => (v.1, v.2.kind)) =
      [(.appName, .text), (.envName, .text), (.workloadName, .text), (.containerImage, .text),
       (.containerPort, .number), (.taskCpu, .number), (.taskMemory, .number),
       (.taskCount, .number), (.logRetention, .number), (.addonsTemplateUrl, .text)] := rfl

theorem routingParameters_kinds (plan : Plan) (routing : Routing) :
    (routingParameters plan routing).map (fun v => (v.1, v.2.kind)) =
      [(.targetContainer, .text), (.targetPort, .number), (.httpsEnabled, .text),
       (.rulePath, .text), (.healthCheckPath, .text), (.stickiness, .text),
       (.aliases, .text)] := rfl

theorem keys_toList (parameters : Parameters) :
    parameters.toList.map Parameter.key = parameters.declarations.keys := by
  simp [Parameters.toList, Parameters.declarations, Dict.keys, Dict.map, Dict.mapEntries]

def Count.scaling? : Count → Option ScalingRange
  | .fixed _ => none
  | .scaled settings =>
    (readRange? settings.range).map fun bounds =>
      ⟨bounds.1, bounds.2, settings.cpuPercentage, settings.memoryPercentage⟩

section

variable {workload : Workload} {app environment : String} {settings : Settings} {task : Task}
  {plan : Plan}

theorem readRange_eq_ok {text : String} {bounds : UInt32 × UInt32} :
    readRange text = .ok bounds ↔ readRange? text = some bounds := by
  rw [readRange]
  cases readRange? text <;> simp

theorem Task.ofWorkload_count (made : Task.ofWorkload workload settings = .ok task) :
    (∃ tasks, workload.count = some (.fixed tasks) ∧ task.desiredCount = tasks ∧
      task.scaling = none) ∨
    ∃ scaling least greatest, workload.count = some (.scaled scaling) ∧
      readRange scaling.range = .ok (least, greatest) ∧ task.desiredCount = least ∧
      task.scaling =
        some ⟨least, greatest, scaling.cpuPercentage, scaling.memoryPercentage⟩ := by
  simp only [Task.ofWorkload, bind_eq_ok] at made
  obtain ⟨_, _, _, _, _, _, count, counted, built⟩ := made
  have asked := require_eq_ok.mp counted
  cases count with
  | fixed tasks =>
      cases built
      exact .inl ⟨tasks, asked, rfl, rfl⟩
  | scaled scaling =>
      obtain ⟨bounds, ranged, built⟩ := bind_eq_ok.mp built
      cases built
      exact .inr ⟨scaling, bounds.1, bounds.2, asked, ranged, rfl, rfl⟩

theorem Task.ofWorkload_scaling (made : Task.ofWorkload workload settings = .ok task) :
    task.scaling = workload.count.bind Count.scaling? := by
  rcases Task.ofWorkload_count made with
    ⟨tasks, asked, _, unscaled⟩ | ⟨scaling, least, greatest, asked, ranged, _, scaled⟩
  · rw [unscaled, asked]
    rfl
  · rw [scaled, asked, Option.bind_some, Count.scaling?, readRange_eq_ok.mp ranged]
    rfl

theorem Plan.of_outline (planned : Plan.of workload app environment settings = .ok plan) :
    plan.outline = ⟨workload.outline, app, environment, settings.outline,
      ⟨"", workload.outline.image.port, 0, 0, 0, workload.outline.count.bind Count.scaling?⟩⟩ := by
  obtain ⟨_, task, made, rfl⟩ := Plan.of_eq_ok planned
  have scaling : workload.outline.count.bind Count.scaling? = task.scaling := by
    rw [Task.ofWorkload_scaling made]
    rcases Option.eq_none_or_eq_some workload.count with counted | ⟨count, counted⟩
    · simp [Workload.outline, counted]
    · cases count <;> simp [Workload.outline, counted, Count.outline, Count.scaling?]
  rw [scaling, Plan.outline, Task.outline, Task.ofWorkload_port made]
  rfl

theorem Routing.outline_eq {first second : Plan} {routing other : Routing}
    (same : first.workload.outline = second.workload.outline)
    (routed : Routing.of first = .ok routing) (routedToo : Routing.of second = .ok other) :
    routing.outline = other.outline := by
  obtain ⟨http, _, _, _, exposed, _, _, _, _, rfl⟩ := Routing.of_eq_ok_iff.mp routed
  obtain ⟨http', _, _, _, exposedToo, _, _, _, _, rfl⟩ := Routing.of_eq_ok_iff.mp routedToo
  have sameExposure : first.workload.http.map Http.outline =
      second.workload.http.map Http.outline := congrArg Workload.http same
  rw [exposed, exposedToo] at sameExposure
  have sameHttp : http.outline = http'.outline := Option.some.inj sameExposure
  have sameSetting : http.outline.healthCheck = http'.outline.healthCheck :=
    congrArg Http.healthCheck sameHttp
  have sameCheck := HealthCheckSetting.full.inj (Option.some.inj sameSetting)
  simp only [Routing.outline, sameHttp, sameCheck]

end

section

variable {plan other : Plan} {routing otherRouting : Routing} (suffix : UniqueSuffix)

theorem backendTemplate_of_outline (same : plan.outline = other.outline) :
    backendTemplate other (.of (baseParameters other)) =
      backendTemplate plan (.of (baseParameters plan)) := by
  have declared : (Parameters.of (baseParameters other)).declarations =
      (Parameters.of (baseParameters plan)).declarations := by
    apply declarations_of_kinds
    rw [baseParameters_kinds, baseParameters_kinds]
  generalize Parameters.of (baseParameters other) = others at declared
  generalize Parameters.of (baseParameters plan) = parameters at declared
  calc
    backendTemplate other others = backendTemplate other parameters :=
      backendTemplate_declared other declared
    _ = backendTemplate other.outline parameters :=
      (backendTemplate_outline other parameters).symm
    _ = backendTemplate plan.outline parameters := by rw [same]
    _ = backendTemplate plan parameters := backendTemplate_outline plan parameters

theorem loadBalancedTemplate_of_outline (same : plan.outline = other.outline)
    (sameRouting : routing.outline = otherRouting.outline) :
    loadBalancedTemplate other otherRouting
        (.of (baseParameters other ++ routingParameters other otherRouting)) suffix =
      loadBalancedTemplate plan routing
        (.of (baseParameters plan ++ routingParameters plan routing)) suffix := by
  have declared :
      (Parameters.of (baseParameters other ++ routingParameters other otherRouting)).declarations =
        (Parameters.of (baseParameters plan ++ routingParameters plan routing)).declarations := by
    apply declarations_of_kinds
    rw [List.map_append, List.map_append, baseParameters_kinds, baseParameters_kinds,
      routingParameters_kinds, routingParameters_kinds]
  generalize Parameters.of (baseParameters other ++ routingParameters other otherRouting) = others
    at declared
  generalize Parameters.of (baseParameters plan ++ routingParameters plan routing) = parameters
    at declared
  calc
    loadBalancedTemplate other otherRouting others suffix =
        loadBalancedTemplate other otherRouting parameters suffix :=
      loadBalancedTemplate_declared other otherRouting suffix declared
    _ = loadBalancedTemplate other.outline otherRouting.outline parameters suffix :=
      (loadBalancedTemplate_outline other otherRouting suffix parameters).symm
    _ = loadBalancedTemplate plan.outline routing.outline parameters suffix := by
      rw [same, sameRouting]
    _ = loadBalancedTemplate plan routing parameters suffix :=
      loadBalancedTemplate_outline plan routing suffix parameters

theorem Plan.names_of_outline (same : plan.outline = other.outline) : other.names = plan.names := by
  show other.outline.names = plan.outline.names
  rw [same]

theorem Plan.tags_of_outline (same : plan.outline = other.outline) : other.tags = plan.tags := by
  show other.outline.tags = plan.outline.tags
  rw [same]

end

section

variable {workload other : Workload} {app environment : String} {settings others : Settings}
  {fresh freshToo : UniqueSuffix} {first second : Stack}

theorem compile_keys (compiled : compile workload app environment settings fresh = .ok first) :
    first.parameters.map Parameter.key = first.template.parameters.keys := by
  cases kind : workload.kind with
  | backend =>
      obtain ⟨plan, _, rfl⟩ := compile_backend kind compiled
      simp only [backendStack, backendTemplate, keys_toList]
  | loadBalanced =>
      obtain ⟨plan, routing, suffix, _, _, _, rfl⟩ := compile_loadBalanced kind compiled
      simp only [loadBalancedStack, loadBalancedTemplate, keys_toList]

theorem Stack.eq_withParameters (name : second.name = first.name)
    (template : second.template = first.template)
    (uniqueSuffix : second.uniqueSuffix = first.uniqueSuffix) (tags : second.tags = first.tags) :
    second = { first with parameters := second.parameters } :=
  Stack.ext name template rfl uniqueSuffix tags

theorem compile_of_outline (sameWorkload : workload.outline = other.outline)
    (sameSettings : settings.outline = others.outline)
    (compiled : compile workload app environment settings fresh = .ok first)
    (compiledToo : compile other app environment others freshToo = .ok second)
    (sameSuffix : first.uniqueSuffix = second.uniqueSuffix) :
    second = { first with parameters := second.parameters } := by
  have sameKind : workload.kind = other.kind := by
    show workload.outline.kind = other.outline.kind
    rw [sameWorkload]
  have samePlan : ∀ {plan planToo}, Plan.of workload app environment settings = .ok plan →
      Plan.of other app environment others = .ok planToo → plan.outline = planToo.outline := by
    intro plan planToo planned plannedToo
    rw [Plan.of_outline planned, Plan.of_outline plannedToo, sameWorkload, sameSettings]
  cases kind : workload.kind with
  | backend =>
      obtain ⟨plan, planned, rfl⟩ := compile_backend kind compiled
      obtain ⟨planToo, plannedToo, rfl⟩ := compile_backend (sameKind ▸ kind) compiledToo
      have same := samePlan planned plannedToo
      exact Stack.eq_withParameters (congrArg StackNames.stack (Plan.names_of_outline same))
        (backendTemplate_of_outline same) rfl (Plan.tags_of_outline same)
  | loadBalanced =>
      obtain ⟨plan, routing, suffix, planned, routed, _, rfl⟩ := compile_loadBalanced kind compiled
      obtain ⟨planToo, routingToo, suffixToo, plannedToo, routedToo, _, rfl⟩ :=
        compile_loadBalanced (sameKind ▸ kind) compiledToo
      have same := samePlan planned plannedToo
      have sameRouting : routing.outline = routingToo.outline :=
        Routing.outline_eq (congrArg Plan.workload same) routed routedToo
      cases sameSuffix
      exact Stack.eq_withParameters (congrArg StackNames.stack (Plan.names_of_outline same))
        (loadBalancedTemplate_of_outline suffix same sameRouting) rfl
        (Plan.tags_of_outline same)

/-- Stacks with one suffix that are made from workloads and from settings of the same outlines have
one template. They differ in the values of their parameters alone. -/
theorem stack_of_outline (sameWorkload : workload.outline = other.outline)
    (sameSettings : settings.outline = others.outline)
    (compiled : compile workload app environment settings fresh = .ok first)
    (compiledToo : compile other app environment others freshToo = .ok second)
    (sameSuffix : first.uniqueSuffix = second.uniqueSuffix) :
    first.template = second.template ∧
    first.parameters.map Parameter.key = second.parameters.map Parameter.key ∧
    second = { first with parameters := second.parameters } := by
  have differs := compile_of_outline sameWorkload sameSettings compiled compiledToo sameSuffix
  have sameTemplate : first.template = second.template := (congrArg Stack.template differs).symm
  refine ⟨sameTemplate, ?_, differs⟩
  rw [compile_keys compiled, compile_keys compiledToo, sameTemplate]

end

def Workload.servedOtherwise (name : String) : Workload :=
  { runnable name .loadBalanced with
    image := ⟨some "httpd", some 8080⟩
    cpu := some 1024
    memory := some 2048
    count := some (.fixed 3)
    http := some
      { path := some "/shop"
        healthCheck := some (.path "/health")
        deregistrationDelay := none
        stickiness := some true
        targetContainer := some name
        targetPort := some 9000
        aliases := some ["shop.example.com"] }
    environments := .ofList [("test", .null)] }

theorem stack_of_outline_served : ∃ first second,
    compile (.served "api") "shop" "test" {} ⟨"s1", by decide, by decide, by decide⟩ = .ok first ∧
      compile (.servedOtherwise "api") "shop" "test"
        { httpsListener := true, logRetentionDays := 7, addonsTemplateUrl := some "s3://addons" }
        ⟨"s1", by decide, by decide, by decide⟩ = .ok second ∧
      first.template = second.template := by
  obtain ⟨first, compiled, suffixed⟩ : ∃ stack,
      compile (.served "api") "shop" "test" {} ⟨"s1", by decide, by decide, by decide⟩ = .ok stack ∧
        stack.uniqueSuffix = some ⟨"s1", by decide, by decide, by decide⟩ := ⟨_, rfl, rfl⟩
  obtain ⟨second, compiledToo, suffixedToo⟩ : ∃ stack,
      compile (.servedOtherwise "api") "shop" "test"
          { httpsListener := true, logRetentionDays := 7, addonsTemplateUrl := some "s3://addons" }
          ⟨"s1", by decide, by decide, by decide⟩ = .ok stack ∧
        stack.uniqueSuffix = some ⟨"s1", by decide, by decide, by decide⟩ := ⟨_, rfl, rfl⟩
  have sameWorkload : (Workload.served "api").outline =
      (Workload.servedOtherwise "api").outline := rfl
  have sameSettings : ({} : Settings).outline = Settings.outline
      { httpsListener := true, logRetentionDays := 7, addonsTemplateUrl := some "s3://addons" } :=
    rfl
  have sameSuffix := suffixed.trans suffixedToo.symm
  exact ⟨first, second, compiled, compiledToo,
    (stack_of_outline sameWorkload sameSettings compiled compiledToo sameSuffix).1⟩

end Stackwright
