import Stackwright.Proofs.Stack.Compiled

/-!
What stacks hold: the resources by their ids, and the values of the parameters by their keys.
-/

namespace Stackwright

variable {stack : Stack}

def Stack.value? (stack : Stack) (name : String) : Option String :=
  (stack.parameters.find? fun parameter => parameter.key = name).map Parameter.value

theorem Parameters.find?_toList (parameters : Parameters) (name : String) :
    (parameters.toList.find? fun parameter => parameter.key = name).map Parameter.value =
      (parameters.get? name).map ParameterValue.value := by
  rw [Parameters.toList, Dict.get?]
  induction parameters.entries with
  | nil => rfl
  | cons entry rest ih =>
      rw [List.map_cons, List.find?_cons, findEntry]
      by_cases same : name = entry.1
      · simp [same]
      · simp only [same, Ne.symm same, decide_false, if_false]
        exact ih

section

variable {values : List (ParameterKey × ParameterValue)} {key : ParameterKey}
  {value : ParameterValue}

theorem Parameters.get?_of (distinct : (values.map fun v => v.1.text).Nodup)
    (member : (key, value) ∈ values) : (Parameters.of values).get? key.text = some value := by
  apply findEntry_sortEntries_of_mem
  · rw [List.map_map]
    exact distinct
  · exact List.mem_map.mpr ⟨(key, value), member, rfl⟩

/-- Each of the values is handed over once, and no others are. -/
theorem Parameters.toList_perm (distinct : (values.map fun v => v.1.text).Nodup) :
    (Parameters.of values).toList.Perm
      (values.map fun v => Parameter.mk v.1.text v.2.value) := by
  have keys : ((values.map fun v => (v.1.text, v.2)).map Prod.fst).Nodup := by
    rw [List.map_map]
    exact distinct
  have handed := (perm_sortEntries keys).map fun entry => Parameter.mk entry.1 entry.2.value
  rw [List.map_map] at handed
  exact handed

theorem Stack.value?_of (made : stack.parameters = (Parameters.of values).toList)
    (distinct : (values.map fun v => v.1.text).Nodup) (member : (key, value) ∈ values) :
    stack.value? key.text = some value.value := by
  rw [Stack.value?, made, Parameters.find?_toList, Parameters.get?_of distinct member]
  rfl

theorem Parameters.mem_of_declared {name : String}
    (declared : ((Parameters.of values).declarations.get? name).isSome) :
    ∃ key ∈ values.map Prod.fst, name = key.text := by
  rw [Parameters.declarations, Dict.get?_map, Option.isSome_map] at declared
  obtain ⟨value, found⟩ := Option.isSome_iff_exists.mp declared
  obtain ⟨entry, present, same⟩ := List.mem_map.mp (mem_of_mem_sortEntries (mem_of_findEntry found))
  cases same
  exact ⟨entry.1, List.mem_map_of_mem present, rfl⟩

theorem Parameters.declared_of (distinct : (values.map fun v => v.1.text).Nodup)
    (member : key ∈ values.map Prod.fst) :
    ((Parameters.of values).declarations.get? key.text).isSome := by
  obtain ⟨entry, present, rfl⟩ := List.mem_map.mp member
  rw [Parameters.declarations, Dict.get?_map, Parameters.get?_of distinct present]
  rfl

end

section

variable {resources : List (Role × Resource)} {role : Role} {resource : Resource}

theorem get?_resourcesById (distinct : (resources.map fun r => r.1.id).Nodup)
    (member : (role, resource) ∈ resources) :
    (resourcesById resources).get? role.id = some resource := by
  apply findEntry_sortEntries_of_mem
  · rw [List.map_map]
    exact distinct
  · exact List.mem_map.mpr ⟨(role, resource), member, rfl⟩

theorem mem_of_get?_resourcesById {id : String}
    (found : (resourcesById resources).get? id = some resource) :
    ∃ role, (role, resource) ∈ resources ∧ id = role.id := by
  obtain ⟨entry, present, same⟩ := List.mem_map.mp (mem_of_mem_sortEntries (mem_of_findEntry found))
  cases same
  exact ⟨entry.1, present, rfl⟩

theorem isSome_get?_resourcesById (distinct : (resources.map fun r => r.1.id).Nodup) {id : String} :
    ((resourcesById resources).get? id).isSome ↔ id ∈ (resources.map Prod.fst).map Role.id := by
  rw [List.map_map, List.mem_map]
  constructor
  · intro held
    obtain ⟨resource, found⟩ := Option.isSome_iff_exists.mp held
    obtain ⟨role, member, rfl⟩ := mem_of_get?_resourcesById found
    exact ⟨_, member, rfl⟩
  · rintro ⟨entry, member, rfl⟩
    rw [Function.comp_apply, get?_resourcesById distinct member]
    rfl

end

def baseKeys : List ParameterKey :=
  [.appName, .envName, .workloadName, .containerImage, .containerPort, .taskCpu, .taskMemory,
   .taskCount, .logRetention, .addonsTemplateUrl]

def routingKeys : List ParameterKey :=
  [.targetContainer, .targetPort, .httpsEnabled, .rulePath, .healthCheckPath, .stickiness, .aliases]

/-- The parts by which a stack starts and stops tasks of its own accord. -/
def scalingRoles : List Role := [.scalingTarget, .scalingCpuPolicy, .scalingMemoryPolicy]

def Kind.roles : Kind → List Role
  | .backend =>
    [.logGroup, .executionRole, .taskRole, .taskDefinition, .discoveryService, .service,
     .addonsStack]
  | .loadBalanced =>
    [.logGroup, .executionRole, .taskRole, .taskDefinition, .discoveryService, .targetGroup,
     .envControllerRole, .envControllerFunction, .envControllerAction, .rulePriorityRole,
     .rulePriorityFunction, .rulePriorityAction, .httpListenerRule, .httpsListenerRule,
     .httpRedirectRule, .listenerRuleWaitHandle, .service, .addonsStack]

theorem Kind.roles_distinct (kind : Kind) : ((kind.roles ++ scalingRoles).map Role.id).Nodup := by
  cases kind <;> decide +kernel

theorem scalingResources_roles (plan : Plan) :
    ((scalingResources plan).map Prod.fst).Sublist scalingRoles := by
  rw [scalingResources]
  cases plan.task.scaling with
  | none => exact List.nil_sublist _
  | some range =>
      simp only
      cases range.cpuTarget <;> cases range.memoryPercentage <;> simp [scalingRoles]

theorem distinct_of_roles {kind : Kind} {plan : Plan} {parts : List (Role × Resource)}
    (roles : parts.map Prod.fst = kind.roles) :
    ((parts ++ scalingResources plan).map fun r => r.1.id).Nodup := by
  have among : ((parts ++ scalingResources plan).map Prod.fst).Sublist
      (kind.roles ++ scalingRoles) := by
    rw [List.map_append, roles]
    exact (scalingResources_roles plan).append_left _
  have ids := among.map Role.id
  rw [List.map_map] at ids
  exact ids.nodup kind.roles_distinct

def backendResources (plan : Plan) : List (Role × Resource) :=
  taskResources plan
  ++ [(.service, { type := "AWS::ECS::Service", properties := .record (serviceProperties plan) }),
      (.addonsStack, addonsStack)]
  ++ scalingResources plan

def loadBalancedResources (plan : Plan) (routing : Routing) (suffix : UniqueSuffix) :
    List (Role × Resource) :=
  taskResources plan
  ++ [(.targetGroup, targetGroup routing)]
  ++ envControllerResources plan suffix
  ++ rulePriorityResources plan suffix
  ++ listenerRules
  ++ [(.service, routedService plan routing),
      (.addonsStack, addonsStack)]
  ++ scalingResources plan

theorem backendResources_distinct (plan : Plan) :
    ((backendResources plan).map fun r => r.1.id).Nodup := by
  rw [backendResources]
  exact distinct_of_roles (show _ = Kind.backend.roles from rfl)

theorem loadBalancedResources_distinct (plan : Plan) (routing : Routing) (suffix : UniqueSuffix) :
    ((loadBalancedResources plan routing suffix).map fun r => r.1.id).Nodup := by
  rw [loadBalancedResources]
  exact distinct_of_roles (show _ = Kind.loadBalanced.roles from rfl)

theorem baseKeys_distinct : (baseKeys.map ParameterKey.text).Nodup := by decide +kernel

theorem allKeys_distinct : ((baseKeys ++ routingKeys).map ParameterKey.text).Nodup := by
  decide +kernel

section

variable (plan : Plan) (routing : Routing) (suffix : UniqueSuffix)

theorem backend_value {key : ParameterKey} {value : ParameterValue}
    (member : (key, value) ∈ baseParameters plan) :
    (backendStack plan).value? key.text = some value.value :=
  Stack.value?_of rfl baseKeys_distinct member

theorem loadBalanced_resources : (loadBalancedStack plan routing suffix).template.resources =
    resourcesById (loadBalancedResources plan routing suffix) := rfl

theorem backend_resource {role : Role} {resource : Resource} (index : Nat)
    (there : (backendResources plan)[index]? = some (role, resource)) :
    (backendStack plan).template.resources.get? role.id = some resource :=
  get?_resourcesById (backendResources_distinct plan) (List.mem_of_getElem? there)

/-- A resource is found by the id of its role; `index` is where it stands. -/
theorem loadBalanced_resource {role : Role} {resource : Resource} (index : Nat)
    (there : (loadBalancedResources plan routing suffix)[index]? = some (role, resource)) :
    (loadBalancedStack plan routing suffix).template.resources.get? role.id = some resource := by
  rw [loadBalanced_resources]
  exact get?_resourcesById (loadBalancedResources_distinct plan routing suffix)
    (List.mem_of_getElem? there)

theorem parameters_distinct :
    ((baseParameters plan ++ routingParameters plan routing).map fun v => v.1.text).Nodup := by
  have keys : (baseParameters plan ++ routingParameters plan routing).map Prod.fst =
      baseKeys ++ routingKeys := rfl
  have distinct := allKeys_distinct
  rw [← keys, List.map_map] at distinct
  exact distinct

theorem loadBalanced_parameters : (loadBalancedStack plan routing suffix).parameters =
    (Parameters.of (baseParameters plan ++ routingParameters plan routing)).toList := by
  rw [loadBalancedStack]

theorem loadBalanced_value (key : ParameterKey) {value : ParameterValue}
    (given : (baseParameters plan ++ routingParameters plan routing).lookup key = some value) :
    (loadBalancedStack plan routing suffix).value? key.text = some value.value := by
  have member : (key, value) ∈ baseParameters plan ++ routingParameters plan routing := by
    obtain ⟨before, after, split, _⟩ := List.lookup_eq_some_iff.mp given
    rw [split]
    exact List.mem_append_right before List.mem_cons_self
  exact Stack.value?_of (loadBalanced_parameters plan routing suffix)
    (parameters_distinct plan routing) member

end

section

variable {workload : Workload} {app environment : String} {settings : Settings}
  {fresh : UniqueSuffix}

/-- What stacks of every kind are made with: the resources of the task, others that the kind
decides on, those that scale, and the parameters that tell which task it is. -/
theorem compile_holds (compiled : compile workload app environment settings fresh = .ok stack) :
    ∃ plan others, Plan.of workload app environment settings = .ok plan ∧
      (taskResources plan ++ others).map Prod.fst = workload.kind.roles ∧
      stack.template.resources =
        resourcesById (taskResources plan ++ others ++ scalingResources plan) ∧
      ∀ key value, (key, value) ∈ baseParameters plan → stack.value? key.text = some value.value := by
  cases kind : workload.kind with
  | backend =>
      obtain ⟨plan, planned, rfl⟩ := compile_backend kind compiled
      exact ⟨plan, _, planned, rfl, rfl, fun _ _ => backend_value plan⟩
  | loadBalanced =>
      obtain ⟨plan, routing, suffix, planned, _, _, rfl⟩ := compile_loadBalanced kind compiled
      refine ⟨plan, [(.targetGroup, targetGroup routing)] ++ envControllerResources plan suffix
        ++ rulePriorityResources plan suffix ++ listenerRules
        ++ [(.service, routedService plan routing), (.addonsStack, addonsStack)], planned, rfl, ?_, ?_⟩
      · rw [loadBalanced_resources]
        rfl
      · intro key value member
        exact Stack.value?_of (loadBalanced_parameters plan routing suffix)
          (parameters_distinct plan routing) (List.mem_append_left _ member)

/-- The stack has the resources of the planned task, and the values of the parameters that tell
which task it is. -/
structure Stack.HoldsTask (stack : Stack) (plan : Plan) : Prop where
  held : ∀ role resource, (role, resource) ∈ taskResources plan →
    stack.template.resources.get? role.id = some resource
  valued : ∀ key value, (key, value) ∈ baseParameters plan → stack.value? key.text = some value.value

theorem compile_holdsTask (compiled : compile workload app environment settings fresh = .ok stack) :
    ∃ plan, Plan.of workload app environment settings = .ok plan ∧ stack.HoldsTask plan := by
  obtain ⟨plan, others, planned, roles, held, valued⟩ := compile_holds compiled
  refine ⟨plan, planned, ?_, valued⟩
  intro role resource member
  rw [held]
  apply get?_resourcesById (distinct_of_roles roles)
  exact List.mem_append_left _ (List.mem_append_left _ member)

end

end Stackwright
