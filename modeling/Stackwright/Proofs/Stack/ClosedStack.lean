import Stackwright.Proofs.Stack.RoutingReferences
import Stackwright.Proofs.Workload.Minimal

/-!
Every stack that is compiled is closed under the values of its own parameters.
-/

namespace Stackwright

section

variable {template : Template} {value? : String → Option String}
  {resources : List (Role × Resource)} {role : Role} {resource : Resource}
  {conditions : List (String × Expr)} {name : String} {condition : Expr}

theorem survives_of_held (index : Nat) (held : template.resources = resourcesById resources)
    (distinct : (resources.map fun r => r.1.id).Nodup)
    (there : resources[index]? = some (role, resource))
    (kept : ∀ name, resource.condition = some name → template.decides value? name ≠ some false) :
    template.Survives value? role.id := by
  refine ⟨resource, ?_, kept⟩
  rw [held]
  exact get?_resourcesById distinct (List.mem_of_getElem? there)

theorem condition_of_mem (held : template.conditions = .ofList conditions)
    (distinct : (conditions.map Prod.fst).Nodup) (member : (name, condition) ∈ conditions) :
    template.conditions.get? name = some condition := by
  rw [held]
  exact findEntry_sortEntries_of_mem distinct member

theorem decides_of_mem (held : template.conditions = .ofList conditions)
    (distinct : (conditions.map Prod.fst).Nodup) (member : (name, condition) ∈ conditions) :
    template.decides value? name = condition.holds? value? := by
  rw [Template.decides, condition_of_mem held distinct member]
  rfl

theorem isGiven_holds {key : ParameterKey} {value : String}
    (valued : value? key.text = some value) :
    (isGiven key).holds? value? = some (!decide (value = "")) := by
  simp [isGiven, Expr.holds?, ParameterKey.ref, Expr.evaluate?, valued]

theorem equals_holds {key : ParameterKey} {value : String} (text : String)
    (valued : value? key.text = some value) :
    (Expr.equals key.ref (.text text)).holds? value? = some (decide (value = text)) := by
  simp [Expr.holds?, ParameterKey.ref, Expr.evaluate?, valued]

end

/-- What can be named in a stack, with its own values of the parameters. -/
abbrev Stack.scope (stack : Stack) : Scope := stack.template.scope stack.value?

section Backend

variable (plan : Plan)

theorem backend_survives (index : Nat) {role : Role} {resource : Resource}
    (there : (backendResources plan)[index]? = some (role, resource))
    (unconditional : resource.condition = none) :
    (backendStack plan).scope.survives role.id := by
  apply survives_of_held index rfl (backendResources_distinct plan) there
  simp [unconditional]

theorem backend_runs : (backendStack plan).scope.Runs where
  declares key member := Parameters.declared_of baseKeys_distinct member
  keeps role member := by
    simp only [taskRoles, List.mem_cons, List.not_mem_nil, or_false] at member
    rcases member with rfl | rfl | rfl | rfl | rfl | rfl
    · exact backend_survives plan 0 rfl rfl
    · exact backend_survives plan 1 rfl rfl
    · exact backend_survives plan 2 rfl rfl
    · exact backend_survives plan 3 rfl rfl
    · exact backend_survives plan 4 rfl rfl
    · exact backend_survives plan 5 rfl rfl
  addons := rfl

theorem backend_keeps : ∀ resource ∈ backendResources plan,
    (backendStack plan).scope.Keeps (taskNeeds resource.1) := by
  intro resource member need needed
  rcases mem_of_taskNeeds needed with base | isTarget
  · exact (backend_runs plan).keeps need base
  · subst isTarget
    obtain ⟨range, isScaled⟩ := scaled_of_needs (by simp [taskResources, taskNeeds]) member needed
    have there : (backendResources plan)[7]? = some (.scalingTarget, scalingTarget range) := by
      simp [backendResources, taskResources, scalingResources, isScaled]
    exact backend_survives plan 7 there rfl

theorem backendResources_closed {scope : Scope} (declares : scope.Declares baseKeys)
    (addons : scope.defined hasAddons) :
    ∀ resource ∈ backendResources plan,
      scope.Keeps (taskNeeds resource.1) → resource.2.Closed scope := by
  intro resource member
  rcases List.mem_append.mp member with others | scaling
  · rcases List.mem_append.mp others with task | own
    · exact taskResources_closed declares plan resource task
    · simp only [List.mem_cons, List.not_mem_nil, or_false] at own
      rcases own with rfl | rfl
      · intro keeps
        have port := declares.parameter (show .containerPort ∈ baseKeys by decide)
        have sound := serviceProperties_sound declares.portless keeps plan fun _ => port
        exact closed_of_properties sound rfl rfl rfl
      · intro _
        exact addonsStack_closed declares addons
  · exact scalingResources_closed declares plan resource scaling

theorem backend_closed : (backendStack plan).template.Closed (backendStack plan).value? := by
  have runs := backend_runs plan
  have declares : (backendStack plan).scope.Declares baseKeys := runs.declares
  have addonsUrl := backend_value plan (List.mem_of_getElem? (i := 9) rfl)
  have onlyAddons : ∀ name condition,
      (backendStack plan).template.conditions.get? name = some condition →
        condition = isGiven .addonsTemplateUrl := by
    intro name condition found
    cases List.mem_singleton.mp (mem_of_mem_sortEntries (mem_of_findEntry found))
    rfl
  constructor
  · intro name condition found
    rw [onlyAddons name condition found, isGiven_holds addonsUrl]
    rfl
  · intro name condition found
    rw [onlyAddons name condition found]
    have sound := declares.parameter (show .addonsTemplateUrl ∈ baseKeys by decide)
    exact Expr.Sound.closed (by simp [isGiven, sound])
  · intro id resource found _
    obtain ⟨role, member, rfl⟩ := mem_of_get?_resourcesById found
    exact backendResources_closed plan declares runs.addons _ member (backend_keeps plan _ member)
  · intro name output found
    have member := mem_of_mem_sortEntries (mem_of_findEntry found)
    exact commonOutputs_closed declares (runs.keeps _ (by decide)) _ member

end Backend

section LoadBalanced

variable (plan : Plan) (routing : Routing) (suffix : UniqueSuffix)

theorem loadBalanced_survives (index : Nat) {role : Role} {resource : Resource}
    (there : (loadBalancedResources plan routing suffix)[index]? = some (role, resource))
    (unconditional : resource.condition = none) :
    (loadBalancedStack plan routing suffix).scope.survives role.id := by
  apply survives_of_held index (loadBalanced_resources plan routing suffix)
    (loadBalancedResources_distinct plan routing suffix) there
  simp [unconditional]

theorem loadBalanced_survives_under (index : Nat) {role : Role} {resource : Resource}
    {name : String}
    (there : (loadBalancedResources plan routing suffix)[index]? = some (role, resource))
    (named : resource.condition = some name)
    (holds : (loadBalancedStack plan routing suffix).scope.decides name = some true) :
    (loadBalancedStack plan routing suffix).scope.survives role.id := by
  apply survives_of_held index (loadBalanced_resources plan routing suffix)
    (loadBalancedResources_distinct plan routing suffix) there
  intro condition isCondition
  cases named.symm.trans isCondition
  show (loadBalancedStack plan routing suffix).scope.decides name ≠ some false
  simp [holds]

theorem conditions_distinct :
    (((hasAddons, isGiven .addonsTemplateUrl) :: routingConditions).map Prod.fst).Nodup := by
  decide +kernel

theorem loadBalanced_condition {name : String} {condition : Expr} (index : Nat)
    (there : ((hasAddons, isGiven .addonsTemplateUrl) :: routingConditions)[index]? =
      some (name, condition)) :
    (loadBalancedStack plan routing suffix).template.conditions.get? name = some condition :=
  condition_of_mem rfl conditions_distinct (List.mem_of_getElem? there)

theorem loadBalanced_decides {name : String} {condition : Expr} (index : Nat)
    (there : ((hasAddons, isGiven .addonsTemplateUrl) :: routingConditions)[index]? =
      some (name, condition)) :
    (loadBalancedStack plan routing suffix).scope.decides name =
      condition.holds? (loadBalancedStack plan routing suffix).value? :=
  decides_of_mem rfl conditions_distinct (List.mem_of_getElem? there)

theorem loadBalanced_defines {name : String} {condition : Expr} (index : Nat)
    (there : ((hasAddons, isGiven .addonsTemplateUrl) :: routingConditions)[index]? =
      some (name, condition)) :
    (loadBalancedStack plan routing suffix).scope.defined name := by
  show ((loadBalancedStack plan routing suffix).template.conditions.get? name).isSome
  rw [loadBalanced_condition plan routing suffix index there]
  rfl

theorem loadBalanced_decides_https :
    (loadBalancedStack plan routing suffix).scope.decides httpsToo =
      some plan.settings.httpsListener := by
  have valued := loadBalanced_value plan routing suffix .httpsEnabled rfl
  rw [loadBalanced_decides plan routing suffix 2 rfl, equals_holds "true" valued]
  cases plan.settings.httpsListener <;> decide

theorem loadBalanced_decides_http :
    (loadBalancedStack plan routing suffix).scope.decides httpOnly =
      some !plan.settings.httpsListener := by
  have valued := loadBalanced_value plan routing suffix .httpsEnabled rfl
  rw [loadBalanced_decides plan routing suffix 1 rfl, equals_holds "false" valued]
  cases plan.settings.httpsListener <;> decide

theorem loadBalanced_decides_root :
    (loadBalancedStack plan routing suffix).scope.decides isRootPath =
      some (decide (routing.path = "/")) := by
  have valued : (loadBalancedStack plan routing suffix).value? ParameterKey.rulePath.text =
      some routing.path := loadBalanced_value plan routing suffix .rulePath rfl
  rw [loadBalanced_decides plan routing suffix 3 rfl, equals_holds "/" valued]

theorem loadBalanced_decides_aliases :
    (loadBalancedStack plan routing suffix).scope.decides hasAliases =
      some !decide (",".intercalate routing.aliases = "") := by
  have valued : (loadBalancedStack plan routing suffix).value? ParameterKey.aliases.text =
      some (",".intercalate routing.aliases) := loadBalanced_value plan routing suffix .aliases rfl
  rw [loadBalanced_decides plan routing suffix 4 rfl, isGiven_holds valued]

theorem loadBalanced_runs : (loadBalancedStack plan routing suffix).scope.Runs where
  declares key member :=
    Parameters.declared_of allKeys_distinct (List.mem_append_left routingKeys member)
  keeps role member := by
    simp only [taskRoles, List.mem_cons, List.not_mem_nil, or_false] at member
    rcases member with rfl | rfl | rfl | rfl | rfl | rfl
    · exact loadBalanced_survives plan routing suffix 0 rfl rfl
    · exact loadBalanced_survives plan routing suffix 1 rfl rfl
    · exact loadBalanced_survives plan routing suffix 2 rfl rfl
    · exact loadBalanced_survives plan routing suffix 3 rfl rfl
    · exact loadBalanced_survives plan routing suffix 4 rfl rfl
    · exact loadBalanced_survives plan routing suffix 16 rfl rfl
  addons := loadBalanced_defines plan routing suffix 0 rfl

theorem loadBalanced_routes : (loadBalancedStack plan routing suffix).scope.Routes where
  toRuns := loadBalanced_runs plan routing suffix
  declaresRouting key member :=
    Parameters.declared_of allKeys_distinct (List.mem_append_right baseKeys member)
  -- the numbers are the places of the resources in `loadBalancedResources`
  keepsRouting role member := by
    simp only [routingRoles, List.mem_cons, List.not_mem_nil, or_false] at member
    rcases member with rfl | rfl | rfl | rfl | rfl | rfl | rfl | rfl
    · exact loadBalanced_survives plan routing suffix 5 rfl rfl
    · exact loadBalanced_survives plan routing suffix 15 rfl rfl
    · exact loadBalanced_survives plan routing suffix 9 rfl rfl
    · exact loadBalanced_survives plan routing suffix 10 rfl rfl
    · exact loadBalanced_survives plan routing suffix 11 rfl rfl
    · exact loadBalanced_survives plan routing suffix 6 rfl rfl
    · exact loadBalanced_survives plan routing suffix 7 rfl rfl
    · exact loadBalanced_survives plan routing suffix 8 rfl rfl
  ruleConditions name member := by
    simp only [List.mem_cons, List.not_mem_nil, or_false] at member
    rcases member with rfl | rfl
    · exact loadBalanced_defines plan routing suffix 1 rfl
    · exact loadBalanced_defines plan routing suffix 2 rfl
  rule := by
    refine ⟨plan.settings.httpsListener, loadBalanced_decides_https plan routing suffix, ?_⟩
    cases https : plan.settings.httpsListener with
    | true =>
        have holds := loadBalanced_decides_https plan routing suffix
        rw [https] at holds
        exact loadBalanced_survives_under plan routing suffix 13 rfl rfl holds
    | false =>
        have holds := loadBalanced_decides_http plan routing suffix
        rw [https] at holds
        exact loadBalanced_survives_under plan routing suffix 12 rfl rfl holds
  rootPath := ⟨_, loadBalanced_decides_root plan routing suffix⟩
  aliases := ⟨_, loadBalanced_decides_aliases plan routing suffix⟩

theorem loadBalanced_declares :
    (loadBalancedStack plan routing suffix).scope.DeclaresRouting plan.settings.httpsListener := by
  have routes := loadBalanced_routes plan routing suffix
  exact ⟨routes.declares, routes.declaresRouting, routes.ruleConditions,
    loadBalanced_decides_https plan routing suffix, routes.rootPath, routes.aliases⟩

/-- What the resources name survives; of the rules, the one that applies. -/
theorem loadBalanced_keeps : ∀ resource ∈ loadBalancedResources plan routing suffix,
    (loadBalancedStack plan routing suffix).scope.Keeps
      (routingNeeds plan.settings.httpsListener resource.1) := by
  have routes := loadBalanced_routes plan routing suffix
  intro resource member need needed
  rcases mem_of_routingNeeds needed with base | routed | isApplied | isTarget
  · exact routes.keeps need base
  · exact routes.keepsRouting need routed
  · obtain ⟨https, decided, survives⟩ := routes.rule
    cases (loadBalanced_decides_https plan routing suffix).symm.trans decided
    exact isApplied ▸ survives
  · subst isTarget
    have unscaled : ∀ resource ∈ taskResources plan ++ [(.targetGroup, targetGroup routing)]
        ++ envControllerResources plan suffix ++ rulePriorityResources plan suffix
        ++ listenerRules ++ [(.service, routedService plan routing), (.addonsStack, addonsStack)],
        Role.scalingTarget ∉ routingNeeds plan.settings.httpsListener resource.1 := by
      cases plan.settings.httpsListener <;>
        simp [taskResources, envControllerResources, rulePriorityResources, listenerRules,
          routingNeeds, taskNeeds, ownRoutingNeeds, ruleNeeds, appliedRule]
    obtain ⟨range, isScaled⟩ := scaled_of_needs unscaled member needed
    have there : (loadBalancedResources plan routing suffix)[18]? =
        some (.scalingTarget, scalingTarget range) := by
      simp [loadBalancedResources, taskResources, envControllerResources, rulePriorityResources,
        listenerRules, scalingResources, isScaled]
    exact loadBalanced_survives plan routing suffix 18 there rfl

theorem loadBalancedResources_closed {scope : Scope} {https : Bool}
    (declares : scope.DeclaresRouting https) (addons : scope.defined hasAddons) :
    ∀ resource ∈ loadBalancedResources plan routing suffix,
      scope.Keeps (routingNeeds https resource.1) → resource.2.Closed scope := by
  have base := declares.base
  intro resource member keeps
  simp only [loadBalancedResources, List.mem_append, List.mem_cons, List.not_mem_nil,
    or_false] at member
  rcases member with (((((task | rfl) | controller) | priority) | rules) | rfl | rfl) | scaling
  · exact taskResources_closed base plan resource task keeps.left
  · exact closed_of_properties (targetGroup_sound declares routing) rfl rfl rfl
  · exact envControllerResources_closed base plan suffix resource controller keeps.right
  · exact rulePriorityResources_closed declares.rule plan suffix resource priority keeps.right
  · exact listenerRules_closed declares resource rules keeps.right
  · exact routedService_closed declares plan routing keeps
  · exact addonsStack_closed base addons
  · exact scalingResources_closed base plan resource scaling keeps.left

theorem isGiven_sound {scope : Scope} {key : ParameterKey} (sound : key.ref.Sound scope) :
    (isGiven key).Sound scope := by
  simp [isGiven, sound]

theorem loadBalancedConditions_sound :
    ∀ condition ∈ (hasAddons, isGiven .addonsTemplateUrl) :: routingConditions,
      condition.2.Sound (loadBalancedStack plan routing suffix).scope := by
  have declares := loadBalanced_declares plan routing suffix
  have https := declares.own.parameter (show .httpsEnabled ∈ routingKeys by decide)
  have path := declares.own.parameter (show .rulePath ∈ routingKeys by decide)
  have aliases := declares.own.parameter (show .aliases ∈ routingKeys by decide)
  have addons := declares.base.parameter (show .addonsTemplateUrl ∈ baseKeys by decide)
  simp only [routingConditions, List.forall_mem_cons]
  exact ⟨isGiven_sound addons, by simp [https], by simp [https], by simp [path],
    isGiven_sound aliases, by simp⟩

theorem loadBalancedConditions_decided :
    ∀ condition ∈ (hasAddons, isGiven .addonsTemplateUrl) :: routingConditions,
      (condition.2.holds? (loadBalancedStack plan routing suffix).value?).isSome := by
  have addons := loadBalanced_value plan routing suffix .addonsTemplateUrl rfl
  have https := loadBalanced_value plan routing suffix .httpsEnabled rfl
  have path := loadBalanced_value plan routing suffix .rulePath rfl
  have aliases := loadBalanced_value plan routing suffix .aliases rfl
  simp only [routingConditions, List.forall_mem_cons]
  rw [isGiven_holds addons, equals_holds "false" https, equals_holds "true" https,
    equals_holds "/" path, isGiven_holds aliases]
  simp

theorem loadBalanced_closed : (loadBalancedStack plan routing suffix).template.Closed
    (loadBalancedStack plan routing suffix).value? := by
  have routes := loadBalanced_routes plan routing suffix
  have declares := loadBalanced_declares plan routing suffix
  have conditionMem : ∀ {name condition},
      (loadBalancedStack plan routing suffix).template.conditions.get? name = some condition →
        (name, condition) ∈ (hasAddons, isGiven .addonsTemplateUrl) :: routingConditions :=
    fun found => mem_of_mem_sortEntries (mem_of_findEntry found)
  constructor
  · intro name condition found
    exact loadBalancedConditions_decided plan routing suffix _ (conditionMem found)
  · intro name condition found
    exact (loadBalancedConditions_sound plan routing suffix _ (conditionMem found)).closed
  · intro id resource found _
    rw [loadBalanced_resources] at found
    obtain ⟨role, member, rfl⟩ := mem_of_get?_resourcesById found
    exact loadBalancedResources_closed plan routing suffix declares routes.addons _ member
      (loadBalanced_keeps plan routing suffix _ member)
  · intro name output found
    have member : (name, output) ∈ commonOutputs ++ routingOutputs suffix :=
      mem_of_mem_sortEntries (mem_of_findEntry found)
    rcases List.mem_append.mp member with common | routed
    · exact commonOutputs_closed declares.base (routes.keeps _ (by decide)) _ common
    · exact routingOutputs_closed declares.base suffix _ routed

end LoadBalanced

/-- A compiled template is closed under the values of its own parameters: they decide all its
conditions, and what survives names only what is declared or survives as well. -/
theorem compile_closed {workload : Workload} {app environment : String} {settings : Settings}
    {fresh : UniqueSuffix} {stack : Stack}
    (compiled : compile workload app environment settings fresh = .ok stack) :
    stack.template.Closed stack.value? := by
  cases kind : workload.kind with
  | backend =>
      obtain ⟨plan, _, rfl⟩ := compile_backend kind compiled
      exact backend_closed plan
  | loadBalanced =>
      obtain ⟨plan, routing, suffix, _, _, _, rfl⟩ := compile_loadBalanced kind compiled
      exact loadBalanced_closed plan routing suffix

theorem compile_served_closed : ∃ stack,
    compile (.served "api") "shop" "test" {} ⟨"s1", by decide, by decide, by decide⟩ = .ok stack ∧
      stack.template.Closed stack.value? := by
  obtain ⟨stack, compiled⟩ : ∃ stack, compile (.served "api") "shop" "test" {}
      ⟨"s1", by decide, by decide, by decide⟩ = .ok stack := ⟨_, rfl⟩
  exact ⟨stack, compiled, compile_closed compiled⟩

end Stackwright
