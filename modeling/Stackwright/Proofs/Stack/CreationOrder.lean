import Stackwright.Proofs.Stack.Change
import Stackwright.Proofs.Stack.RulePriority

/-!
The order in which the resources of a stack can be made. Each comes after those that it names, so
none may name itself through others; and a service that takes requests comes after what sends them.
-/

namespace Stackwright

/-- Whether a resource waits for the one with this id, or names it in what the conditions leave of
its values. -/
def Resource.Names (decides : String → Option Bool) (resource : Resource) (id : String) : Prop :=
  id ∈ resource.dependsOn ∨
    ∃ expr ∈ resource.properties :: resource.metadata.toList,
      .ref id ∈ (expr.resolved decides).mentions .ordinary ∨
        .attribute id ∈ (expr.resolved decides).mentions .ordinary

namespace Stack

variable (stack : Stack)

def Needs (id other : String) : Prop :=
  ∃ resource, stack.template.resources.get? id = some resource ∧ stack.scope.survives id ∧
    (stack.template.resources.get? other).isSome ∧ resource.Names stack.scope.decides other

def Reaches : String → String → Prop := Relation.TransGen stack.Needs

def RegistersWith (service group : String) : Prop :=
  ∃ resource balancers balancer, stack.template.resources.get? service = some resource ∧
    resource.properties.field? "LoadBalancers" = some (.list balancers) ∧
    balancer ∈ balancers ∧ balancer.field? "TargetGroupArn" = some (.ref group)

def ForwardsTo (rule group : String) : Prop :=
  ∃ resource actions action, stack.HasRule rule resource ∧
    resource.properties.field? "Actions" = some (.list actions) ∧ action ∈ actions ∧
    action.field? "Type" = some (.text "forward") ∧
    action.field? "TargetGroupArn" = some (.ref group)

end Stack

/-- The scope in which of all resources only these are there. -/
def Scope.only (scope : Scope) (roles : List Role) : Scope :=
  { scope with survives := fun id => ∃ role ∈ roles, id = role.id }

theorem Scope.keeps_only (scope : Scope) (roles : List Role) : (scope.only roles).Keeps roles :=
  fun role member => ⟨role, member, rfl⟩

theorem Scope.DeclaresRouting.only {scope : Scope} {https : Bool}
    (declares : scope.DeclaresRouting https) (roles : List Role) :
    (scope.only roles).DeclaresRouting https :=
  ⟨declares.base, declares.own, declares.ruleConditions, declares.rule, declares.rootPath,
    declares.aliases⟩

theorem Role.id_not_pseudo (role : Role) : role.id ∉ pseudoParameters := by
  cases role <;> decide +kernel

theorem Role.id_ne_text (role : Role) {key : ParameterKey} (member : key ∈ baseKeys ++ routingKeys) :
    role.id ≠ key.text := by
  have distinct : ∀ role ∈ Role.all, ∀ key ∈ baseKeys ++ routingKeys, role.id ≠ key.text := by
    decide +kernel
  exact distinct role (Role.mem_all role) key member

section

variable {stack : Stack} {resource : Resource} {roles : List Role} {role : Role}

theorem mem_of_names (undeclared : ¬ stack.scope.declared role.id)
    (closed : resource.Closed (stack.scope.only roles))
    (names : resource.Names stack.scope.decides role.id) : role ∈ roles := by
  have mem_of_survives : (stack.scope.only roles).survives role.id → role ∈ roles := by
    rintro ⟨other, member, same⟩
    exact Role.eq_of_id same ▸ member
  rcases names with waits | ⟨expr, held, mentioned⟩
  · exact mem_of_survives (closed.dependsOn _ waits)
  · have exprClosed : expr.Closed (stack.scope.only roles) := by
      rcases List.mem_cons.mp held with rfl | inMetadata
      · exact closed.properties
      · exact closed.metadata expr (Option.mem_toList.mp inMetadata)
    rcases mentioned with referred | readFrom
    -- a reference may also be to a parameter, but none is called like a resource
    · rcases exprClosed _ referred with declared | survives | pseudo
      · exact absurd declared undeclared
      · exact mem_of_survives survives
      · exact absurd pseudo role.id_not_pseudo
    · exact mem_of_survives (exprClosed _ readFrom)

theorem mem_of_needs {resources : List (Role × Resource)} {needs : Role → List Role}
    {id other : String} (held : stack.template.resources = resourcesById resources)
    (undeclared : ∀ role : Role, ¬ stack.scope.declared role.id)
    (closed : ∀ r ∈ resources, r.2.Closed (stack.scope.only (needs r.1)))
    (needed : stack.Needs id other) :
    ∃ role need : Role, id = role.id ∧ other = need.id ∧ need ∈ needs role := by
  obtain ⟨resource, found, _, there, names⟩ := needed
  obtain ⟨target, foundOther⟩ := Option.isSome_iff_exists.mp there
  rw [held] at found foundOther
  obtain ⟨role, member, rfl⟩ := mem_of_get?_resourcesById found
  obtain ⟨need, _, rfl⟩ := mem_of_get?_resourcesById foundOther
  exact ⟨role, need, rfl, rfl, mem_of_names (undeclared need) (closed _ member) names⟩

end

theorem Role.undeclared {values : List (ParameterKey × ParameterValue)}
    (keys : ∀ key ∈ values.map Prod.fst, key ∈ baseKeys ++ routingKeys) (role : Role) :
    ¬ ((Parameters.of values).declarations.get? role.id).isSome := by
  intro declared
  obtain ⟨key, member, same⟩ := Parameters.mem_of_declared declared
  exact role.id_ne_text (keys key member) same

theorem backend_needs (plan : Plan) {id other : String}
    (needed : (backendStack plan).Needs id other) :
    ∃ role need : Role, id = role.id ∧ other = need.id ∧ need ∈ taskNeeds role := by
  have runs := backend_runs plan
  refine mem_of_needs rfl ?_ ?_ needed
  · exact Role.undeclared fun key => List.mem_append_left routingKeys
  · intro resource member
    have declares : ((backendStack plan).scope.only (taskNeeds resource.1)).Declares baseKeys :=
      runs.declares
    exact backendResources_closed plan declares runs.addons resource member (Scope.keeps_only _ _)

theorem loadBalanced_needs (plan : Plan) (routing : Routing) (suffix : UniqueSuffix)
    {id other : String} (needed : (loadBalancedStack plan routing suffix).Needs id other) :
    ∃ role need : Role, id = role.id ∧ other = need.id ∧
      need ∈ routingNeeds plan.settings.httpsListener role := by
  have declares := loadBalanced_declares plan routing suffix
  have addons := (loadBalanced_runs plan routing suffix).addons
  refine mem_of_needs (loadBalanced_resources plan routing suffix) ?_ ?_ needed
  · exact Role.undeclared fun key member => member
  · intro resource member
    exact loadBalancedResources_closed plan routing suffix (declares.only _) addons resource member
      (Scope.keeps_only _ _)

variable {workload : Workload} {app environment : String} {settings : Settings}
  {fresh : UniqueSuffix} {stack : Stack} {id other : String}

theorem compile_needs (compiled : compile workload app environment settings fresh = .ok stack)
    (needed : stack.Needs id other) :
    ∃ role need : Role, id = role.id ∧ other = need.id ∧
      need ∈ routingNeeds settings.httpsListener role := by
  cases kind : workload.kind with
  | backend =>
      obtain ⟨plan, _, rfl⟩ := compile_backend kind compiled
      obtain ⟨role, need, isRole, isNeed, among⟩ := backend_needs plan needed
      exact ⟨role, need, isRole, isNeed, List.mem_append_left _ among⟩
  | loadBalanced =>
      obtain ⟨plan, routing, suffix, planned, _, _, rfl⟩ := compile_loadBalanced kind compiled
      have sameSettings := Plan.of_settings planned
      exact sameSettings ▸ loadBalanced_needs plan routing suffix needed

/-- How late a resource can be made. -/
def Role.rank : Role → Nat
  | .taskDefinition | .envControllerFunction | .rulePriorityFunction => 1
  | .envControllerAction => 2
  | .rulePriorityAction => 3
  | .httpListenerRule | .httpsListenerRule | .httpRedirectRule => 4
  | .listenerRuleWaitHandle => 5
  | .service => 6
  | .scalingTarget => 7
  | .scalingCpuPolicy | .scalingMemoryPolicy => 8
  | _ => 0

theorem rank_lt_of_needs {https : Bool} {role need : Role}
    (needed : need ∈ routingNeeds https role) : need.rank < role.rank := by
  have ranked : ∀ role ∈ Role.all, ∀ need ∈ routingNeeds https role, need.rank < role.rank := by
    cases https <;> decide
  exact ranked role (Role.mem_all role) need needed

/-- The rank falls along every chain of resources that name each other. -/
theorem rank_lt_of_reaches
    (compiled : compile workload app environment settings fresh = .ok stack)
    (reaches : stack.Reaches id other) :
    ∃ role reached : Role, id = role.id ∧ other = reached.id ∧ reached.rank < role.rank := by
  -- on the length of the chain: each further name is of a lower rank than the last
  induction reaches with
  | single needed =>
      obtain ⟨role, need, isRole, isNeed, among⟩ := compile_needs compiled needed
      exact ⟨role, need, isRole, isNeed, rank_lt_of_needs among⟩
  | tail _ needed ih =>
      obtain ⟨role, reached, isRole, isReached, lower⟩ := ih
      obtain ⟨again, need, isAgain, isNeed, among⟩ := compile_needs compiled needed
      have same : reached = again := Role.eq_of_id (isReached.symm.trans isAgain)
      have next : need.rank < reached.rank := same ▸ rank_lt_of_needs among
      exact ⟨role, need, isRole, isNeed, by omega⟩

theorem compile_acyclic (compiled : compile workload app environment settings fresh = .ok stack)
    (id : String) : ¬ stack.Reaches id id := by
  intro cycle
  obtain ⟨role, reached, isRole, isReached, lower⟩ := rank_lt_of_reaches compiled cycle
  have same : role = reached := Role.eq_of_id (isRole.symm.trans isReached)
  rw [same] at lower
  omega

def Expr.Refers (decides : String → Option Bool) (expr : Expr) (id : String) : Prop :=
  ∀ zone, .ref id ∈ (expr.resolved decides).mentions zone

section

variable {decides : String → Option Bool} {expr : Expr} {id : String}

variable (decides) in
theorem Role.refers (role : Role) : role.ref.Refers decides role.id := fun _ => List.mem_cons_self

theorem Expr.Refers.inField {fields : List (String × Expr)} {name : String}
    (refers : expr.Refers decides id) (member : (name, expr) ∈ fields) :
    (Expr.record fields).Refers decides id := by
  have inFields : ∀ zone, .ref id ∈ fieldsMentions zone (fieldsResolved decides fields) := by
    intro zone
    induction fields with
    | nil => cases member
    | cons field rest ih =>
        rcases List.mem_cons.mp member with rfl | inRest
        · exact List.mem_append_left _ (refers _)
        · exact List.mem_append_right _ (ih inRest)
  exact fun zone => inFields _

theorem Expr.Refers.inItem {items : List Expr} (refers : expr.Refers decides id)
    (member : expr ∈ items) : (Expr.list items).Refers decides id := by
  intro zone
  show .ref id ∈ itemsMentions zone (itemsResolved decides items)
  induction items with
  | nil => cases member
  | cons item rest ih =>
      rcases List.mem_cons.mp member with rfl | inRest
      · exact List.mem_append_left _ (refers zone)
      · exact List.mem_append_right _ (ih inRest)

theorem Expr.Refers.chosen {condition : String} {yes no : Expr} {chosen : Bool}
    (decided : decides condition = some chosen)
    (refers : (if chosen then yes else no).Refers decides id) :
    (Expr.choose condition yes no).Refers decides id := by
  intro zone
  cases chosen with
  | true => simpa [Expr.resolved, decided] using refers zone
  | false => simpa [Expr.resolved, decided] using refers zone

theorem names_of_refers {resource : Resource} (refers : expr.Refers decides id)
    (held : expr ∈ resource.properties :: resource.metadata.toList) : resource.Names decides id :=
  .inr ⟨expr, held, .inl (refers .ordinary)⟩

end

section

variable (plan : Plan) (routing : Routing) (suffix : UniqueSuffix)

theorem loadBalanced_reaches {role other : Role} {resource target : Resource} (index otherIndex : Nat)
    (there : (loadBalancedResources plan routing suffix)[index]? = some (role, resource))
    (unconditional : resource.condition = none)
    (otherThere : (loadBalancedResources plan routing suffix)[otherIndex]? = some (other, target))
    (names : resource.Names (loadBalancedStack plan routing suffix).scope.decides other.id) :
    (loadBalancedStack plan routing suffix).Reaches role.id other.id := by
  have found := loadBalanced_resource plan routing suffix index there
  have survives := loadBalanced_survives plan routing suffix index there unconditional
  have otherFound := loadBalanced_resource plan routing suffix otherIndex otherThere
  exact .single ⟨resource, found, survives, otherFound ▸ rfl, names⟩

def registration : Expr :=
  .record [
    ("ContainerName", ParameterKey.targetContainer.ref),
    ("ContainerPort", ParameterKey.targetPort.ref),
    ("TargetGroupArn", Role.targetGroup.ref)]

theorem routedService_balancers :
    (routedService plan routing).properties.field? "LoadBalancers" = some (.list [registration]) := by
  simp [routedService, serviceProperties, Expr.field?, findEntry, registration]

theorem routedService_refers (decides : String → Option Bool) :
    (routedService plan routing).properties.Refers decides Role.targetGroup.id := by
  have named : registration.Refers decides Role.targetGroup.id :=
    (Role.targetGroup.refers decides).inField (List.mem_of_getElem? (i := 2) rfl)
  have listed : (Expr.list [registration]).Refers decides Role.targetGroup.id :=
    named.inItem List.mem_cons_self
  exact listed.inField (List.mem_append_right _ List.mem_cons_self)

theorem service_reaches_group :
    (loadBalancedStack plan routing suffix).Reaches Role.service.id Role.targetGroup.id :=
  loadBalanced_reaches plan routing suffix 16 5 rfl rfl rfl
    (names_of_refers (routedService_refers plan routing _) List.mem_cons_self)

theorem service_reaches_controller :
    (loadBalancedStack plan routing suffix).Reaches Role.service.id Role.envControllerAction.id :=
  loadBalanced_reaches plan routing suffix 16 8 rfl rfl rfl (.inl (by simp [routedService]))

theorem service_reaches_handle :
    (loadBalancedStack plan routing suffix).Reaches Role.service.id
      Role.listenerRuleWaitHandle.id :=
  loadBalanced_reaches plan routing suffix 16 15 rfl rfl rfl (.inl (by simp [routedService]))

theorem handle_reaches_rule :
    (loadBalancedStack plan routing suffix).Reaches Role.listenerRuleWaitHandle.id
      (appliedRule plan.settings.httpsListener).id := by
  have decided := loadBalanced_decides_https plan routing suffix
  have named : ruleWaitHandle.Names (loadBalancedStack plan routing suffix).scope.decides
      (appliedRule plan.settings.httpsListener).id := by
    have chosen : (Expr.choose httpsToo Role.httpsListenerRule.ref
        Role.httpListenerRule.ref).Refers (loadBalancedStack plan routing suffix).scope.decides
          (appliedRule plan.settings.httpsListener).id := by
      apply Expr.Refers.chosen decided
      cases plan.settings.httpsListener <;> exact Role.refers _ _
    exact names_of_refers (chosen.inField List.mem_cons_self)
      (List.mem_cons_of_mem _ List.mem_cons_self)
  cases https : plan.settings.httpsListener with
  | false =>
      rw [https] at named
      exact loadBalanced_reaches plan routing suffix 15 12 rfl rfl rfl named
  | true =>
      rw [https] at named
      exact loadBalanced_reaches plan routing suffix 15 13 rfl rfl rfl named

theorem registersWith_iff {group : String} :
    (loadBalancedStack plan routing suffix).RegistersWith Role.service.id group ↔
      group = Role.targetGroup.id := by
  have service := loadBalanced_resource plan routing suffix 16 rfl
  constructor
  · rintro ⟨resource, balancers, balancer, found, balanced, member, isGroup⟩
    cases service.symm.trans found
    rw [routedService_balancers] at balanced
    cases balanced
    cases List.mem_singleton.mp member
    cases isGroup
    rfl
  · rintro rfl
    exact ⟨_, _, registration, service, routedService_balancers plan routing, List.mem_cons_self,
      rfl⟩

theorem listenerRule_actions {condition : String} {listener action : Expr}
    {conditions : List Expr} :
    (listenerRule condition listener action conditions).properties.field? "Actions" =
      some (.list [action]) := by
  simp [listenerRule, Expr.field?, findEntry]

theorem forwardsTo_iff {rule : String} :
    (loadBalancedStack plan routing suffix).ForwardsTo rule Role.targetGroup.id ↔
      rule = (appliedRule plan.settings.httpsListener).id := by
  constructor
  · rintro ⟨resource, actions, action, hasRule, acts, member, forwards, _⟩
    rcases (loadBalanced_hasRule_iff plan routing suffix).mp hasRule with
      ⟨rfl, https, rfl⟩ | ⟨rfl, https, rfl⟩ | ⟨rfl, https, rfl⟩
    · rw [https]
      rfl
    · rw [https]
      rfl
    · rw [listenerRule_actions] at acts
      cases acts
      cases List.mem_singleton.mp member
      have redirects : "redirect" = "forward" := Expr.text.inj (Option.some.inj forwards)
      exact absurd redirects (by decide)
  · rintro rfl
    cases https : plan.settings.httpsListener with
    | false =>
        have hasRule := (loadBalanced_hasRule_iff plan routing suffix).mpr (.inl ⟨rfl, https, rfl⟩)
        exact ⟨_, _, forward, hasRule, listenerRule_actions, List.mem_cons_self, rfl, rfl⟩
    | true =>
        have hasRule :=
          (loadBalanced_hasRule_iff plan routing suffix).mpr (.inr (.inl ⟨rfl, https, rfl⟩))
        exact ⟨_, _, forward, hasRule, listenerRule_actions, List.mem_cons_self, rfl, rfl⟩

end

/-- The resources of a compiled stack can be made one after the other: none names itself, be it
through others. A load balanced service comes after the target group with which it registers,
after the open listeners, and after the one rule that survives and forwards to that group. -/
theorem compile_ordered (compiled : compile workload app environment settings fresh = .ok stack) :
    (∀ id, ¬ stack.Reaches id id) ∧
    (workload.kind = .loadBalanced →
      (∀ group, stack.RegistersWith Role.service.id group ↔ group = Role.targetGroup.id) ∧
      (∀ rule, stack.ForwardsTo rule Role.targetGroup.id ↔
        rule = (appliedRule settings.httpsListener).id) ∧
      stack.Reaches Role.service.id Role.targetGroup.id ∧
      stack.Reaches Role.service.id Role.envControllerAction.id ∧
      stack.Reaches Role.service.id (appliedRule settings.httpsListener).id) := by
  refine ⟨compile_acyclic compiled, fun balanced => ?_⟩
  obtain ⟨plan, routing, suffix, planned, _, _, rfl⟩ := compile_loadBalanced balanced compiled
  rw [← Plan.of_settings planned]
  have viaHandle := (service_reaches_handle plan routing suffix).trans
    (handle_reaches_rule plan routing suffix)
  exact ⟨fun _ => registersWith_iff plan routing suffix, fun _ => forwardsTo_iff plan routing suffix,
    service_reaches_group plan routing suffix, service_reaches_controller plan routing suffix,
    viaHandle⟩

theorem compile_ordered_served : ∃ stack,
    compile (.served "api") "shop" "test" { httpsListener := true }
      ⟨"s1", by decide, by decide, by decide⟩ = .ok stack ∧
    ¬ stack.Reaches Role.service.id Role.service.id ∧
    stack.Reaches Role.service.id Role.httpsListenerRule.id := by
  obtain ⟨stack, compiled⟩ : ∃ stack, compile (.served "api") "shop" "test"
      { httpsListener := true } ⟨"s1", by decide, by decide, by decide⟩ = .ok stack := ⟨_, rfl⟩
  obtain ⟨acyclic, routed⟩ := compile_ordered compiled
  obtain ⟨_, _, _, _, rule⟩ := routed rfl
  exact ⟨stack, compiled, acyclic _, rule⟩

end Stackwright
