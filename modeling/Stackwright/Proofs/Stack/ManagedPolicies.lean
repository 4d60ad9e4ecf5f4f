import Stackwright.Proofs.Stack.Change
import Stackwright.Proofs.Workload.Minimal

/-!
Where a stack shows its place. Neither the account nor the region stands in a stack, and the
partition only in the names of the policies that the provider manages.
-/

namespace Stackwright

def Kind.managedRoles : Kind → List Role
  | .loadBalanced => [.executionRole, .envControllerRole, .rulePriorityRole]
  | .backend => [.executionRole]

def managedPolicyName : Role → String
  | .executionRole => "service-role/AmazonECSTaskExecutionRolePolicy"
  | _ => "service-role/AWSLambdaBasicExecutionRole"

def managedPolicies (partition : Partition) (role : Role) : Expr :=
  .texts ["arn:" ++ partition.name ++ ":iam::aws:policy/" ++ managedPolicyName role]

def Stack.withPolicies (stack : Stack) (kind : Kind) (partition : Partition) : Stack :=
  { stack with
    template := stack.template.mapProperty "ManagedPolicyArns" kind.managedRoles
      fun role _ => managedPolicies partition role }

def Plan.placed (plan : Plan) (account region : String) (partition : Partition) : Plan :=
  { plan with settings := { plan.settings with account, region, partition } }

section

variable (plan : Plan) (routing : Routing) (suffix : UniqueSuffix) (account region : String)
  (partition : Partition)

theorem executionRole_placed :
    (executionRole plan).mapProperty "ManagedPolicyArns"
        (fun _ => managedPolicies partition .executionRole) =
      executionRole (plan.placed account region partition) := by
  cases secrets : plan.workload.secrets.isEmpty <;>
    simp [executionRole, Resource.mapProperty, Expr.mapField, memberIf, Plan.placed, secrets,
      managedPolicies, managedPolicyName, Partition.managedPolicy]

theorem helperRole_placed {role : Role} (other : Partition) (policyName : String)
    (statements : List Expr)
    (named : managedPolicyName role = "service-role/AWSLambdaBasicExecutionRole") :
    (helperRole other policyName statements).mapProperty "ManagedPolicyArns"
        (fun _ => managedPolicies partition role) =
      helperRole partition policyName statements := by
  simp [helperRole, Resource.mapProperty, Expr.mapField, managedPolicies, named,
    Partition.managedPolicy]

theorem backendResources_placed :
    (backendResources plan).map (changed "ManagedPolicyArns" Kind.backend.managedRoles
        fun role _ => managedPolicies partition role) =
      backendResources (plan.placed account region partition) := by
  have execution : Role.executionRole ∈ Kind.backend.managedRoles := by decide
  have scaling := scalingResources_unchanged "ManagedPolicyArns"
    (fun role _ => managedPolicies partition role) plan
    (by decide : ∀ role ∈ scalingRoles, role ∉ Kind.backend.managedRoles)
  rw [backendResources, List.map_append, scaling]
  simp (disch := decide) only [taskResources, List.cons_append, List.nil_append, List.map_cons,
    List.map_nil, changed_of_not_mem]
  rw [changed_of_mem execution, executionRole_placed plan account region partition]
  rfl

theorem loadBalancedResources_placed :
    (loadBalancedResources plan routing suffix).map
        (changed "ManagedPolicyArns" Kind.loadBalanced.managedRoles
          fun role _ => managedPolicies partition role) =
      loadBalancedResources (plan.placed account region partition) routing suffix := by
  have execution : Role.executionRole ∈ Kind.loadBalanced.managedRoles := by decide
  have controller : Role.envControllerRole ∈ Kind.loadBalanced.managedRoles := by decide
  have priority : Role.rulePriorityRole ∈ Kind.loadBalanced.managedRoles := by decide
  have scaling := scalingResources_unchanged "ManagedPolicyArns"
    (fun role _ => managedPolicies partition role) plan
    (by decide : ∀ role ∈ scalingRoles, role ∉ Kind.loadBalanced.managedRoles)
  rw [loadBalancedResources, List.map_append, scaling]
  simp (disch := decide) only [taskResources, envControllerResources, rulePriorityResources,
    listenerRules, List.cons_append, List.nil_append, List.map_cons, List.map_nil,
    changed_of_not_mem]
  rw [changed_of_mem execution, changed_of_mem controller, changed_of_mem priority,
    executionRole_placed plan account region partition,
    helperRole_placed partition _ _ _ rfl, helperRole_placed partition _ _ _ rfl]
  rfl

theorem backendStack_withPolicies :
    (backendStack plan).withPolicies .backend partition =
      backendStack (plan.placed account region partition) := by
  have resources := mapEntries_resourcesById "ManagedPolicyArns"
    (fun role _ => managedPolicies partition role) Kind.backend.managedRoles
    (backendResources plan)
  rw [backendResources_placed plan account region partition] at resources
  have template : ((backendStack plan).withPolicies .backend partition).template =
      (backendStack (plan.placed account region partition)).template :=
    Template.ext rfl rfl rfl rfl resources rfl
  rw [Stack.withPolicies, Stack.mk.injEq]
  exact ⟨rfl, template, rfl, rfl, rfl⟩

theorem loadBalancedStack_withPolicies :
    (loadBalancedStack plan routing suffix).withPolicies .loadBalanced partition =
      loadBalancedStack (plan.placed account region partition) routing suffix := by
  have resources := mapEntries_resourcesById "ManagedPolicyArns"
    (fun role _ => managedPolicies partition role) Kind.loadBalanced.managedRoles
    (loadBalancedResources plan routing suffix)
  rw [loadBalancedResources_placed plan routing suffix account region partition] at resources
  have template :
      ((loadBalancedStack plan routing suffix).withPolicies .loadBalanced partition).template =
        (loadBalancedStack (plan.placed account region partition) routing suffix).template :=
    Template.ext rfl rfl rfl rfl resources rfl
  rw [Stack.withPolicies, Stack.mk.injEq]
  exact ⟨rfl, template, rfl, rfl, rfl⟩

theorem executionRole_policies :
    (executionRole plan).properties.field? "ManagedPolicyArns" =
      some (managedPolicies plan.settings.partition .executionRole) := by
  simp [executionRole, Expr.field?, findEntry, managedPolicies, managedPolicyName,
    Partition.managedPolicy]

theorem helperRole_policies (policyName : String) (statements : List Expr) :
    (helperRole partition policyName statements).properties.field? "ManagedPolicyArns" =
      some (managedPolicies partition .envControllerRole) := by
  simp [helperRole, Expr.field?, findEntry, managedPolicies, managedPolicyName,
    Partition.managedPolicy]

theorem backend_policies {role : Role} (member : role ∈ Kind.backend.managedRoles) :
    (backendStack plan).template.property? role "ManagedPolicyArns" =
      some (managedPolicies plan.settings.partition role) := by
  cases List.mem_singleton.mp member
  rw [Template.property?, backend_resource plan 1 rfl]
  exact executionRole_policies plan

theorem loadBalanced_policies {role : Role} (member : role ∈ Kind.loadBalanced.managedRoles) :
    (loadBalancedStack plan routing suffix).template.property? role "ManagedPolicyArns" =
      some (managedPolicies plan.settings.partition role) := by
  simp only [Kind.managedRoles, List.mem_cons, List.not_mem_nil, or_false] at member
  rcases member with rfl | rfl | rfl
  · rw [Template.property?, loadBalanced_resource plan routing suffix 1 rfl]
    exact executionRole_policies plan
  · rw [Template.property?, loadBalanced_resource plan routing suffix 6 rfl]
    exact helperRole_policies _ _ _
  · rw [Template.property?, loadBalanced_resource plan routing suffix 9 rfl]
    exact helperRole_policies _ _ _

end

section

variable {workload : Workload} {app environment account region : String} {settings : Settings}
  {partition : Partition} {plan : Plan}

theorem Plan.of_placed (planned : Plan.of workload app environment settings = .ok plan) :
    Plan.of workload app environment
        { settings with account := account, region := region, partition := partition } =
      .ok (plan.placed account region partition) := by
  have moved := Plan.of_mapSettings workload app environment
    (fun given : Settings =>
      { given with account := account, region := region, partition := partition })
    (rfl : _ = settings.image)
  rw [planned] at moved
  exact moved

/-- A place decides whether aliases are accepted, and nothing else of a routing. -/
theorem Routing.of_placed {routing placed : Routing} (routed : Routing.of plan = .ok routing)
    (routedThere : Routing.of (plan.placed account region partition) = .ok placed) :
    placed = routing := by
  obtain ⟨_, _, _, _, exposed, pathed, ported, targeted, _, rfl⟩ := Routing.of_eq_ok_iff.mp routed
  obtain ⟨_, _, _, _, exposedThere, pathedThere, portedThere, targetedThere, _, rfl⟩ :=
    Routing.of_eq_ok_iff.mp routedThere
  cases exposed.symm.trans exposedThere
  cases pathed.symm.trans pathedThere
  cases ported.symm.trans portedThere
  cases targeted.symm.trans targetedThere
  rfl

/-- Stacks of one service that are made for two places, with one suffix, differ in the names of
managed policies alone, and in these by the partition alone: in one partition they are the same. -/
theorem place_shows_in_policies {fresh other : UniqueSuffix} {stack moved : Stack}
    (compiled : compile workload app environment settings fresh = .ok stack)
    (compiledThere : compile workload app environment
      { settings with account := account, region := region, partition := partition } other =
        .ok moved)
    (sameSuffix : stack.uniqueSuffix = moved.uniqueSuffix) :
    (settings.partition = partition → moved = stack) ∧
    moved = stack.withPolicies workload.kind partition ∧
    ∀ role ∈ workload.kind.managedRoles,
      stack.template.property? role "ManagedPolicyArns" =
        some (managedPolicies settings.partition role) ∧
      moved.template.property? role "ManagedPolicyArns" =
        some (managedPolicies partition role) := by
  cases kind : workload.kind with
  | backend =>
      obtain ⟨plan, planned, rfl⟩ := compile_backend kind compiled
      obtain ⟨placed, plannedThere, rfl⟩ := compile_backend kind compiledThere
      cases (Plan.of_placed planned).symm.trans plannedThere
      have sameSettings := Plan.of_settings planned
      refine ⟨?_, (backendStack_withPolicies plan account region partition).symm, ?_⟩
      · intro samePartition
        rw [← samePartition, ← sameSettings]
        rfl
      · intro role member
        rw [← sameSettings]
        exact ⟨backend_policies plan member, backend_policies _ member⟩
  | loadBalanced =>
      obtain ⟨plan, routing, suffix, planned, routed, _, rfl⟩ := compile_loadBalanced kind compiled
      obtain ⟨placed, routingThere, suffixThere, plannedThere, routedThere, _, rfl⟩ :=
        compile_loadBalanced kind compiledThere
      cases (Plan.of_placed planned).symm.trans plannedThere
      cases Routing.of_placed routed routedThere
      cases sameSuffix
      have sameSettings := Plan.of_settings planned
      refine ⟨?_, (loadBalancedStack_withPolicies plan _ _ account region partition).symm, ?_⟩
      · intro samePartition
        rw [← samePartition, ← sameSettings]
        rfl
      · intro role member
        rw [← sameSettings]
        exact ⟨loadBalanced_policies plan _ _ member, loadBalanced_policies _ _ _ member⟩

end

/-- A service without aliases is compiled for a region of China as well. -/
theorem place_shows_in_policies_served : ∃ stack moved,
    compile (.served "api") "shop" "test" {} ⟨"s1", by decide, by decide, by decide⟩ = .ok stack ∧
      compile (.served "api") "shop" "test" (.inRegion "123456789012" "cn-north-1")
        ⟨"s1", by decide, by decide, by decide⟩ = .ok moved ∧
      moved = stack.withPolicies .loadBalanced .china ∧
      moved.template.property? .executionRole "ManagedPolicyArns" = some (.texts
        ["arn:aws-cn:iam::aws:policy/service-role/AmazonECSTaskExecutionRolePolicy"]) := by
  obtain ⟨stack, compiled, suffixed⟩ : ∃ stack,
      compile (.served "api") "shop" "test" {} ⟨"s1", by decide, by decide, by decide⟩ = .ok stack ∧
        stack.uniqueSuffix = some ⟨"s1", by decide, by decide, by decide⟩ := ⟨_, rfl, rfl⟩
  have inChina : Settings.inRegion "123456789012" "cn-north-1" = { ({} : Settings) with
      account := "123456789012", region := "cn-north-1", partition := .china } := rfl
  rw [inChina]
  obtain ⟨moved, compiledThere, suffixedThere⟩ : ∃ stack,
      compile (.served "api") "shop" "test"
          { account := "123456789012", region := "cn-north-1", partition := .china }
          ⟨"s1", by decide, by decide, by decide⟩ = .ok stack ∧
        stack.uniqueSuffix = some ⟨"s1", by decide, by decide, by decide⟩ := ⟨_, rfl, rfl⟩
  have sameSuffix := suffixed.trans suffixedThere.symm
  obtain ⟨_, changed, policies⟩ := place_shows_in_policies compiled compiledThere sameSuffix
  exact ⟨stack, moved, compiled, compiledThere, changed,
    (policies .executionRole (by decide)).2⟩

end Stackwright
