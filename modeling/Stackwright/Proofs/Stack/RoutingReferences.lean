import Stackwright.Proofs.Stack.TaskReferences

/-!
What the resources of a load balanced stack name beside those of every stack.
-/

namespace Stackwright

def routingRoles : List Role :=
  [.targetGroup, .listenerRuleWaitHandle, .rulePriorityRole, .rulePriorityFunction,
   .rulePriorityAction, .envControllerRole, .envControllerFunction, .envControllerAction]

def appliedRule (https : Bool) : Role := if https then .httpsListenerRule else .httpListenerRule

/-- A scope in which the resources of a load balanced stack find what they name. Of the two rules
the one survives that the listener's condition chooses. -/
structure Scope.Routes (scope : Scope) : Prop extends Scope.Runs scope where
  declaresRouting : ∀ key ∈ routingKeys, scope.declared key.text
  keepsRouting : ∀ role ∈ routingRoles, scope.survives role.id
  ruleConditions : ∀ name ∈ [httpOnly, httpsToo], scope.defined name
  rule : ∃ https, scope.decides httpsToo = some https ∧ scope.survives (appliedRule https).id
  rootPath : ∃ root, scope.decides isRootPath = some root
  aliases : ∃ given, scope.decides hasAliases = some given

structure Scope.DeclaresRouting (scope : Scope) (https : Bool) : Prop where
  base : scope.Declares baseKeys
  own : scope.Declares routingKeys
  ruleConditions : ∀ name ∈ [httpOnly, httpsToo], scope.defined name
  rule : scope.decides httpsToo = some https
  rootPath : ∃ root, scope.decides isRootPath = some root
  aliases : ∃ given, scope.decides hasAliases = some given

def ruleNeeds : List Role := [.envControllerAction, .rulePriorityAction]

/-- The resources that a resource of a load balanced stack names beside those of every stack. -/
def ownRoutingNeeds (https : Bool) : Role → List Role
  | .service => [.targetGroup, .listenerRuleWaitHandle, .envControllerAction]
  | .envControllerFunction => [.envControllerRole]
  | .envControllerAction => [.envControllerFunction]
  | .rulePriorityFunction => [.rulePriorityRole]
  | .rulePriorityAction => [.rulePriorityFunction, .envControllerAction]
  | .httpListenerRule | .httpsListenerRule => ruleNeeds ++ [.targetGroup]
  | .httpRedirectRule => ruleNeeds
  | .listenerRuleWaitHandle => [appliedRule https]
  | _ => []

def routingNeeds (https : Bool) (role : Role) : List Role :=
  taskNeeds role ++ ownRoutingNeeds https role

theorem mem_of_routingNeeds {https : Bool} {role need : Role}
    (needed : need ∈ routingNeeds https role) :
    need ∈ taskRoles ∨ need ∈ routingRoles ∨ need = appliedRule https ∨ need = .scalingTarget := by
  have among : ∀ role ∈ Role.all, ∀ need ∈ routingNeeds https role, need ∈ taskRoles ∨
      need ∈ routingRoles ∨ need = appliedRule https ∨ need = .scalingTarget := by
    cases https <;> decide
  exact among role (Role.mem_all role) need needed

variable {scope : Scope} {https : Bool}

theorem Scope.Declares.pathPattern (declares : scope.Declares routingKeys) {cs : List Char}
    (known : namesFrom .outside cs = [ParameterKey.rulePath.text]) :
    (Expr.substitute (String.ofList cs)).Sound scope := by
  intro name member
  rw [patternNames_ofList, known] at member
  cases List.mem_singleton.mp member
  exact Or.inl (declares .rulePath (by decide))

theorem targetGroup_sound (declares : scope.DeclaresRouting https) (routing : Routing) :
    (targetGroup routing).properties.Sound scope := by
  simp (disch := decide) [targetGroup, attributePair, declares.own.parameter,
    declares.base.portless.exported]

theorem helperRole_sound {partition : Partition} {policyName : String} {statements : List Expr}
    (sound : ItemsSound scope statements) :
    (helperRole partition policyName statements).properties.Sound scope := by
  simp [helperRole, sound]

theorem helperFunction_closed (plan : Plan) (role : Role) {runAs : Role} (payload : Payload)
    (suffix : UniqueSuffix) (runsAs : scope.survives runAs.id) :
    (helperFunction plan role runAs payload suffix).Closed scope where
  condition := by simp [helperFunction]
  properties := by
    have arn : runAs.arn.Sound scope := runsAs
    exact Expr.Sound.closed (by simp [helperFunction, arn])
  metadata := by
    intro metadata isMetadata
    cases isMetadata
    exact Expr.Sound.closed (by simp)
  dependsOn := by
    intro id member
    cases member

theorem envControllerResources_closed (declares : scope.Declares baseKeys) (plan : Plan)
    (suffix : UniqueSuffix) :
    ∀ resource ∈ envControllerResources plan suffix,
      scope.Keeps (ownRoutingNeeds https resource.1) → resource.2.Closed scope := by
  simp only [envControllerResources, List.forall_mem_cons]
  refine ⟨fun _ => ?_, fun keeps => ?_, fun keeps => ?_, by simp⟩
  · apply closed_of_properties (helperRole_sound _) rfl rfl rfl
    simp (disch := decide) [declares.portless.pattern]
  · exact helperFunction_closed plan _ _ suffix (keeps _ List.mem_cons_self)
  · have token : Role.envControllerFunction.arn.Sound scope := keeps.arn List.mem_cons_self
    apply closed_of_properties _ rfl rfl rfl
    simp (disch := decide) [token, declares.parameter, declares.portless.pattern]

theorem rulePriorityResources_closed (decided : scope.decides httpsToo = some https) (plan : Plan)
    (suffix : UniqueSuffix) :
    ∀ resource ∈ rulePriorityResources plan suffix,
      scope.Keeps (ownRoutingNeeds https resource.1) → resource.2.Closed scope := by
  simp only [rulePriorityResources, List.forall_mem_cons]
  refine ⟨fun _ => ?_, fun keeps => ?_, fun keeps => ?_, by simp⟩
  · apply closed_of_properties (helperRole_sound _) rfl rfl rfl
    simp
  · exact helperFunction_closed plan _ _ suffix (keeps _ List.mem_cons_self)
  · have named : scope.Keeps [.rulePriorityFunction, .envControllerAction] := keeps
    have token : Role.rulePriorityFunction.arn.Sound scope := named.arn (by decide)
    have listener : (Expr.choose httpsToo httpsListener httpListener).Sound scope := by
      apply sound_choose decided
      cases https <;> exact named _ (by decide)
    apply closed_of_properties _ rfl rfl rfl
    simp [token, listener]

theorem pathCondition_sound (declares : scope.DeclaresRouting https) :
    pathCondition.Sound scope := by
  obtain ⟨root, decided⟩ := declares.rootPath
  have values : (Expr.choose isRootPath (.texts ["/*"])
      (.list [.substitute "/$\x7bRulePath\x7d",
        .substitute "/$\x7bRulePath\x7d/*"])).Sound scope := by
    apply sound_choose decided
    cases root <;> simp (disch := decide) [declares.own.pathPattern]
  simp [pathCondition, values]

theorem hostCondition_sound (declares : scope.DeclaresRouting https) :
    hostCondition.Sound scope := by
  obtain ⟨given, decided⟩ := declares.aliases
  apply sound_choose decided
  cases given <;> simp (disch := decide) [Expr.noValue, knows_pseudo, declares.own.parameter]

theorem listenerRule_closed (declares : scope.DeclaresRouting https) {condition name : String}
    {action : Expr} {conditions : List Expr} (named : condition ∈ [httpOnly, httpsToo])
    (keeps : scope.Keeps ruleNeeds)
    (actionSound : action.Sound scope) (conditionsSound : ItemsSound scope conditions) :
    (listenerRule condition (Role.envControllerAction.get name) action conditions).Closed
      scope where
  condition := by
    intro name isCondition
    cases isCondition
    exact declares.ruleConditions condition named
  properties := Expr.Sound.closed (by
    simp (disch := decide) [listenerRule, actionSound, conditionsSound, keeps.get])
  metadata := by simp [listenerRule]
  dependsOn := by simp [listenerRule]

theorem forward_sound (survives : scope.survives Role.targetGroup.id) : forward.Sound scope := by
  have group : Role.targetGroup.ref.Sound scope := Or.inr (Or.inl survives)
  simp [forward, group]

theorem ruleWaitHandle_closed (decided : scope.decides httpsToo = some https)
    (survives : scope.survives (appliedRule https).id) : ruleWaitHandle.Closed scope where
  condition := by simp [ruleWaitHandle]
  properties := Expr.Sound.closed trivial
  metadata := by
    intro metadata isMetadata
    cases isMetadata
    -- only the rule that the listener's condition leaves is named
    have rule : (Expr.choose httpsToo Role.httpsListenerRule.ref
        Role.httpListenerRule.ref).Sound scope := by
      apply sound_choose decided
      cases https <;> exact Or.inr (Or.inl survives)
    exact Expr.Sound.closed (by simp [rule])
  dependsOn := by
    intro id member
    cases member

theorem listenerRules_closed (declares : scope.DeclaresRouting https) :
    ∀ resource ∈ listenerRules,
      scope.Keeps (ownRoutingNeeds https resource.1) → resource.2.Closed scope := by
  have redirects : redirect.Sound scope := by simp [redirect]
  have path := pathCondition_sound declares
  have host := hostCondition_sound declares
  simp only [listenerRules, List.forall_mem_cons]
  refine ⟨fun keeps => ?_, fun keeps => ?_, fun keeps => ?_, fun keeps => ?_, by simp⟩
  · have forwards : forward.Sound scope := forward_sound (keeps.right _ List.mem_cons_self)
    exact listenerRule_closed declares (by simp) keeps.left forwards (by simp [path])
  · have forwards : forward.Sound scope := forward_sound (keeps.right _ List.mem_cons_self)
    exact listenerRule_closed declares (by simp) keeps.left forwards (by simp [path, host])
  · exact listenerRule_closed declares (by simp) keeps redirects (by simp [path])
  · exact ruleWaitHandle_closed declares.rule (keeps _ List.mem_cons_self)

theorem routedService_closed (declares : scope.DeclaresRouting https) (plan : Plan)
    (routing : Routing) (keeps : scope.Keeps (routingNeeds https .service)) :
    (routedService plan routing).Closed scope where
  condition := by simp [routedService]
  properties := by
    have port := declares.base.parameter (show .containerPort ∈ baseKeys by decide)
    have common := serviceProperties_sound declares.base.portless keeps.left plan fun _ => port
    have group : Role.targetGroup.ref.Sound scope := keeps.right.ref List.mem_cons_self
    exact Expr.Sound.closed (by
      simp (disch := decide) [routedService, common, declares.own.parameter, group])
  metadata := by
    intro metadata isMetadata
    cases isMetadata
  dependsOn := by
    intro id member
    have own : scope.Keeps [.targetGroup, .listenerRuleWaitHandle, .envControllerAction] :=
      keeps.right
    simp only [routedService, List.mem_cons, List.not_mem_nil, or_false] at member
    rcases member with rfl | rfl
    · exact own .listenerRuleWaitHandle (by decide)
    · exact own .envControllerAction (by decide)

theorem routingOutputs_closed (declares : scope.Declares baseKeys) (suffix : UniqueSuffix) :
    ∀ output ∈ routingOutputs suffix, output.2.Closed scope := by
  have balancer : (Expr.ofEnvironment "PublicLoadBalancerDNSName").Sound scope :=
    declares.portless.exported (by decide)
  simp only [routingOutputs, List.forall_mem_cons]
  refine ⟨⟨Expr.Sound.closed trivial, ?_⟩, ⟨balancer.closed, ?_⟩, by simp⟩
  · intro name isName
    cases isName
  · intro name isName
    cases isName

end Stackwright
