import Stackwright.Proofs.Stack.ClosedStack
import Stackwright.Proofs.Template.Fields

/-!
The priorities of listener rules, and the listeners on which they were looked up. Two listeners do
not share their priorities: one that is free on the one may be taken on the other.
-/

namespace Stackwright

def listenerRuleType : String := "AWS::ElasticLoadBalancingV2::ListenerRule"
def rulePriorityType : String := "Custom::RulePriorityFunction"

abbrev Attributes := String → String → String

/-- What an attribute stands for, once the conditions are decided. -/
def Expr.attributeValue? (decides : String → Option Bool) (attributes : Attributes)
    (expr : Expr) : Option String :=
  match expr.resolved decides with
  | .getAttribute resource name => some (attributes resource name)
  | _ => none

namespace Stack

variable (stack : Stack) (attributes : Attributes)

def listener? (resource : Resource) : Option String :=
  (resource.properties.field? "ListenerArn").bind
    (Expr.attributeValue? stack.scope.decides attributes)

/-- The rule has its priority from a resource that looked for a free one on the rule's listener. -/
def PriorityFromOwnListener (rule : Resource) : Prop :=
  ∃ id lookup listener,
    rule.properties.field? "Priority" = some (.getAttribute id "Priority") ∧
    stack.template.resources.get? id = some lookup ∧
    stack.scope.survives id ∧
    lookup.type = rulePriorityType ∧
    stack.listener? attributes lookup = some listener ∧
    stack.listener? attributes rule = some listener

def HasRule (id : String) (rule : Resource) : Prop :=
  stack.template.resources.get? id = some rule ∧ rule.type = listenerRuleType ∧
    stack.scope.survives id

end Stack

section

variable {decides : String → Option Bool} {attributes : Attributes}

theorem Role.attributeValue?_get (role : Role) (name : String) :
    (role.get name).attributeValue? decides attributes = some (attributes role.id name) := rfl

theorem Expr.attributeValue?_choose {condition : String} {yes no : Expr} {chosen : Bool}
    (decided : decides condition = some chosen) :
    (Expr.choose condition yes no).attributeValue? decides attributes =
      (if chosen then yes else no).attributeValue? decides attributes := by
  cases chosen <;> simp [Expr.attributeValue?, Expr.resolved, decided]

end

section

variable (plan : Plan) (routing : Routing) (suffix : UniqueSuffix)

def rulePriorityLookup : Resource where
  type := rulePriorityType
  properties := .record [
    ("ServiceToken", Role.rulePriorityFunction.arn),
    ("ListenerArn", .choose httpsToo httpsListener httpListener)]

theorem loadBalanced_lookup :
    (loadBalancedStack plan routing suffix).template.resources.get? Role.rulePriorityAction.id =
      some rulePriorityLookup := loadBalanced_resource plan routing suffix 11 rfl

def lookupListener (https : Bool) : String :=
  if https then "HTTPSListenerArn" else "HTTPListenerArn"

theorem rulePriorityLookup_listener :
    rulePriorityLookup.properties.field? "ListenerArn" =
      some (.choose httpsToo httpsListener httpListener) := by
  simp [rulePriorityLookup, Expr.field?, findEntry]

variable {attributes : Attributes}

theorem loadBalanced_lookup_listener :
    (loadBalancedStack plan routing suffix).listener? attributes rulePriorityLookup =
      some (attributes Role.envControllerAction.id
        (lookupListener plan.settings.httpsListener)) := by
  have decided := loadBalanced_decides_https plan routing suffix
  rw [Stack.listener?, rulePriorityLookup_listener, Option.bind_some,
    Expr.attributeValue?_choose decided]
  cases plan.settings.httpsListener <;> rfl

section Rule

variable {condition name : String} {action : Expr} {conditions : List Expr} (stack : Stack)

theorem listenerRule_listener : stack.listener? attributes
    (listenerRule condition (Role.envControllerAction.get name) action conditions) =
      some (attributes Role.envControllerAction.id name) := by
  rw [Stack.listener?]
  simp [listenerRule, Expr.field?, findEntry, Role.attributeValue?_get]

theorem listenerRule_priority {listener : Expr} :
    (listenerRule condition listener action conditions).properties.field? "Priority" =
      some (.getAttribute Role.rulePriorityAction.id "Priority") := by
  simp [listenerRule, Expr.field?, findEntry, Role.get]

theorem listenerRule_own_iff : (loadBalancedStack plan routing suffix).PriorityFromOwnListener
    attributes (listenerRule condition (Role.envControllerAction.get name) action conditions) ↔
      attributes Role.envControllerAction.id (lookupListener plan.settings.httpsListener) =
        attributes Role.envControllerAction.id name := by
  constructor
  · rintro ⟨id, lookup, listener, prioritised, found, _, _, looked, onListener⟩
    rw [listenerRule_priority] at prioritised
    cases prioritised
    cases (loadBalanced_lookup plan routing suffix).symm.trans found
    rw [loadBalanced_lookup_listener] at looked
    rw [listenerRule_listener] at onListener
    exact Option.some.inj (looked.trans onListener.symm)
  · intro same
    refine ⟨_, _, _, listenerRule_priority, loadBalanced_lookup plan routing suffix,
      loadBalanced_survives plan routing suffix 11 rfl rfl, rfl,
      loadBalanced_lookup_listener plan routing suffix, ?_⟩
    rw [listenerRule_listener, same]

end Rule

theorem scalingResources_noRule :
    (scalingResources plan).filter (fun r => r.2.type = listenerRuleType) = [] := by
  rw [scalingResources]
  cases plan.task.scaling with
  | none => rfl
  | some range =>
      cases cpu : range.cpuTarget <;> cases memory : range.memoryPercentage <;>
        simp [cpu, memory, scalingTarget, scalingPolicy, listenerRuleType]

theorem loadBalanced_rules :
    (loadBalancedResources plan routing suffix).filter (fun r => r.2.type = listenerRuleType) =
      listenerRules.take 3 := by
  rw [loadBalancedResources, List.filter_append, scalingResources_noRule, List.append_nil]
  rfl

theorem holds_of_survives {id : String} {rule : Resource} {condition : String}
    {held : Bool} {stack : Stack} (found : stack.template.resources.get? id = some rule)
    (named : rule.condition = some condition) (survives : stack.scope.survives id)
    (decided : stack.scope.decides condition = some held) : held = true := by
  obtain ⟨same, foundAgain, kept⟩ := survives
  cases found.symm.trans foundAgain
  have notFalse := kept condition named
  cases held with
  | true => rfl
  | false => exact absurd decided notFalse

theorem loadBalanced_hasRule_iff {id : String} {rule : Resource} :
    (loadBalancedStack plan routing suffix).HasRule id rule ↔
      (id = Role.httpListenerRule.id ∧ plan.settings.httpsListener = false ∧
        rule = listenerRule httpOnly httpListener forward [pathCondition]) ∨
      (id = Role.httpsListenerRule.id ∧ plan.settings.httpsListener = true ∧
        rule = listenerRule httpsToo httpsListener forward [pathCondition, hostCondition]) ∨
      (id = Role.httpRedirectRule.id ∧ plan.settings.httpsListener = true ∧
        rule = listenerRule httpsToo httpListener redirect [pathCondition]) := by
  have decidesHttp := loadBalanced_decides_http plan routing suffix
  have decidesHttps := loadBalanced_decides_https plan routing suffix
  constructor
  · rintro ⟨found, isRule, survives⟩
    obtain ⟨role, member, rfl⟩ := mem_of_get?_resourcesById found
    have among : (role, rule) ∈ listenerRules.take 3 := by
      rw [← loadBalanced_rules plan routing suffix, List.mem_filter]
      exact ⟨member, decide_eq_true isRule⟩
    simp only [listenerRules, List.take_succ_cons, List.take_zero, List.mem_cons,
      List.not_mem_nil, or_false, Prod.mk.injEq] at among
    rcases among with ⟨rfl, rfl⟩ | ⟨rfl, rfl⟩ | ⟨rfl, rfl⟩
    · have only := holds_of_survives found rfl survives decidesHttp
      exact .inl ⟨rfl, by simpa using only, rfl⟩
    · exact .inr (.inl ⟨rfl, holds_of_survives found rfl survives decidesHttps, rfl⟩)
    · exact .inr (.inr ⟨rfl, holds_of_survives found rfl survives decidesHttps, rfl⟩)
  · rintro (⟨rfl, https, rfl⟩ | ⟨rfl, https, rfl⟩ | ⟨rfl, https, rfl⟩)
    · rw [https] at decidesHttp
      exact ⟨loadBalanced_resource plan routing suffix 12 rfl, rfl,
        loadBalanced_survives_under plan routing suffix 12 rfl rfl decidesHttp⟩
    · rw [https] at decidesHttps
      exact ⟨loadBalanced_resource plan routing suffix 13 rfl, rfl,
        loadBalanced_survives_under plan routing suffix 13 rfl rfl decidesHttps⟩
    · rw [https] at decidesHttps
      exact ⟨loadBalanced_resource plan routing suffix 14 rfl, rfl,
        loadBalanced_survives_under plan routing suffix 14 rfl rfl decidesHttps⟩

theorem loadBalanced_hasRedirect (https : plan.settings.httpsListener = true) :
    (loadBalancedStack plan routing suffix).HasRule Role.httpRedirectRule.id
      (listenerRule httpsToo httpListener redirect [pathCondition]) :=
  (loadBalanced_hasRule_iff plan routing suffix).mpr (.inr (.inr ⟨rfl, https, rfl⟩))

theorem loadBalanced_own_iff {id : String} {rule : Resource}
    (different : attributes Role.envControllerAction.id "HTTPListenerArn" ≠
      attributes Role.envControllerAction.id "HTTPSListenerArn")
    (hasRule : (loadBalancedStack plan routing suffix).HasRule id rule) :
    (loadBalancedStack plan routing suffix).PriorityFromOwnListener attributes rule ↔
      id ≠ Role.httpRedirectRule.id := by
  rcases (loadBalanced_hasRule_iff plan routing suffix).mp hasRule with
    ⟨rfl, https, rfl⟩ | ⟨rfl, https, rfl⟩ | ⟨rfl, https, rfl⟩
  · rw [httpListener, listenerRule_own_iff, https]
    simp [lookupListener, Role.id]
  · rw [httpsListener, listenerRule_own_iff, https]
    simp [lookupListener, Role.id]
  · rw [httpListener, listenerRule_own_iff, https]
    simp [lookupListener, different.symm]

end

/-- Each rule that survives has a priority that was looked up on its own listener, but for the rule
that redirects to HTTPS: it stands on the plain listener, and its priority was looked up on the
other. So all rules have such a priority just where there is no listener for HTTPS. -/
theorem rules_own_priority_iff {workload : Workload} {app environment : String}
    {settings : Settings} {fresh : UniqueSuffix} {stack : Stack} {attributes : Attributes}
    (balanced : workload.kind = .loadBalanced)
    (compiled : compile workload app environment settings fresh = .ok stack)
    (different : attributes Role.envControllerAction.id "HTTPListenerArn" ≠
      attributes Role.envControllerAction.id "HTTPSListenerArn") :
    (∀ id rule, stack.HasRule id rule →
      (stack.PriorityFromOwnListener attributes rule ↔ id ≠ Role.httpRedirectRule.id)) ∧
    ((∀ id rule, stack.HasRule id rule → stack.PriorityFromOwnListener attributes rule) ↔
      settings.httpsListener = false) := by
  obtain ⟨plan, routing, suffix, planned, _, _, rfl⟩ := compile_loadBalanced balanced compiled
  have sameSettings := Plan.of_settings planned
  have ownIff : ∀ id rule, (loadBalancedStack plan routing suffix).HasRule id rule →
      ((loadBalancedStack plan routing suffix).PriorityFromOwnListener attributes rule ↔
        id ≠ Role.httpRedirectRule.id) :=
    fun _ _ => loadBalanced_own_iff plan routing suffix different
  refine ⟨ownIff, ?_, ?_⟩
  · intro allOwn
    cases https : settings.httpsListener with
    | false => rfl
    | true =>
        rw [← sameSettings] at https
        have redirects := loadBalanced_hasRedirect plan routing suffix https
        exact absurd rfl ((ownIff _ _ redirects).mp (allOwn _ _ redirects))
  · intro plain id rule hasRule
    rw [← sameSettings] at plain
    rcases (loadBalanced_hasRule_iff plan routing suffix).mp hasRule with
      ⟨rfl, _⟩ | ⟨_, https, _⟩ | ⟨_, https, _⟩
    · exact (ownIff _ _ hasRule).mpr (by decide)
    · cases plain.symm.trans https
    · cases plain.symm.trans https

def namedAttributes : Attributes := fun resource name => resource ++ "." ++ name

theorem namedAttributes_listeners :
    namedAttributes Role.envControllerAction.id "HTTPListenerArn" ≠
      namedAttributes Role.envControllerAction.id "HTTPSListenerArn" := by decide

theorem rules_own_priority_served : ∃ stack,
    compile (.served "api") "shop" "test" {} ⟨"s1", by decide, by decide, by decide⟩ = .ok stack ∧
      ∀ id rule, stack.HasRule id rule → stack.PriorityFromOwnListener namedAttributes rule := by
  obtain ⟨stack, compiled⟩ : ∃ stack, compile (.served "api") "shop" "test" {}
      ⟨"s1", by decide, by decide, by decide⟩ = .ok stack := ⟨_, rfl⟩
  exact ⟨stack, compiled, (rules_own_priority_iff rfl compiled namedAttributes_listeners).2.mpr rfl⟩

/-- With a listener for HTTPS the priority of the redirecting rule is one of the other listener. -/
theorem redirectRule_priority_elsewhere : ∃ stack rule,
    compile (.served "api") "shop" "test" { httpsListener := true }
      ⟨"s1", by decide, by decide, by decide⟩ = .ok stack ∧
    stack.HasRule Role.httpRedirectRule.id rule ∧
    ¬ stack.PriorityFromOwnListener namedAttributes rule := by
  obtain ⟨stack, compiled⟩ : ∃ stack, compile (.served "api") "shop" "test"
      { httpsListener := true } ⟨"s1", by decide, by decide, by decide⟩ = .ok stack := ⟨_, rfl⟩
  obtain ⟨plan, routing, suffix, planned, _, _, rfl⟩ := compile_loadBalanced rfl compiled
  have https : plan.settings.httpsListener = true := by rw [Plan.of_settings planned]
  have redirects := loadBalanced_hasRedirect plan routing suffix https
  refine ⟨_, _, compiled, redirects, ?_⟩
  intro own
  exact (loadBalanced_own_iff plan routing suffix namedAttributes_listeners redirects).mp own rfl

end Stackwright
