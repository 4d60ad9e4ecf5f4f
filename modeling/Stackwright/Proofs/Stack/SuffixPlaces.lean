import Stackwright.Proofs.Deployment.Suffix
import Stackwright.Proofs.Stack.Change

/-!
Where the suffix of a stack shows. Two stacks of one service that are made with different suffixes
differ in the names of the helper functions and in the output for the suffix; all else is the same.
A backend service has no suffix, and none that is supplied for it is looked at.
-/

namespace Stackwright

open UniqueSuffix

def helperFunctions : List Role := [.envControllerFunction, .rulePriorityFunction]

def Template.withOutput (template : Template) (name : String) (value : Expr) : Template :=
  { template with
    outputs := template.outputs.mapEntries fun key output =>
      if key = name then { output with value := value } else output }

def Stack.withSuffix (stack : Stack) (suffix : UniqueSuffix) (rename : Role → String → String) :
    Stack :=
  { stack with
    uniqueSuffix := some suffix
    template :=
      (stack.template.withOutput outputName (.text suffix.text)).mapProperty "FunctionName"
        helperFunctions fun role => Expr.mapText (rename role) }

/-- A text that ends in `old`, with `new` in place of that end. -/
def replaceEnd (old new text : String) : String :=
  String.ofList (text.toList.take (text.toList.length - old.toList.length) ++ new.toList)

theorem replaceEnd_append (start old new : String) :
    replaceEnd old new (start ++ old) = start ++ new := by
  have kept : (start.toList ++ old.toList).take
      ((start.toList ++ old.toList).length - old.toList.length) = start.toList := by
    rw [List.length_append, Nat.add_sub_cancel, List.take_left]
  rw [replaceEnd, String.toList_append, kept, String.ofList_append, String.ofList_toList,
    String.ofList_toList]

theorem unique_prefix (names : StackNames) (role : Role) {first second : UniqueSuffix}
    (sameLength : first.text.utf8ByteSize = second.text.utf8ByteSize) :
    ∃ start, ∀ suffix ∈ [first, second],
      names.unique role suffix maxFunctionName = start ++ "-" ++ suffix.text := by
  refine ⟨names.physical role (maxFunctionName - (first.text.utf8ByteSize + 1)), ?_⟩
  intro suffix member
  simp only [List.mem_cons, List.not_mem_nil, or_false] at member
  rcases member with rfl | rfl
  · rfl
  · rw [sameLength]
    rfl

theorem loadBalanced_helperName (plan : Plan) (routing : Routing) (suffix : UniqueSuffix)
    {role : Role} (member : role ∈ helperFunctions) :
    (loadBalancedStack plan routing suffix).template.functionName? role =
      some (plan.names.unique role suffix maxFunctionName) := by
  simp only [helperFunctions, List.mem_cons, List.not_mem_nil, or_false] at member
  rcases member with rfl | rfl
  · exact loadBalanced_functionName plan routing suffix 7 rfl
  · exact loadBalanced_functionName plan routing suffix 10 rfl

def Plan.withSuffix (plan : Plan) (supplied : Option String) : Plan :=
  { plan with settings := { plan.settings with uniqueSuffix := supplied } }

section

variable (plan : Plan) (routing : Routing) (supplied : Option String) {first second : UniqueSuffix}
  {rename : Role → String → String}

theorem helperFunction_renamed {role runAs : Role} {payload : Payload}
    (renamed : rename role (plan.names.unique role first maxFunctionName) =
      plan.names.unique role second maxFunctionName) :
    (helperFunction plan role runAs payload first).mapProperty "FunctionName"
        (Expr.mapText (rename role)) =
      helperFunction (plan.withSuffix supplied) role runAs payload second := by
  have sameNames : (plan.withSuffix supplied).names = plan.names := rfl
  simp [helperFunction, Resource.mapProperty, Expr.mapField, Expr.mapText, renamed, sameNames]

theorem loadBalancedResources_renamed
    (renamed : ∀ role ∈ helperFunctions,
      rename role (plan.names.unique role first maxFunctionName) =
        plan.names.unique role second maxFunctionName) :
    (loadBalancedResources plan routing first).map
        (changed "FunctionName" helperFunctions fun role => Expr.mapText (rename role)) =
      loadBalancedResources (plan.withSuffix supplied) routing second := by
  have controller : Role.envControllerFunction ∈ helperFunctions := by decide
  have priority : Role.rulePriorityFunction ∈ helperFunctions := by decide
  have scaling := scalingResources_unchanged "FunctionName"
    (fun role => Expr.mapText (rename role)) plan
    (by decide : ∀ role ∈ scalingRoles, role ∉ helperFunctions)
  rw [loadBalancedResources, List.map_append, scaling]
  simp (disch := decide) only [taskResources, envControllerResources, rulePriorityResources,
    listenerRules, List.cons_append, List.nil_append, List.map_cons, List.map_nil,
    changed_of_not_mem]
  rw [changed_of_mem controller, changed_of_mem priority,
    helperFunction_renamed plan supplied (renamed _ controller),
    helperFunction_renamed plan supplied (renamed _ priority)]
  rfl

theorem routingOutputs_resuffixed (first second : UniqueSuffix) :
    (Dict.ofList (commonOutputs ++ routingOutputs first)).mapEntries (fun key output =>
        if key = outputName then { output with value := .text second.text } else output) =
      Dict.ofList (commonOutputs ++ routingOutputs second) := by
  rw [Dict.mapEntries_ofList]
  simp [commonOutputs, routingOutputs, outputName]

theorem loadBalancedStack_withSuffix
    (renamed : ∀ role ∈ helperFunctions,
      rename role (plan.names.unique role first maxFunctionName) =
        plan.names.unique role second maxFunctionName) :
    (loadBalancedStack plan routing first).withSuffix second rename =
      loadBalancedStack (plan.withSuffix supplied) routing second := by
  have resources := mapEntries_resourcesById "FunctionName"
    (fun role => Expr.mapText (rename role)) helperFunctions
    (loadBalancedResources plan routing first)
  rw [loadBalancedResources_renamed plan routing supplied renamed] at resources
  have outputs := routingOutputs_resuffixed first second
  have template : ((loadBalancedStack plan routing first).withSuffix second rename).template =
      (loadBalancedStack (plan.withSuffix supplied) routing second).template :=
    Template.ext rfl rfl rfl rfl resources outputs
  rw [Stack.withSuffix, Stack.mk.injEq]
  exact ⟨rfl, template, rfl, rfl, rfl⟩

end

section

variable (workload : Workload) (app environment : String) (settings : Settings)

theorem Plan.of_withSuffix (supplied : Option String) :
    Plan.of workload app environment { settings with uniqueSuffix := supplied } =
      (Plan.of workload app environment settings).map (Plan.withSuffix · supplied) :=
  Plan.of_mapSettings workload app environment
    (fun given => { given with uniqueSuffix := supplied }) rfl

/-- Nothing of a backend service depends on a suffix, not even its failures. -/
theorem compile_backend_withSuffix (isBackend : workload.kind = .backend)
    (supplied : Option String) (fresh other : UniqueSuffix) :
    compile workload app environment { settings with uniqueSuffix := supplied } other =
      compile workload app environment settings fresh := by
  rw [compile, compile, Plan.of_withSuffix]
  cases planned : Plan.of workload app environment settings with
  | error fault => rfl
  | ok plan =>
      have kindOf : plan.workload.kind = .backend := Plan.of_workload planned ▸ isBackend
      have sameParameters : planParameters (plan.withSuffix supplied) = planParameters plan := by
        have kindAgain : (plan.withSuffix supplied).workload.kind = .backend := kindOf
        rw [planParameters, planParameters, kindOf, kindAgain]
        rfl
      rw [isBackend]
      show (planParameters (plan.withSuffix supplied) >>= _) = (planParameters plan >>= _)
      rw [sameParameters]
      rfl

/-- A suffix reaches three places of a load balanced stack: the suffix that the stack is said to
have, the output for it, and the names of the two helper functions. With a suffix of the same length
the names differ in nothing but their ends. No suffix reaches a backend service. -/
theorem suffix_places (fresh : UniqueSuffix) (supplied : Option String) (other : UniqueSuffix) :
    (workload.kind = .loadBalanced → ∀ stack suffix,
      compile workload app environment settings fresh = .ok stack →
      UniqueSuffix.choose supplied other = .ok suffix →
      ∃ again used,
        compile workload app environment { settings with uniqueSuffix := supplied } other =
          .ok again ∧
        stack.Uses used ∧ again.Uses suffix ∧
        again = stack.withSuffix suffix (fun role _ =>
          StackNames.unique ⟨app, environment, workload.name⟩ role suffix maxFunctionName) ∧
        (used.text.utf8ByteSize = suffix.text.utf8ByteSize →
          again = stack.withSuffix suffix (fun _ => replaceEnd used.text suffix.text) ∧
          ∀ role ∈ helperFunctions, ∃ start,
            stack.template.functionName? role = some (start ++ "-" ++ used.text) ∧
            again.template.functionName? role = some (start ++ "-" ++ suffix.text))) ∧
    (workload.kind = .backend →
      compile workload app environment { settings with uniqueSuffix := supplied } other =
        compile workload app environment settings fresh) := by
  refine ⟨?_, fun isBackend =>
    compile_backend_withSuffix workload app environment settings isBackend supplied fresh other⟩
  intro balanced stack suffix compiled chosen
  obtain ⟨plan, routing, used, planned, routed, _, rfl⟩ := compile_loadBalanced balanced compiled
  have plannedAgain : Plan.of workload app environment { settings with uniqueSuffix := supplied } =
      .ok (plan.withSuffix supplied) := by
    rw [Plan.of_withSuffix, planned]
    rfl
  have routedAgain : Routing.of (plan.withSuffix supplied) = .ok routing := routed
  have compiledAgain := compile_eq_loadBalancedStack balanced plannedAgain routedAgain chosen
  have names : plan.names = ⟨app, environment, workload.name⟩ := by
    obtain ⟨_, _, _, rfl⟩ := Plan.of_eq_ok planned
    rfl
  refine ⟨_, used, compiledAgain, loadBalanced_uses plan routing used,
    loadBalanced_uses _ routing suffix, ?_, ?_⟩
  · symm
    apply loadBalancedStack_withSuffix
    intro role _
    rw [names]
  · intro sameLength
    constructor
    · symm
      apply loadBalancedStack_withSuffix
      intro role _
      obtain ⟨start, unique⟩ := unique_prefix plan.names role sameLength
      rw [unique used (by simp), unique suffix (by simp), replaceEnd_append]
    · intro role member
      obtain ⟨start, unique⟩ := unique_prefix plan.names role sameLength
      refine ⟨start, ?_, ?_⟩
      · rw [loadBalanced_helperName plan routing used member, unique used (by simp)]
      · rw [loadBalanced_helperName _ routing suffix member]
        exact congrArg some (unique suffix (by simp))

end

theorem suffix_places_served : ∃ stack again,
    compile (.served "api") "shop" "test" {} ⟨"s1", by decide, by decide, by decide⟩ = .ok stack ∧
      compile (.served "api") "shop" "test" { uniqueSuffix := some "t2" }
        ⟨"s3", by decide, by decide, by decide⟩ = .ok again ∧
      again = stack.withSuffix ⟨"t2", by decide, by decide, by decide⟩
        (fun _ => replaceEnd "s1" "t2") := by
  obtain ⟨stack, compiled, isUsed⟩ : ∃ stack,
      compile (.served "api") "shop" "test" {} ⟨"s1", by decide, by decide, by decide⟩ = .ok stack ∧
        stack.uniqueSuffix = some ⟨"s1", by decide, by decide, by decide⟩ := ⟨_, rfl, rfl⟩
  have places := suffix_places (.served "api") "shop" "test" {}
    ⟨"s1", by decide, by decide, by decide⟩ (some "t2") ⟨"s3", by decide, by decide, by decide⟩
  obtain ⟨again, used, compiledAgain, uses, _, _, sameLength⟩ :=
    places.1 rfl stack ⟨"t2", by decide, by decide, by decide⟩ compiled rfl
  cases isUsed.symm.trans uses.held
  exact ⟨stack, again, compiled, compiledAgain, (sameLength (by decide)).1⟩

end Stackwright
