import Stackwright.Deployment
import Stackwright.Proofs.Stack.Contents
import Stackwright.Proofs.Stack.SuffixFaults
import Stackwright.Proofs.Template.Fields
import Stackwright.Proofs.Workload.Minimal

/-!
The suffix of a stack over a run of deployments. What a deployment writes into the outputs is read
back by the next one, and is used again.
-/

namespace Stackwright

namespace UniqueSuffix

theorem parse_eq_ok {text : String} (present : text ≠ "") {suffix : UniqueSuffix} :
    parse text present = .ok suffix ↔ suffix.text = text := by
  constructor
  · intro parsed
    rw [parse] at parsed
    split at parsed
    · split at parsed
      · cases parsed
        rfl
      · cases parsed
    · cases parsed
  · intro same
    subst same
    rw [parse, dif_pos suffix.short, dif_pos suffix.allowed]

theorem choose_text (suffix fresh : UniqueSuffix) :
    choose (some suffix.text) fresh = .ok suffix := by
  rw [choose, dif_pos suffix.present]
  exact (parse_eq_ok suffix.present).mpr rfl

theorem ofOutputs_eq_some {outputs : Outputs} {suffix : UniqueSuffix} :
    ofOutputs outputs = some suffix ↔ outputs.get? outputName = some suffix.text := by
  rw [ofOutputs]
  cases held : outputs.get? outputName with
  | none => simp
  | some text =>
      simp only [Option.bind_eq_bind, Option.bind_some, Option.some.injEq]
      by_cases present : text ≠ ""
      · rw [dif_pos present, toOption_eq_some, parse_eq_ok present]
        exact eq_comm
      · rw [dif_neg present]
        constructor
        · intro read
          cases read
        · intro same
          exact absurd (same ▸ suffix.present) present

end UniqueSuffix

open UniqueSuffix

structure Deployment where
  workload : Workload
  app : String
  environment : String
  settings : Settings
  fresh : UniqueSuffix

namespace Deployment

def on (deployment : Deployment) (outputs : Outputs) : Except StackError Stack × Outputs :=
  deploy outputs deployment.workload deployment.app deployment.environment deployment.settings
    deployment.fresh

def Balanced (deployment : Deployment) : Prop :=
  ∃ resolved, deployment.workload.resolve deployment.environment = .ok resolved ∧
    resolved.kind = .loadBalanced

end Deployment

inductive Step where
  | change (outputs : Outputs)
  | deploy (deployment : Deployment)

def Step.after (outputs : Outputs) : Step → Outputs
  | .change others => others
  | .deploy deployment => (deployment.on outputs).2

def run (outputs : Outputs) (steps : List Step) : Outputs := steps.foldl Step.after outputs

def Template.functionName? (template : Template) (role : Role) : Option String :=
  ((template.resources.get? role.id).bind fun resource =>
    resource.properties.field? "FunctionName").bind Expr.text?

/-- The suffix is that of the stack, and shows wherever it has to. -/
structure Stack.Uses (stack : Stack) (suffix : UniqueSuffix) : Prop where
  held : stack.uniqueSuffix = some suffix
  functions : ∀ role ∈ [Role.rulePriorityFunction, Role.envControllerFunction],
    ∃ name, stack.template.functionName? role = some (name ++ "-" ++ suffix.text)
  output : stack.template.outputText? outputName = some suffix.text

theorem loadBalanced_output (plan : Plan) (routing : Routing) (suffix : UniqueSuffix) :
    (loadBalancedStack plan routing suffix).template.outputText? outputName = some suffix.text := by
  have distinct : ((commonOutputs ++ routingOutputs suffix).map Prod.fst).Nodup := by
    show ["DiscoveryServiceARN", "UniqueSuffix", "PublicLoadBalancerDNSName"].Nodup
    decide +kernel
  obtain ⟨output, there, valueIs⟩ : ∃ output, (commonOutputs ++ routingOutputs suffix)[1]? =
      some (outputName, output) ∧ output.value = .text suffix.text := ⟨_, rfl, rfl⟩
  have found : (loadBalancedStack plan routing suffix).template.outputs.get? outputName =
      some output := findEntry_sortEntries_of_mem distinct (List.mem_of_getElem? there)
  rw [Template.outputText?, found, Option.map_some, valueIs]

theorem loadBalanced_functionName (plan : Plan) (routing : Routing) (suffix : UniqueSuffix)
    {role runAs : Role} {payload : Payload} (index : Nat)
    (there : (loadBalancedResources plan routing suffix)[index]? =
      some (role, helperFunction plan role runAs payload suffix)) :
    (loadBalancedStack plan routing suffix).template.functionName? role =
      some (plan.names.unique role suffix maxFunctionName) := by
  have held := loadBalanced_resource plan routing suffix index there
  rw [Template.functionName?, held]
  simp [helperFunction, Expr.field?, findEntry, Expr.text?]

theorem loadBalanced_uses (plan : Plan) (routing : Routing) (suffix : UniqueSuffix) :
    (loadBalancedStack plan routing suffix).Uses suffix where
  held := rfl
  functions := by
    intro role member
    simp only [List.mem_cons, List.not_mem_nil, or_false] at member
    rcases member with rfl | rfl
    · exact ⟨_, loadBalanced_functionName plan routing suffix 10 rfl⟩
    · exact ⟨_, loadBalanced_functionName plan routing suffix 7 rfl⟩
  output := loadBalanced_output plan routing suffix

theorem readable_after_use {stack : Stack} {suffix : UniqueSuffix} (uses : stack.Uses suffix)
    (outputs : Outputs) : ofOutputs (stack.outputsAfter outputs) = some suffix := by
  rw [ofOutputs_eq_some, Stack.outputsAfter, uses.output]
  simp only [Dict.get?_insert, if_true]

variable {outputs : Outputs} {deployment : Deployment} {stack : Stack} {suffix : UniqueSuffix}

theorem afterDeployment_of_readable (settings : Settings)
    (readable : ofOutputs outputs = some suffix) :
    settings.afterDeployment outputs = { settings with uniqueSuffix := some suffix.text } := by
  rw [Settings.afterDeployment, readable]

theorem on_eq_ok (succeeds : (deployment.on outputs).1 = .ok stack) :
    compileFor deployment.workload deployment.app deployment.environment
        (deployment.settings.afterDeployment outputs) deployment.fresh = .ok stack ∧
      (deployment.on outputs).2 = stack.outputsAfter outputs := by
  rw [Deployment.on, deploy] at succeeds ⊢
  split at succeeds
  · rename_i compiled
    cases succeeds
    simp [compiled]
  · cases succeeds

theorem on_eq_error {error : StackError} (fails : (deployment.on outputs).1 = .error error) :
    compileFor deployment.workload deployment.app deployment.environment
        (deployment.settings.afterDeployment outputs) deployment.fresh = .error error ∧
      (deployment.on outputs).2 = outputs := by
  rw [Deployment.on, deploy] at fails ⊢
  split at fails
  · cases fails
  · rename_i compiled
    cases fails
    simp [compiled]

theorem balanced_uses (balanced : deployment.Balanced)
    (succeeds : (deployment.on outputs).1 = .ok stack) :
    ∃ suffix, UniqueSuffix.choose (deployment.settings.afterDeployment outputs).uniqueSuffix
        deployment.fresh = .ok suffix ∧ stack.Uses suffix ∧
      ofOutputs (deployment.on outputs).2 = some suffix := by
  obtain ⟨compiled, after⟩ := on_eq_ok succeeds
  obtain ⟨resolved, resolves, isBalanced⟩ := balanced
  obtain ⟨again, resolvesAgain, compiled⟩ := compileFor_eq_ok.mp compiled
  have same := Except.ok.inj (resolves.symm.trans resolvesAgain)
  subst same
  obtain ⟨plan, routing, suffix, _, _, chosen, rfl⟩ := compile_loadBalanced isBalanced compiled
  have uses := loadBalanced_uses plan routing suffix
  refine ⟨suffix, chosen, uses, ?_⟩
  rw [after]
  exact readable_after_use uses outputs

theorem readable_chosen (settings : Settings) (fresh : UniqueSuffix)
    (readable : ofOutputs outputs = some suffix) :
    choose (settings.afterDeployment outputs).uniqueSuffix fresh = .ok suffix := by
  rw [afterDeployment_of_readable settings readable]
  exact choose_text suffix fresh

theorem readable_used (readable : ofOutputs outputs = some suffix) (balanced : deployment.Balanced)
    (succeeds : (deployment.on outputs).1 = .ok stack) :
    stack.Uses suffix ∧ ofOutputs (deployment.on outputs).2 = some suffix := by
  obtain ⟨chosen, isChosen, uses, after⟩ := balanced_uses balanced succeeds
  have same := Except.ok.inj (isChosen.symm.trans (readable_chosen _ _ readable))
  subst same
  exact ⟨uses, after⟩

/-- The step leaves a readable suffix where it is: it does not touch the output of that name, or
it is a deployment that fails or is a load balanced one. -/
def Step.Keeps (outputs : Outputs) : Step → Prop
  | .change others => others.get? outputName = outputs.get? outputName
  | .deploy deployment =>
    ∀ stack, (deployment.on outputs).1 = .ok stack → deployment.Balanced

def Keeps : Outputs → List Step → Prop
  | _, [] => True
  | outputs, step :: rest => step.Keeps outputs ∧ Keeps (step.after outputs) rest

theorem step_keeps {step : Step} (readable : ofOutputs outputs = some suffix)
    (keeps : step.Keeps outputs) : ofOutputs (step.after outputs) = some suffix := by
  cases step with
  | change others =>
      rw [ofOutputs_eq_some] at readable ⊢
      exact keeps.trans readable
  | deploy deployment =>
      cases outcome : (deployment.on outputs).1 with
      | error fault =>
          have unchanged : (deployment.on outputs).2 = outputs := (on_eq_error outcome).2
          rw [Step.after, unchanged]
          exact readable
      | ok stack => exact (readable_used readable (keeps stack outcome) outcome).2

theorem run_keeps {steps : List Step} (readable : ofOutputs outputs = some suffix)
    (keeps : Keeps outputs steps) : ofOutputs (run outputs steps) = some suffix := by
  -- on the steps; each leaves the suffix readable for the next one
  induction steps generalizing outputs with
  | nil => exact readable
  | cons step rest ih =>
      have readableAfter := step_keeps readable keeps.1
      exact ih readableAfter keeps.2

theorem backend_output (plan : Plan) :
    (backendStack plan).template.outputText? outputName = none := by
  have missing : (backendStack plan).template.outputs.get? outputName = none := by
    show findEntry outputName (sortEntries commonOutputs) = none
    rw [findEntry_eq_none_iff]
    intro e member
    cases List.mem_singleton.mp (mem_of_mem_sortEntries member)
    decide +kernel
  rw [Template.outputText?, missing]
  rfl

theorem unbalanced_drops (unbalanced : ¬ deployment.Balanced)
    (succeeds : (deployment.on outputs).1 = .ok stack) :
    ofOutputs (deployment.on outputs).2 = none := by
  obtain ⟨compiled, after⟩ := on_eq_ok succeeds
  obtain ⟨resolved, resolves, compiled⟩ := compileFor_eq_ok.mp compiled
  cases kind : resolved.kind with
  | loadBalanced => exact absurd ⟨resolved, resolves, kind⟩ unbalanced
  | backend =>
      obtain ⟨plan, _, rfl⟩ := compile_backend kind compiled
      have erased : ((backendStack plan).outputsAfter outputs).get? outputName = none := by
        simp only [Stack.outputsAfter, backend_output, Dict.get?_erase, if_true]
      rw [after, ofOutputs, erased]
      rfl

theorem read_iff (outputs : Outputs) (text : String) (fresh : UniqueSuffix) :
    (ofOutputs outputs).map UniqueSuffix.text = some text ↔
      outputs.get? outputName = some text ∧ text ≠ "" ∧
        ∃ suffix, choose (some text) fresh = .ok suffix ∧ suffix.text = text := by
  constructor
  · intro reads
    obtain ⟨suffix, readable, rfl⟩ := Option.map_eq_some_iff.mp reads
    exact ⟨ofOutputs_eq_some.mp readable, suffix.present, suffix, choose_text suffix fresh, rfl⟩
  · rintro ⟨held, _, suffix, _, rfl⟩
    rw [ofOutputs_eq_some.mpr held]
    rfl

structure SuffixSurvives (outputs : Outputs) : Prop where
  /-- The suffix that is read is the output of its name, if it could be supplied as it is. -/
  read : ∀ text fresh, (ofOutputs outputs).map UniqueSuffix.text = some text ↔
    outputs.get? outputName = some text ∧ text ≠ "" ∧
      ∃ suffix, choose (some text) fresh = .ok suffix ∧ suffix.text = text
  used : ∀ (deployment : Deployment) stack suffix, ofOutputs outputs = some suffix →
    deployment.Balanced → (deployment.on outputs).1 = .ok stack →
      stack.Uses suffix ∧ ofOutputs (deployment.on outputs).2 = some suffix
  accepted : ∀ (deployment : Deployment) suffix error, ofOutputs outputs = some suffix →
    (deployment.on outputs).1 = .error error → error.feature? ≠ some "unique_suffix"
  /-- The suffix of a load balanced deployment is readable after it, wherever it came from. -/
  left : ∀ (deployment : Deployment) stack, deployment.Balanced →
    (deployment.on outputs).1 = .ok stack →
      ∃ suffix, stack.Uses suffix ∧ ofOutputs (deployment.on outputs).2 = some suffix
  /-- It stays readable, and is used again, until a step does not keep it. -/
  lasts : ∀ suffix steps, ofOutputs outputs = some suffix → Keeps outputs steps →
    ofOutputs (run outputs steps) = some suffix ∧
      ∀ (deployment : Deployment) stack, deployment.Balanced →
        (deployment.on (run outputs steps)).1 = .ok stack → stack.Uses suffix
  /-- A successful deployment of another kind leaves none. -/
  dropped : ∀ (deployment : Deployment) stack, ¬ deployment.Balanced →
    (deployment.on outputs).1 = .ok stack → ofOutputs (deployment.on outputs).2 = none

/-- Wherever a run starts and whatever its steps are, the suffix survives it. -/
theorem suffix_survives (initial : Outputs) (steps : List Step) :
    SuffixSurvives (run initial steps) where
  read := read_iff _
  used _ _ _ := readable_used
  accepted _ _ _ readable fails :=
    compileFor_blameless (readable_chosen _ _ readable) (on_eq_error fails).1
  left _ _ balanced succeeds := by
    obtain ⟨suffix, _, uses, after⟩ := balanced_uses balanced succeeds
    exact ⟨suffix, uses, after⟩
  lasts _ _ readable keeps := by
    have still := run_keeps readable keeps
    refine ⟨still, ?_⟩
    intro deployment stack balanced succeeds
    exact (readable_used still balanced succeeds).1
  dropped _ _ := unbalanced_drops

/-- A service whose stack held the suffix `s1` is deployed with it again. It is first deployed with
`s1` too; its stack then comes to other outputs and is updated, and one more deployment uses `s1`. -/
theorem suffix_survives_served :
    let held : UniqueSuffix := ⟨"s1", by decide, by decide, by decide⟩
    let start : Deployment := ⟨.served "api", "shop", "test", {}, held⟩
    let next : Deployment := { start with fresh := ⟨"s2", by decide, by decide, by decide⟩ }
    let first := run .empty [.deploy start]
    let steps := [.change (first.insert "Url" "api.example"), .deploy next]
    (∃ stack, (next.on (Dict.empty.insert outputName "s1")).1 = .ok stack ∧ stack.Uses held) ∧
    Keeps first steps ∧ ofOutputs (run first steps) = some held ∧
    ∃ stack, (next.on (run first steps)).1 = .ok stack ∧ stack.Uses held := by
  intro held start next first steps
  have balanced : next.Balanced := ⟨_, rfl, rfl⟩
  have startBalanced : start.Balanced := balanced
  have deployed : ∀ {outputs}, ofOutputs outputs = some held →
      ∃ stack, (next.on outputs).1 = .ok stack := by
    intro outputs readable
    obtain ⟨stack, compiled⟩ : ∃ stack, compileFor (.served "api") "shop" "test"
        { uniqueSuffix := some "s1" } next.fresh = .ok stack := ⟨_, rfl⟩
    have reused : compileFor next.workload next.app next.environment
        (next.settings.afterDeployment outputs) next.fresh = .ok stack := by
      rw [afterDeployment_of_readable _ readable]
      exact compiled
    refine ⟨stack, ?_⟩
    rw [Deployment.on, deploy, reused]
  have readable : ofOutputs (Dict.empty.insert outputName "s1") = some held := by
    rw [ofOutputs_eq_some]
    exact Dict.get?_insert _ _ _ _
  obtain ⟨again, redeployed⟩ := deployed readable
  have usesAgain := ((suffix_survives _ []).used next again _ readable balanced redeployed).1
  have readableFirst : ofOutputs first = some held := by
    obtain ⟨stack, succeeds⟩ : ∃ stack, (start.on .empty).1 = .ok stack := ⟨_, rfl⟩
    obtain ⟨chosen, isChosen, _, after⟩ := balanced_uses startBalanced succeeds
    cases isChosen
    exact after
  have keeps : Keeps first steps := by
    refine ⟨?_, fun _ _ => balanced, trivial⟩
    exact Dict.get?_insert first "Url" outputName "api.example"
  obtain ⟨still, uses⟩ := (suffix_survives .empty [.deploy start]).lasts _ _ readableFirst keeps
  obtain ⟨stack, succeeds⟩ := deployed still
  exact ⟨⟨again, redeployed, usesAgain⟩, keeps, still, stack, succeeds,
    uses next stack balanced succeeds⟩

end Stackwright
