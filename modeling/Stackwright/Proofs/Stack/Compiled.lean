import Stackwright.Proofs.Entries
import Stackwright.Proofs.Outcome
import Stackwright.Stack.Compile

/-!
What a compilation that succeeds is made of.
-/

namespace Stackwright

theorem require_eq_ok {α : Type} {field : RequiredField} {given : Option α} {value : α} :
    require field given = .ok value ↔ given = some value := by
  cases given <;> simp [require]

variable {workload : Workload} {app environment : String} {settings : Settings}
  {fresh : UniqueSuffix} {stack : Stack} {plan : Plan}

theorem Task.ofWorkload_port {task : Task} (made : Task.ofWorkload workload settings = .ok task) :
    task.port = workload.image.port := by
  simp only [Task.ofWorkload, bind_eq_ok] at made
  obtain ⟨image, _, cpu, _, memory, _, count, _, built⟩ := made
  cases count with
  | fixed tasks =>
      cases built
      rfl
  | scaled scaling =>
      obtain ⟨range, _, built⟩ := bind_eq_ok.mp built
      cases built
      rfl

theorem Plan.of_eq_ok (planned : Plan.of workload app environment settings = .ok plan) :
    workload.name ≠ "" ∧ ∃ task, Task.ofWorkload workload settings = .ok task ∧
      plan = ⟨workload, app, environment, settings, task⟩ := by
  rw [Plan.of] at planned
  by_cases unnamed : workload.name = ""
  · simp [unnamed, throw, throwThe, MonadExceptOf.throw, bind, Except.bind] at planned
  · simp only [unnamed, if_false] at planned
    obtain ⟨task, made, planned⟩ := bind_eq_ok.mp planned
    cases planned
    exact ⟨unnamed, task, made, rfl⟩

theorem Plan.of_workload (planned : Plan.of workload app environment settings = .ok plan) :
    plan.workload = workload := by
  obtain ⟨_, _, _, rfl⟩ := Plan.of_eq_ok planned
  rfl

theorem Plan.of_settings (planned : Plan.of workload app environment settings = .ok plan) :
    plan.settings = settings := by
  obtain ⟨_, _, _, rfl⟩ := Plan.of_eq_ok planned
  rfl

theorem Task.ofWorkload_sameImage {other : Settings} (sameImage : other.image = settings.image) :
    Task.ofWorkload workload other = Task.ofWorkload workload settings := by
  simp only [Task.ofWorkload, sameImage]

/-- A change of the settings that keeps the image changes nothing but the settings of a plan. -/
theorem Plan.of_mapSettings (workload : Workload) (app environment : String) {settings : Settings}
    (change : Settings → Settings) (sameImage : (change settings).image = settings.image) :
    Plan.of workload app environment (change settings) =
      (Plan.of workload app environment settings).map fun plan =>
        { plan with settings := change plan.settings } := by
  rw [Plan.of, Plan.of, Task.ofWorkload_sameImage sameImage]
  by_cases unnamed : workload.name = ""
  · rw [if_pos unnamed, if_pos unnamed]
    rfl
  · rw [if_neg unnamed, if_neg unnamed]
    cases Task.ofWorkload workload settings <;> rfl

/-- A routing is made of the exposure that the workload is given, once its target and its aliases
are accepted. -/
theorem Routing.of_eq_ok_iff {routing : Routing} : Routing.of plan = .ok routing ↔
    ∃ http path mainPort target, plan.workload.http = some http ∧ http.path = some path ∧
      plan.task.port = some mainPort ∧
      routingTarget plan.workload http mainPort = .ok target ∧
      checkAliases plan.settings (http.aliases.getD []) = .ok () ∧
      routing = ⟨http, rulePath path, target.1, target.2, http.aliases.getD [],
        (http.healthCheck.map HealthCheckSetting.settings).getD {}⟩ := by
  constructor
  · intro routed
    obtain ⟨http, exposed, routed⟩ := bind_eq_ok.mp routed
    obtain ⟨path, pathed, routed⟩ := bind_eq_ok.mp routed
    obtain ⟨mainPort, ported, routed⟩ := bind_eq_ok.mp routed
    obtain ⟨target, targeted, routed⟩ := bind_eq_ok.mp routed
    obtain ⟨_, accepted, routed⟩ := bind_eq_ok.mp routed
    exact ⟨http, path, mainPort, target, require_eq_ok.mp exposed, require_eq_ok.mp pathed,
      require_eq_ok.mp ported, targeted, accepted, (Except.ok.inj routed).symm⟩
  · rintro ⟨http, path, mainPort, target, exposed, pathed, ported, targeted, accepted, rfl⟩
    simp only [Routing.of, exposed, pathed, ported, require, bind, Except.bind, targeted, accepted]
    rfl

theorem Routing.of_eq_ok {routing : Routing} (routed : Routing.of plan = .ok routing) :
    ∃ http mainPort, plan.workload.http = some http ∧ plan.task.port = some mainPort ∧
      routingTarget plan.workload http mainPort =
        .ok (routing.targetContainer, routing.targetPort) := by
  obtain ⟨http, _, mainPort, _, exposed, _, ported, targeted, _, rfl⟩ :=
    Routing.of_eq_ok_iff.mp routed
  exact ⟨http, mainPort, exposed, ported, targeted⟩

def backendStack (plan : Plan) : Stack where
  name := plan.names.stack
  template := backendTemplate plan (.of (baseParameters plan))
  parameters := (Parameters.of (baseParameters plan)).toList
  uniqueSuffix := none
  tags := plan.tags

def loadBalancedStack (plan : Plan) (routing : Routing) (suffix : UniqueSuffix) : Stack where
  name := plan.names.stack
  template := loadBalancedTemplate plan routing
    (.of (baseParameters plan ++ routingParameters plan routing)) suffix
  parameters := (Parameters.of (baseParameters plan ++ routingParameters plan routing)).toList
  uniqueSuffix := some suffix
  tags := plan.tags

theorem compile_backend (isBackend : workload.kind = .backend)
    (compiled : compile workload app environment settings fresh = .ok stack) :
    ∃ plan, Plan.of workload app environment settings = .ok plan ∧ stack = backendStack plan := by
  obtain ⟨plan, planned, compiled⟩ := bind_eq_ok.mp compiled
  obtain ⟨parameters, valued, compiled⟩ := bind_eq_ok.mp compiled
  rw [isBackend] at compiled
  rw [planParameters, Plan.of_workload planned, isBackend] at valued
  cases http : workload.http with
  | some exposure => simp [http] at valued
  | none =>
      simp only [http] at valued
      have parametersAre := Except.ok.inj valued
      subst parametersAre
      exact ⟨plan, planned, (Except.ok.inj compiled).symm⟩

theorem compile_loadBalanced (balanced : workload.kind = .loadBalanced)
    (compiled : compile workload app environment settings fresh = .ok stack) :
    ∃ plan routing suffix, Plan.of workload app environment settings = .ok plan ∧
      Routing.of plan = .ok routing ∧
      UniqueSuffix.choose settings.uniqueSuffix fresh = .ok suffix ∧
      stack = loadBalancedStack plan routing suffix := by
  obtain ⟨plan, planned, compiled⟩ := bind_eq_ok.mp compiled
  obtain ⟨parameters, valued, compiled⟩ := bind_eq_ok.mp compiled
  rw [balanced] at compiled
  rw [planParameters, Plan.of_workload planned, balanced] at valued
  obtain ⟨routing, routed, valued⟩ := bind_eq_ok.mp valued
  obtain ⟨suffix, chosen, compiled⟩ := bind_eq_ok.mp compiled
  obtain ⟨again, routedAgain, compiled⟩ := bind_eq_ok.mp compiled
  have sameRouting := Except.ok.inj (routed.symm.trans routedAgain)
  have parametersAre := Except.ok.inj valued
  subst sameRouting
  subst parametersAre
  exact ⟨plan, routing, suffix, planned, routed, chosen, (Except.ok.inj compiled).symm⟩

theorem compile_eq_loadBalancedStack {routing : Routing} {suffix : UniqueSuffix}
    (balanced : workload.kind = .loadBalanced)
    (planned : Plan.of workload app environment settings = .ok plan)
    (routed : Routing.of plan = .ok routing)
    (chosen : UniqueSuffix.choose settings.uniqueSuffix fresh = .ok suffix) :
    compile workload app environment settings fresh = .ok (loadBalancedStack plan routing suffix) := by
  have isBalanced : plan.workload.kind = .loadBalanced := Plan.of_workload planned ▸ balanced
  simp only [compile, planned, planParameters, isBalanced, routed, balanced, chosen, bind,
    Except.bind]
  rfl

theorem compileFor_eq_ok : compileFor workload app environment settings fresh = .ok stack ↔
    ∃ resolved, workload.resolve environment = .ok resolved ∧
      compile resolved app environment settings fresh = .ok stack := by
  rw [compileFor, bind_eq_ok]
  simp only [mapError_eq_ok]

end Stackwright
