import Stackwright.Proofs.Stack.Contents
import Stackwright.Proofs.Template.Closed
import Stackwright.Proofs.Template.Fields
import Stackwright.Proofs.Workload.Minimal

/-!
The target of a load balanced service, and the ports that the containers of its task map.
-/

namespace Stackwright

def Template.containers (template : Template) : List Expr :=
  match (template.resources.get? Role.taskDefinition.id).bind fun definition =>
      definition.properties.field? "ContainerDefinitions" with
  | some containers => containers.items
  | none => []

def containerName? (value? : String → Option String) (container : Expr) : Option String :=
  (container.field? "Name").bind (Expr.evaluate? value?)

def containerPorts (value? : String → Option String) (container : Expr) : List String :=
  match container.field? "PortMappings" with
  | some mappings => mappings.items.filterMap fun mapping =>
      (mapping.field? "ContainerPort").bind (Expr.evaluate? value?)
  | none => []

def Stack.runs (stack : Stack) (name : String) : Prop :=
  ∃ container ∈ stack.template.containers, containerName? stack.value? container = some name

def Stack.exposes (stack : Stack) (name port : String) : Prop :=
  ∃ container ∈ stack.template.containers, containerName? stack.value? container = some name ∧
    port ∈ containerPorts stack.value? container

def Workload.portsOf (workload : Workload) (name : String) : List UInt16 :=
  (if name = workload.name then workload.image.port.toList else [])
  ++ ((workload.sidecars.get? name).bind Sidecar.port).toList

theorem portText_injective {a b : UInt16} (same : toString a.toNat = toString b.toNat) : a = b := by
  rw [Nat.toString_eq_ofList_toDigits, Nat.toString_eq_ofList_toDigits] at same
  have digits : Nat.toDigits 10 a.toNat = Nat.toDigits 10 b.toNat := String.ofList_injective same
  have numbers : a.toNat = b.toNat := by
    calc
      a.toNat = Nat.ofDigitChars 10 (Nat.toDigits 10 a.toNat) 0 :=
        Nat.ofDigitChars_ten_toDigits.symm
      _ = Nat.ofDigitChars 10 (Nat.toDigits 10 b.toNat) 0 := by rw [digits]
      _ = b.toNat := Nat.ofDigitChars_ten_toDigits
  exact UInt16.toNat_inj.mp numbers

theorem portText_mem {ports : Option UInt16} {port : UInt16} :
    toString port.toNat ∈ (ports.map fun port => toString port.toNat).toList ↔
      ports = some port := by
  cases ports with
  | none => simp
  | some other =>
      simp only [Option.map_some, Option.toList_some, List.mem_singleton, Option.some.injEq]
      constructor
      · intro same
        exact (portText_injective same).symm
      · intro same
        rw [same]

section

variable (plan : Plan) {value? : String → Option String}

theorem mainContainer_name {name : String}
    (named : value? ParameterKey.workloadName.text = some name) :
    containerName? value? (mainContainer plan) = some name :=
  named

theorem mainContainer_mappings : (mainContainer plan).field? "PortMappings" =
    if plan.task.port.isSome then some (portMappings ParameterKey.containerPort.ref) else none := by
  simp [mainContainer, Expr.field?, findEntry_append, findEntry, findEntry_memberIf,
    findEntry_toList]

theorem mainContainer_ports (valued : value? ParameterKey.containerPort.text =
      some ((plan.task.port.map fun port => toString port.toNat).getD noPort)) :
    containerPorts value? (mainContainer plan) =
      (plan.task.port.map fun port => toString port.toNat).toList := by
  rw [containerPorts, mainContainer_mappings]
  cases port : plan.task.port with
  | none => rfl
  | some number =>
      rw [port] at valued
      simp [portMappings, Expr.items, Expr.field?, findEntry, ParameterKey.ref, Expr.evaluate?,
        valued]

theorem sidecarContainer_name (name : String) (sidecar : Sidecar) :
    containerName? value? (sidecarContainer name sidecar) = some name :=
  rfl

theorem sidecarContainer_ports (name : String) (sidecar : Sidecar) :
    containerPorts value? (sidecarContainer name sidecar) =
      (sidecar.port.map fun port => toString port.toNat).toList := by
  cases port : sidecar.port with
  | none => simp [containerPorts, sidecarContainer, port, Expr.field?, findEntry]
  | some number =>
      simp [containerPorts, sidecarContainer, port, Expr.field?, findEntry, portMappings,
        Expr.items, Expr.natural, Expr.evaluate?, Json.numberText, Number.ofUInt64]
      rfl

end

section

variable (plan : Plan) (routing : Routing) (suffix : UniqueSuffix)

theorem containers_of_taskDefinition {template : Template}
    (held : template.resources.get? Role.taskDefinition.id = some (taskDefinition plan)) :
    template.containers =
      mainContainer plan ::
        plan.workload.sidecars.entries.map fun entry => sidecarContainer entry.1 entry.2 := by
  rw [Template.containers, held]
  simp [taskDefinition, Expr.field?, findEntry, Expr.items]

theorem Stack.HoldsTask.containers {plan : Plan} {stack : Stack} (task : stack.HoldsTask plan) :
    stack.template.containers =
      mainContainer plan ::
        plan.workload.sidecars.entries.map fun entry => sidecarContainer entry.1 entry.2 :=
  containers_of_taskDefinition plan (task.held _ _ (by simp [taskResources]))

theorem Stack.HoldsTask.mainName {plan : Plan} {stack : Stack} (task : stack.HoldsTask plan) :
    containerName? stack.value? (mainContainer plan) = some plan.workload.name :=
  mainContainer_name plan
    (task.valued .workloadName (.ofText plan.workload.name) (by simp [baseParameters]))

theorem loadBalanced_containers : (loadBalancedStack plan routing suffix).template.containers =
    mainContainer plan ::
      plan.workload.sidecars.entries.map fun entry => sidecarContainer entry.1 entry.2 :=
  containers_of_taskDefinition plan (loadBalanced_resource plan routing suffix 3 rfl)

theorem loadBalanced_mainName :
    containerName? (loadBalancedStack plan routing suffix).value? (mainContainer plan) =
      some plan.workload.name :=
  mainContainer_name plan (loadBalanced_value plan routing suffix .workloadName rfl)

theorem loadBalanced_runs_iff (name : String) : (loadBalancedStack plan routing suffix).runs name ↔
    name = plan.workload.name ∨ (plan.workload.sidecars.get? name).isSome := by
  have mainNamed := loadBalanced_mainName plan routing suffix
  rw [Stack.runs, loadBalanced_containers]
  constructor
  · rintro ⟨container, member, named⟩
    rcases List.mem_cons.mp member with rfl | isSidecar
    · rw [mainNamed] at named
      exact Or.inl (Option.some.inj named).symm
    · obtain ⟨entry, present, rfl⟩ := List.mem_map.mp isSidecar
      rw [sidecarContainer_name] at named
      cases named
      right
      rw [Dict.mem_entries_iff.mp present]
      rfl
  · rintro (rfl | isSidecar)
    · exact ⟨_, List.mem_cons_self, mainNamed⟩
    · obtain ⟨sidecar, found⟩ := Option.isSome_iff_exists.mp isSidecar
      have present := Dict.mem_entries_iff.mpr found
      exact ⟨_, List.mem_cons_of_mem _ (List.mem_map_of_mem present), sidecarContainer_name _ _⟩

theorem loadBalanced_exposes_iff (name : String) (port : UInt16)
    (samePort : plan.task.port = plan.workload.image.port) :
    (loadBalancedStack plan routing suffix).exposes name (toString port.toNat) ↔
      port ∈ plan.workload.portsOf name := by
  have mainNamed := loadBalanced_mainName plan routing suffix
  have portValue := loadBalanced_value plan routing suffix .containerPort rfl
  have mainPorts := mainContainer_ports plan portValue
  rw [Stack.exposes, loadBalanced_containers, Workload.portsOf, List.mem_append]
  constructor
  · rintro ⟨container, member, named, mapped⟩
    rcases List.mem_cons.mp member with rfl | isSidecar
    · rw [mainNamed] at named
      rw [mainPorts, portText_mem, samePort] at mapped
      left
      rw [if_pos (Option.some.inj named).symm, mapped]
      exact List.mem_singleton_self port
    · obtain ⟨entry, present, rfl⟩ := List.mem_map.mp isSidecar
      rw [sidecarContainer_name] at named
      cases named
      rw [sidecarContainer_ports, portText_mem] at mapped
      right
      rw [Dict.mem_entries_iff.mp present, Option.bind_some, mapped]
      exact List.mem_singleton_self port
  · rintro (main | sidecar)
    · split at main
      · rename_i isMain
        refine ⟨_, List.mem_cons_self, isMain ▸ mainNamed, ?_⟩
        rw [mainPorts, portText_mem, samePort]
        exact Option.mem_toList.mp main
      · cases main
    · obtain ⟨found, isFound, mapped⟩ := Option.bind_eq_some_iff.mp (Option.mem_toList.mp sidecar)
      have present := Dict.mem_entries_iff.mpr isFound
      refine ⟨_, List.mem_cons_of_mem _ (List.mem_map_of_mem present),
        sidecarContainer_name _ _, ?_⟩
      rw [sidecarContainer_ports, portText_mem]
      exact mapped

end

/-- The target is a container of the task. Its port is the chosen one, or else one that the
container maps. -/
theorem routingTarget_eq_ok {workload : Workload} {http : Http} {mainPort port : UInt16}
    {container : String} (hasPort : workload.image.port = some mainPort)
    (targeted : routingTarget workload http mainPort = .ok (container, port)) :
    (container = workload.name ∨ (workload.sidecars.get? container).isSome) ∧
      (http.targetPort = none → port ∈ workload.portsOf container) ∧
      (∀ chosen, http.targetPort = some chosen → port = chosen) := by
  rw [routingTarget] at targeted
  by_cases isMain : http.targetContainer.getD workload.name = workload.name
  · simp only [isMain, if_true, Except.ok.injEq, Prod.mk.injEq] at targeted
    obtain ⟨rfl, rfl⟩ := targeted
    refine ⟨Or.inl rfl, ?_, ?_⟩
    · intro unchosen
      simp [unchosen, Workload.portsOf, hasPort]
    · intro chosen isChosen
      simp [isChosen]
  · simp only [isMain, if_false] at targeted
    cases found : workload.sidecars.get? (http.targetContainer.getD workload.name) with
    | none => simp [found] at targeted
    | some sidecar =>
        simp only [found] at targeted
        cases ported : http.targetPort.or sidecar.port with
        | none => simp [ported] at targeted
        | some number =>
            simp only [ported, Except.ok.injEq, Prod.mk.injEq] at targeted
            obtain ⟨rfl, rfl⟩ := targeted
            refine ⟨Or.inr (by simp [found]), ?_, ?_⟩
            · intro unchosen
              rw [unchosen, Option.none_or] at ported
              simp [Workload.portsOf, found, ported]
            · intro chosen isChosen
              rw [isChosen, Option.some_or] at ported
              exact (Option.some.inj ported).symm

/-- In a load balanced stack the target is a container of the task. It maps the target's port just
if the workload chooses no port of its own, or one that the container maps. -/
theorem target_exposed_iff {workload : Workload} {app environment : String} {settings : Settings}
    {fresh : UniqueSuffix} {stack : Stack} (balanced : workload.kind = .loadBalanced)
    (compiled : compile workload app environment settings fresh = .ok stack) :
    ∃ http container port, workload.http = some http ∧
      stack.value? ParameterKey.targetContainer.text = some container ∧
      stack.value? ParameterKey.targetPort.text = some port ∧
      stack.runs container ∧
      (stack.exposes container port ↔
        ∀ chosen, http.targetPort = some chosen → chosen ∈ workload.portsOf container) := by
  obtain ⟨plan, routing, suffix, planned, routed, _, rfl⟩ := compile_loadBalanced balanced compiled
  obtain ⟨_, task, made, rfl⟩ := Plan.of_eq_ok planned
  obtain ⟨http, mainPort, exposed, ported, targeted⟩ := Routing.of_eq_ok routed
  have samePort := Task.ofWorkload_port made
  have hasPort : workload.image.port = some mainPort := samePort ▸ ported
  obtain ⟨isContainer, unchosenMapped, chosenIsPort⟩ := routingTarget_eq_ok hasPort targeted
  refine ⟨http, routing.targetContainer, toString routing.targetPort.toNat, exposed,
    loadBalanced_value _ routing suffix .targetContainer rfl,
    loadBalanced_value _ routing suffix .targetPort rfl,
    (loadBalanced_runs_iff _ routing suffix _).mpr isContainer, ?_⟩
  rw [loadBalanced_exposes_iff _ routing suffix _ _ samePort]
  constructor
  · intro mapped chosen isChosen
    rw [← chosenIsPort chosen isChosen]
    exact mapped
  · intro allMapped
    cases choice : http.targetPort with
    | none => exact unchosenMapped choice
    | some chosen =>
        rw [chosenIsPort chosen choice]
        exact allMapped chosen choice

theorem target_exposed_served : ∃ stack container port,
    compile (.served "api") "shop" "test" {} ⟨"s1", by decide, by decide, by decide⟩ = .ok stack ∧
      stack.value? ParameterKey.targetContainer.text = some container ∧
      stack.value? ParameterKey.targetPort.text = some port ∧ stack.exposes container port := by
  obtain ⟨stack, compiled⟩ : ∃ stack, compile (.served "api") "shop" "test" {}
      ⟨"s1", by decide, by decide, by decide⟩ = .ok stack := ⟨_, rfl⟩
  obtain ⟨http, container, port, exposed, targets, ports, _, exposesIff⟩ :=
    target_exposed_iff rfl compiled
  refine ⟨stack, container, port, compiled, targets, ports, exposesIff.mpr ?_⟩
  intro chosen isChosen
  cases exposed
  cases isChosen

/-- A service whose sidecar takes the requests, at a port that the sidecar does not map. -/
def Workload.servedBySidecar : Workload :=
  { runnable "frontend" .loadBalanced with
    http := some ⟨some "/", none, none, none, some "envoy", some 9000, none⟩
    sidecars := .ofList [("envoy", ⟨"envoyproxy/envoy", none, none, .empty⟩)] }

theorem servedBySidecar_not_exposed : ∃ stack,
    compile .servedBySidecar "shop" "test" {} ⟨"s1", by decide, by decide, by decide⟩ = .ok stack ∧
      stack.value? ParameterKey.targetContainer.text = some "envoy" ∧
      stack.value? ParameterKey.targetPort.text = some "9000" ∧
      ¬ stack.exposes "envoy" "9000" := by
  obtain ⟨stack, compiled⟩ : ∃ stack, compile .servedBySidecar "shop" "test" {}
      ⟨"s1", by decide, by decide, by decide⟩ = .ok stack := ⟨_, rfl⟩
  obtain ⟨plan, routing, suffix, planned, routed, _, rfl⟩ := compile_loadBalanced rfl compiled
  obtain ⟨_, task, made, rfl⟩ := Plan.of_eq_ok planned
  obtain ⟨http, mainPort, exposed, _, targeted⟩ := Routing.of_eq_ok routed
  cases exposed
  have target : (("envoy", 9000) : String × UInt16) =
      (routing.targetContainer, routing.targetPort) :=
    Except.ok.inj targeted
  obtain ⟨containerIs, portIs⟩ := Prod.mk.inj target
  have samePort := Task.ofWorkload_port made
  refine ⟨_, compiled, ?_, ?_, ?_⟩
  · rw [loadBalanced_value _ _ _ .targetContainer rfl, ← containerIs]
    rfl
  · rw [loadBalanced_value _ _ _ .targetPort rfl, ← portIs]
    rfl
  · have mapped := loadBalanced_exposes_iff ⟨.servedBySidecar, "shop", "test", {}, task⟩ routing
      suffix "envoy" 9000 samePort
    intro exposes
    have member : (9000 : UInt16) ∈ Workload.servedBySidecar.portsOf "envoy" := mapped.mp exposes
    have noPorts : Workload.servedBySidecar.portsOf "envoy" = [] := rfl
    rw [noPorts] at member
    cases member

end Stackwright
