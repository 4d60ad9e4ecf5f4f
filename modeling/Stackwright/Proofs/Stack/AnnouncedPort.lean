import Stackwright.Proofs.Stack.CreationOrder
import Stackwright.Proofs.Stack.Declarations
import Stackwright.Proofs.Stack.SecretGrants
import Stackwright.Proofs.Template.Uses

/-!
Where the port of a workload is announced, and where the parameter that holds it is used. A workload
without a port leaves a placeholder in the parameter, which only the text of a secret can bring out.
-/

namespace Stackwright

def Template.recordTypes (template : Template) : List (Option String) :=
  match (template.property? .discoveryService "DnsConfig").bind (Expr.field? "DnsRecords") with
  | some records => records.items.map fun record => (record.field? "Type").bind Expr.text?
  | none => []

def Template.registries (template : Template) : List Expr :=
  ((template.property? .service "ServiceRegistries").map Expr.items).getD []

def portText (port : UInt16) : String := toString port.toNat

/-- A stack announces a port in its parameter, at its container, in the records by which the service
is found and in the entry of the service, or in none of them. -/
structure Stack.AnnouncesPort (stack : Stack) (main registry : Expr) (port : Option UInt16) :
    Prop where
  valued : stack.value? ParameterKey.containerPort.text = some ((port.map portText).getD noPort)
  notPlaceholder : stack.value? ParameterKey.containerPort.text ≠ some noPort ↔ port.isSome
  mapped : (main.field? "PortMappings").isSome ↔ port.isSome
  recorded : some "SRV" ∈ stack.template.recordTypes ↔ port.isSome
  registered : (registry.field? "Port").isSome ↔ port.isSome
  mappedPort : containerPorts stack.value? main = (port.map portText).toList
  registeredPort : (registry.field? "Port").bind (Expr.evaluate? stack.value?) = port.map portText

namespace Stack

def ResourceUses (stack : Stack) (id name : String) : Prop :=
  ∃ resource, stack.template.resources.get? id = some resource ∧ stack.scope.survives id ∧
    ∃ expr ∈ resource.properties :: resource.metadata.toList, expr.Uses name

def OutputUses (stack : Stack) (key name : String) : Prop :=
  ∃ output, stack.template.outputs.get? key = some output ∧
    ∃ expr ∈ output.value :: output.exportName.toList, expr.Uses name

end Stack

/-- The text of a secret names the parameter for the port where it is read as a pattern. -/
def Workload.SecretNamesPort (workload : Workload) : Prop :=
  ∃ source ∈ workload.secrets.values, source.startsWith "arn:" = false ∧
    ParameterKey.containerPort.text ∈ namesFrom .outside (parameterPath source)

section

variable (plan : Plan)

theorem serviceRegistry_port : (serviceRegistry plan).field? "Port" =
    if plan.task.port.isSome then some ParameterKey.containerPort.ref else none := by
  simp [serviceRegistry, Expr.field?, findEntry, findEntry_memberIf]

theorem discoveryService_records {template : Template}
    (held : template.resources.get? Role.discoveryService.id = some (discoveryService plan)) :
    template.recordTypes = some "A" :: if plan.task.port.isSome then [some "SRV"] else [] := by
  rw [Template.recordTypes, Template.property?, held]
  cases ported : plan.task.port <;>
    simp [discoveryService, ported, Expr.field?, findEntry, Expr.items, Expr.text?]

theorem serviceProperties_registries :
    (Expr.record (serviceProperties plan)).field? "ServiceRegistries" =
      some (.list [serviceRegistry plan]) := by
  simp [serviceProperties, Expr.field?, findEntry]

theorem routedService_registries (routing : Routing) :
    (routedService plan routing).properties.field? "ServiceRegistries" =
      some (.list [serviceRegistry plan]) := by
  simp [routedService, serviceProperties, Expr.field?, findEntry]

theorem portText_ne_noPort (port : UInt16) : portText port ≠ noPort := by
  intro same
  have digits : Nat.toDigits 10 port.toNat = ['-', '1'] := by
    rw [portText, Nat.toString_eq_ofList_toDigits] at same
    simpa [noPort] using congrArg String.toList same
  have sign : '-' ∈ Nat.toDigits 10 port.toNat := by
    rw [digits]
    exact List.mem_cons_self
  have isDigit : '-'.isDigit = true := Nat.isDigit_of_mem_toDigits (by decide) (by decide) sign
  exact absurd isDigit (by decide)

theorem plan_announces {stack : Stack}
    (valued : stack.value? ParameterKey.containerPort.text =
      some ((plan.task.port.map portText).getD noPort))
    (held : stack.template.resources.get? Role.discoveryService.id = some (discoveryService plan)) :
    stack.AnnouncesPort (mainContainer plan) (serviceRegistry plan) plan.task.port where
  valued := valued
  notPlaceholder := by
    rw [valued]
    cases plan.task.port with
    | none => simp
    | some port => simp [portText_ne_noPort]
  mapped := by
    rw [mainContainer_mappings]
    cases plan.task.port <;> simp
  recorded := by
    rw [discoveryService_records plan held]
    cases plan.task.port <;> simp
  registered := by
    rw [serviceRegistry_port]
    cases plan.task.port <;> simp
  mappedPort := mainContainer_ports plan valued
  registeredPort := by
    rw [serviceRegistry_port]
    cases ported : plan.task.port with
    | none => rfl
    | some port =>
        rw [ported] at valued
        exact valued

end

variable {name : String}

theorem secretResource_uses {source : String} (notPseudo : name ∉ pseudoParameters) :
    (secretResource source).Uses name ↔
      source.startsWith "arn:" = false ∧ name ∈ namesFrom .outside (parameterPath source) := by
  rw [secretResource]
  split
  · rename_i full
    simp [full]
  · rename_i notFull
    have names : ∀ known ∈ ["AWS::Partition", "AWS::Region", "AWS::AccountId"], name ≠ known := by
      intro known member same
      have pseudo : ∀ known ∈ ["AWS::Partition", "AWS::Region", "AWS::AccountId"],
          known ∈ pseudoParameters := by decide
      exact notPseudo (same ▸ pseudo known member)
    rw [uses_substitute, patternNames, ← parameterPath, secretPattern_toList]
    simp (disch := decide) only [namesFrom_text_append, namesFrom_name_append]
    simp [nameRead, names, notFull]

theorem executionRole_uses (plan : Plan) (notPseudo : name ∉ pseudoParameters) :
    (executionRole plan).properties.Uses name ↔
      ∃ source ∈ plan.workload.secrets.values, source.startsWith "arn:" = false ∧
        name ∈ namesFrom .outside (parameterPath source) := by
  cases noSecrets : plan.workload.secrets.isEmpty with
  | true =>
      have none : plan.workload.secrets.values = [] := by
        rw [Dict.eq_empty noSecrets]
        rfl
      simp [executionRole, noSecrets, none, memberIf, trustPolicy, Expr.texts]
  | false =>
      simp [executionRole, noSecrets, memberIf, trustPolicy, Expr.texts, secretsPolicy, policy,
        allow, secretResource_uses notPseudo]

theorem backendResources_sound {plan : Plan} (portless : plan.task.port = none) {scope : Scope}
    (declares : scope.Declares portlessKeys) {resource : Role × Resource}
    (member : resource ∈ backendResources plan) (keeps : scope.Keeps (taskNeeds resource.1))
    (other : resource.1 ≠ .executionRole) : resource.2.properties.Sound scope := by
  have ported : plan.task.port.isSome = true → ParameterKey.containerPort.ref.Sound scope := by
    simp [portless]
  simp only [backendResources, taskResources, List.mem_append, List.mem_cons, List.not_mem_nil,
    or_false] at member
  rcases member with ((rfl | rfl | rfl | rfl | rfl) | rfl | rfl) | scaling
  · exact logGroup_sound declares
  · exact absurd rfl other
  · exact taskRole_sound plan
  · exact taskDefinition_sound declares keeps plan ported
  · exact discoveryService_sound declares plan
  · exact serviceProperties_sound declares keeps plan ported
  · exact addonsStack_sound declares
  · exact scalingResources_sound declares scaling keeps

theorem backendResources_metadata {plan : Plan} {resource : Role × Resource}
    (member : resource ∈ backendResources plan) : resource.2.metadata = none := by
  simp only [backendResources, taskResources, List.mem_append, List.mem_cons, List.not_mem_nil,
    or_false] at member
  rcases member with ((rfl | rfl | rfl | rfl | rfl) | rfl | rfl) | scaling
  case inr =>
    rcases mem_scalingResources scaling with ⟨range, rfl⟩ | ⟨role, metric, percentage, _, rfl⟩
    · rfl
    · rfl
  all_goals rfl

theorem containerPort_not_pseudo : ParameterKey.containerPort.text ∉ pseudoParameters := by
  decide +kernel

theorem allBut_declares :
    (Scope.allBut ParameterKey.containerPort.text).Declares portlessKeys := by
  intro key member same
  have isPort : key = .containerPort := containerPort_text_iff.mp same
  have other : key ≠ .containerPort := of_decide_eq_true (List.mem_filter.mp member).2
  exact other isPort

theorem allBut_keeps (roles : List Role) :
    (Scope.allBut ParameterKey.containerPort.text).Keeps roles :=
  fun role _ => role.id_ne_text (by decide)

section

variable {plan : Plan}

/-- Without a port, only the role that reads the secrets can use its parameter. -/
theorem backend_resourceUses (portless : plan.task.port = none) (id : String) :
    (backendStack plan).ResourceUses id ParameterKey.containerPort.text ↔
      id = Role.executionRole.id ∧ plan.workload.SecretNamesPort := by
  have named : (executionRole plan).properties.Uses ParameterKey.containerPort.text ↔
      plan.workload.SecretNamesPort := executionRole_uses plan containerPort_not_pseudo
  constructor
  · rintro ⟨resource, found, _, expr, held, uses⟩
    obtain ⟨role, member, rfl⟩ := mem_of_get?_resourcesById found
    have noMetadata : resource.metadata = none := backendResources_metadata member
    rw [noMetadata] at held
    cases List.mem_singleton.mp held
    by_cases isRole : role = .executionRole
    · subst isRole
      have there := backend_resource plan 1 rfl
      cases found.symm.trans there
      exact ⟨rfl, named.mp uses⟩
    -- any other resource is sound where all but the parameter can be named
    · have sound : resource.properties.Sound (.allBut ParameterKey.containerPort.text) :=
        backendResources_sound portless allBut_declares member (allBut_keeps _) isRole
      exact absurd uses (not_uses_of_sound containerPort_not_pseudo sound)
  · rintro ⟨rfl, secretNames⟩
    exact ⟨executionRole plan, backend_resource plan 1 rfl, backend_survives plan 1 rfl rfl, _,
      List.mem_cons_self, named.mpr secretNames⟩

theorem backend_outputUses (key : String) :
    ¬ (backendStack plan).OutputUses key ParameterKey.containerPort.text := by
  rintro ⟨output, found, expr, held, uses⟩
  have member : (key, output) ∈ commonOutputs := mem_of_mem_sortEntries (mem_of_findEntry found)
  have discovered :
      (Scope.allBut ParameterKey.containerPort.text).survives Role.discoveryService.id :=
    allBut_keeps [.discoveryService] _ List.mem_cons_self
  obtain ⟨value, exported⟩ := commonOutputs_sound allBut_declares discovered _ member
  rcases List.mem_cons.mp held with rfl | isName
  · exact not_uses_of_sound containerPort_not_pseudo value uses
  · have sound := exported expr (Option.mem_toList.mp isName)
    exact not_uses_of_sound containerPort_not_pseudo sound uses

end

section

variable {workload : Workload} {app environment : String} {settings : Settings}
  {fresh : UniqueSuffix} {stack : Stack}

theorem compile_portless (compiled : compile workload app environment settings fresh = .ok stack)
    (portless : workload.image.port = none) :
    ∃ plan, plan.workload = workload ∧ plan.task.port = none ∧ stack = backendStack plan := by
  cases kind : workload.kind with
  | backend =>
      obtain ⟨plan, planned, rfl⟩ := compile_backend kind compiled
      exact ⟨plan, Plan.of_workload planned, (Plan.of_port planned).trans portless, rfl⟩
  | loadBalanced =>
      obtain ⟨plan, routing, suffix, planned, routed, _, rfl⟩ := compile_loadBalanced kind compiled
      -- what is reached from outside has a port, so there is no such stack
      obtain ⟨_, port, _, ported, _⟩ := Routing.of_eq_ok routed
      have absent : plan.task.port = none := (Plan.of_port planned).trans portless
      cases absent.symm.trans ported

theorem compile_registries
    (compiled : compile workload app environment settings fresh = .ok stack) :
    ∃ plan, Plan.of workload app environment settings = .ok plan ∧
      stack.template.registries = [serviceRegistry plan] := by
  cases kind : workload.kind with
  | backend =>
      obtain ⟨plan, planned, rfl⟩ := compile_backend kind compiled
      refine ⟨plan, planned, ?_⟩
      rw [Template.registries, Template.property?, backend_resource plan 5 rfl, Option.bind_some,
        serviceProperties_registries]
      rfl
  | loadBalanced =>
      obtain ⟨plan, routing, suffix, planned, _, _, rfl⟩ := compile_loadBalanced kind compiled
      refine ⟨plan, planned, ?_⟩
      rw [Template.registries, Template.property?, loadBalanced_resource plan routing suffix 16 rfl,
        Option.bind_some, routedService_registries]
      rfl

/-- The port is announced everywhere or nowhere. Where there is none, nothing uses its placeholder
but the grant of a secret in whose text the parameter is named. -/
theorem port_announced (compiled : compile workload app environment settings fresh = .ok stack) :
    ∃ main sidecars registry, stack.template.containers = main :: sidecars ∧
      containerName? stack.value? main = some workload.name ∧
      stack.template.registries = [registry] ∧
      stack.AnnouncesPort main registry workload.image.port ∧
      (workload.image.port = none →
        (∀ id, stack.ResourceUses id ParameterKey.containerPort.text ↔
          id = Role.executionRole.id ∧ workload.SecretNamesPort) ∧
        ∀ key, ¬ stack.OutputUses key ParameterKey.containerPort.text) := by
  obtain ⟨plan, planned, task⟩ := compile_holdsTask compiled
  obtain ⟨again, plannedAgain, registries⟩ := compile_registries compiled
  cases Except.ok.inj (planned.symm.trans plannedAgain)
  have discovery := task.held .discoveryService (discoveryService plan) (by simp [taskResources])
  have named := task.mainName
  rw [Plan.of_workload planned] at named
  refine ⟨mainContainer plan, _, serviceRegistry plan, task.containers, named, registries, ?_, ?_⟩
  · have port := task.valued .containerPort _ (List.mem_of_getElem? (i := 4) rfl)
    rw [← Plan.of_port planned]
    exact plan_announces plan port discovery
  · intro portless
    obtain ⟨backend, sameWorkload, noPort, rfl⟩ := compile_portless compiled portless
    rw [← sameWorkload]
    exact ⟨backend_resourceUses noPort, backend_outputUses⟩

end

theorem port_announced_worker :
    (∃ stack main sidecars registry,
      compile (.portless "worker") "shop" "test" {} ⟨"s1", by decide, by decide, by decide⟩ =
          .ok stack ∧
        stack.template.containers = main :: sidecars ∧ stack.template.registries = [registry] ∧
        stack.value? "ContainerPort" = some "-1" ∧ containerPorts stack.value? main = [] ∧
        some "SRV" ∉ stack.template.recordTypes ∧
        ∀ id, ¬ stack.ResourceUses id "ContainerPort") ∧
    ∃ stack main sidecars registry,
      compile (.served "api") "shop" "test" {} ⟨"s1", by decide, by decide, by decide⟩ =
          .ok stack ∧
        stack.template.containers = main :: sidecars ∧ stack.template.registries = [registry] ∧
        containerPorts stack.value? main = ["80"] ∧ some "SRV" ∈ stack.template.recordTypes ∧
        (registry.field? "Port").bind (Expr.evaluate? stack.value?) = some "80" := by
  obtain ⟨worker, compiled⟩ : ∃ stack, compile (.portless "worker") "shop" "test" {}
      ⟨"s1", by decide, by decide, by decide⟩ = .ok stack := ⟨_, rfl⟩
  obtain ⟨api, compiledToo⟩ : ∃ stack, compile (.served "api") "shop" "test" {}
      ⟨"s1", by decide, by decide, by decide⟩ = .ok stack := ⟨_, rfl⟩
  constructor
  · obtain ⟨main, sidecars, registry, containers, _, registries, announced, portless⟩ :=
      port_announced compiled
    have noRecord : some "SRV" ∉ worker.template.recordTypes :=
      fun record => absurd (announced.recorded.mp record) (by decide)
    have noSecret : ¬ (Workload.portless "worker").SecretNamesPort := by
      rintro ⟨source, member, _⟩
      cases member
    refine ⟨worker, main, sidecars, registry, compiled, containers, registries, announced.valued,
      announced.mappedPort, noRecord, ?_⟩
    intro id uses
    exact noSecret (((portless rfl).1 id).mp uses).2
  · obtain ⟨main, sidecars, registry, containers, _, registries, announced, _⟩ :=
      port_announced compiledToo
    exact ⟨api, main, sidecars, registry, compiledToo, containers, registries,
      announced.mappedPort, announced.recorded.mpr rfl, announced.registeredPort⟩

def Workload.keyedByPort : Workload :=
  { portless "worker" with secrets := .ofList [("KEY", "/shop/$\x7bContainerPort\x7d")] }

/-- What stands for no port is granted as a part of a name. -/
theorem placeholder_granted : ∃ stack policy entry,
    compile .keyedByPort "shop" "test" {} ⟨"s1", by decide, by decide, by decide⟩ = .ok stack ∧
      Workload.keyedByPort.image.port = none ∧
      stack.value? "ContainerPort" = some "-1" ∧
      stack.ResourceUses "ExecutionRole" "ContainerPort" ∧
      stack.template.policies .executionRole "SecretsAccess" = [policy] ∧
      allowedResources policy = [entry] ∧
      entry.filled? { PatternValues.ofIreland with other? := stack.value? }.value? =
        some "arn:aws:ssm:eu-west-1:123456789012:parameter/shop/-1" := by
  obtain ⟨stack, compiled⟩ : ∃ stack, compile .keyedByPort "shop" "test" {}
      ⟨"s1", by decide, by decide, by decide⟩ = .ok stack := ⟨_, rfl⟩
  obtain ⟨plan, sameWorkload, portless, rfl⟩ := compile_portless compiled rfl
  have notFull : "/shop/$\x7bContainerPort\x7d".startsWith "arn:" = false := by decide +kernel
  have secretNames : plan.workload.SecretNamesPort := by
    rw [sameWorkload]
    exact ⟨"/shop/$\x7bContainerPort\x7d", List.mem_cons_self, notFull, by decide +kernel⟩
  have placeholder : (backendStack plan).value? "ContainerPort" = some "-1" := by
    have valued := backend_value plan (List.mem_of_getElem? (i := 4) rfl)
    rw [portless] at valued
    exact valued
  have uses := (backend_resourceUses portless "ExecutionRole").mpr ⟨rfl, secretNames⟩
  have policies : (backendStack plan).template.policies .executionRole "SecretsAccess" =
      [secretsPolicy Workload.keyedByPort.secrets] := by
    rw [executionRole_secrets plan (backend_resource plan 1 rfl), sameWorkload]
    rfl
  have allowed : allowedResources (secretsPolicy Workload.keyedByPort.secrets) =
      [secretResource "/shop/$\x7bContainerPort\x7d"] :=
    secretsPolicy_allows _
  have path : parameterPath "/shop/$\x7bContainerPort\x7d" =
      "shop/".toList ++ '$' :: '\x7b' :: ("ContainerPort".toList ++ '\x7d' :: []) := by
    decide +kernel
  have named : nameText?
      { PatternValues.ofIreland with other? := (backendStack plan).value? }.value?
        "ContainerPort".toList = some "-1".toList := by
    simp [nameText?, PatternValues.value?, placeholder]
  have granted : (secretResource "/shop/$\x7bContainerPort\x7d").filled?
      { PatternValues.ofIreland with other? := (backendStack plan).value? }.value? =
        some "arn:aws:ssm:eu-west-1:123456789012:parameter/shop/-1" := by
    rw [secretResource_filled _ _ notFull, path, fillFrom?_text_append (by decide),
      fillFrom?_name_append (by decide), named]
    simp [fillFrom?, PatternState.pending, PatternValues.parameters, PatternValues.ofIreland]
  exact ⟨_, _, _, compiled, rfl, placeholder, uses, policies, allowed, granted⟩

end Stackwright
