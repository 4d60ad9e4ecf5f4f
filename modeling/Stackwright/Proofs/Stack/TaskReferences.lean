import Stackwright.Proofs.Stack.Contents
import Stackwright.Proofs.Template.Sound

/-!
What the resources of every stack name: parameters that every stack has, and each other.
-/

namespace Stackwright

def taskRoles : List Role :=
  [.logGroup, .executionRole, .taskRole, .taskDefinition, .discoveryService, .service]

/-- A scope in which the resources of every stack find what they name. -/
structure Scope.Runs (scope : Scope) : Prop where
  declares : ∀ key ∈ baseKeys, scope.declared key.text
  keeps : ∀ role ∈ taskRoles, scope.survives role.id
  addons : scope.defined hasAddons

def taskNeeds : Role → List Role
  | .taskDefinition => [.logGroup, .executionRole, .taskRole]
  | .service => [.taskDefinition, .discoveryService]
  | .scalingTarget => [.service]
  | .scalingCpuPolicy | .scalingMemoryPolicy => [.scalingTarget]
  | _ => []

variable {scope : Scope}

def Scope.Declares (scope : Scope) (keys : List ParameterKey) : Prop :=
  ∀ key ∈ keys, scope.declared key.text

/-- The parameters that stacks of every kind name, whether they expose a port or not. -/
def portlessKeys : List ParameterKey := baseKeys.filter (· ≠ .containerPort)

def Scope.Keeps (scope : Scope) (roles : List Role) : Prop :=
  ∀ role ∈ roles, scope.survives role.id

theorem knows_pseudo {name : String} (pseudo : name ∈ pseudoParameters) :
    scope.Knows (.ref name) :=
  Or.inr (Or.inr pseudo)

def environmentExports : List String :=
  ["ClusterId", "EnvironmentSecurityGroup", "PrivateSubnets", "PublicLoadBalancerDNSName",
   "PublicSubnets", "ServiceDiscoveryNamespaceID", "VpcId"]

theorem isPlain_environmentExports : ∀ name ∈ environmentExports, IsPlain name := by
  simp only [environmentExports, List.forall_mem_cons]
  refine ⟨?_, ?_, ?_, ?_, ?_, ?_, ?_, by simp⟩ <;> exact isPlain_ofList (by decide +kernel)

namespace Scope.Keeps

variable {roles others : List Role} {role : Role} {name : String}

theorem ref (keeps : scope.Keeps roles) (member : role ∈ roles) : role.ref.Sound scope :=
  Or.inr (Or.inl (keeps role member))

theorem get (keeps : scope.Keeps roles) (member : role ∈ roles) : (role.get name).Sound scope :=
  keeps role member

theorem arn (keeps : scope.Keeps roles) (member : role ∈ roles) : role.arn.Sound scope :=
  keeps role member

theorem left (keeps : scope.Keeps (roles ++ others)) : scope.Keeps roles :=
  fun role member => keeps role (List.mem_append_left others member)

theorem right (keeps : scope.Keeps (roles ++ others)) : scope.Keeps others :=
  fun role member => keeps role (List.mem_append_right roles member)

end Scope.Keeps

namespace Scope.Declares

theorem parameter {keys : List ParameterKey} (declares : scope.Declares keys) {key : ParameterKey}
    (member : key ∈ keys) : key.ref.Sound scope :=
  Or.inl (declares key member)

theorem portless (declares : scope.Declares baseKeys) : scope.Declares portlessKeys :=
  fun key member => declares key (List.mem_filter.mp member).1

theorem known (declares : scope.Declares portlessKeys) {pattern : String}
    (known : ∀ name ∈ patternNames pattern,
      name ∈ pseudoParameters ++ portlessKeys.map ParameterKey.text) :
    (Expr.substitute pattern).Sound scope := by
  intro name member
  rcases List.mem_append.mp (known name member) with pseudo | declared
  · exact Or.inr pseudo
  · obtain ⟨key, base, rfl⟩ := List.mem_map.mp declared
    exact Or.inl (declares key base)

theorem pattern (declares : scope.Declares portlessKeys) {cs : List Char}
    (known : ∀ name ∈ namesFrom .outside cs,
      name ∈ pseudoParameters ++ portlessKeys.map ParameterKey.text) :
    (Expr.substitute (String.ofList cs)).Sound scope :=
  declares.known (patternNames_ofList cs ▸ known)

theorem patternBefore (declares : scope.Declares portlessKeys) {cs : List Char} {text : String}
    (plain : IsPlain text) (known : ∀ name ∈ namesFrom .outside cs,
      name ∈ pseudoParameters ++ portlessKeys.map ParameterKey.text) :
    (Expr.substitute (String.ofList cs ++ text)).Sound scope := by
  apply declares.known
  rw [patternNames_append _ plain, patternNames_ofList]
  exact known

theorem exported (declares : scope.Declares portlessKeys) {name : String}
    (member : name ∈ environmentExports) : (Expr.ofEnvironment name).Sound scope :=
  declares.patternBefore (isPlain_environmentExports name member) (by decide +kernel)

end Scope.Declares

theorem isPlain_roleId (role : Role) : IsPlain role.id := by
  cases role <;> exact isPlain_ofList (by decide +kernel)

theorem forall_mem_insert {α : Type} {d : Dict α} {key : String} {value : α}
    {holds : String × α → Prop} (others : ∀ e ∈ d.entries, holds e) (given : holds (key, value)) :
    ∀ e ∈ (d.insert key value).entries, holds e := by
  intro e member
  rcases mem_putEntry member with rfl | member
  · exact given
  · exact others e member

@[simp] theorem sound_trustPolicy (principal : String) : (trustPolicy principal).Sound scope := by
  simp [trustPolicy]

@[simp] theorem sound_allow {actions : List String} {resource : Expr} :
    (allow actions resource).Sound scope ↔ resource.Sound scope := by
  simp [allow]

@[simp] theorem sound_policy {name : String} {statements : List Expr} :
    (policy name statements).Sound scope ↔ ItemsSound scope statements := by
  simp [policy]

theorem tagList_sound (tags : Dict String) : (Expr.tagList tags).Sound scope :=
  itemsSound_map fun _ _ => by simp

theorem variableList_sound {table : Dict Expr}
    (sound : ∀ e ∈ table.entries, e.2.Sound scope) : (variableList table).Sound scope :=
  itemsSound_map fun e present => by simp [sound e present]

theorem logGroup_sound (declares : scope.Declares portlessKeys) :
    logGroup.properties.Sound scope := by
  simp only [logGroup, sound_record, fieldsSound_cons, fieldsSound_nil, and_true]
  exact ⟨declares.pattern (by decide +kernel), declares.parameter (by decide)⟩

theorem taskRole_sound (plan : Plan) : (taskRole plan).properties.Sound scope := by
  simp [taskRole, sessionPolicy]

theorem logConfiguration_sound {roles : List Role} (keeps : scope.Keeps roles)
    (logged : .logGroup ∈ roles) : logConfiguration.Sound scope := by
  simp (disch := decide) [logConfiguration, knows_pseudo, keeps.ref logged]

theorem texts_sound (values : Dict String) :
    ∀ e ∈ (values.map Expr.text).entries, e.2.Sound scope := by
  intro e member
  obtain ⟨value, _, rfl⟩ := List.mem_map.mp member
  exact sound_text _

theorem mainVariables_sound (declares : scope.Declares portlessKeys) (plan : Plan) :
    ∀ e ∈ (mainVariables plan).entries, e.2.Sound scope := by
  apply forall_mem_insert
  · apply forall_mem_insert
    · apply forall_mem_insert
      · apply forall_mem_insert (texts_sound _)
        exact declares.parameter (by decide)
      · exact declares.parameter (by decide)
    · exact declares.parameter (by decide)
  · exact declares.pattern (by decide)

theorem containerCheck_sound (check : ContainerCheck) : check.expr.Sound scope := by
  simp [ContainerCheck.expr]

theorem portMappings_sound {port : Expr} (sound : port.Sound scope) :
    (portMappings port).Sound scope := by
  simp [portMappings, sound]

theorem mainContainer_sound (declares : scope.Declares portlessKeys)
    (logs : logConfiguration.Sound scope) (plan : Plan)
    (ported : plan.task.port.isSome = true → ParameterKey.containerPort.ref.Sound scope) :
    (mainContainer plan).Sound scope := by
  have secrets : ItemsSound scope (plan.workload.secrets.entries.map fun secret =>
      .record [("Name", .text secret.1), ("ValueFrom", .text secret.2)]) :=
    itemsSound_map fun _ _ => by simp
  have variablesSound := variableList_sound (mainVariables_sound declares plan)
  have mappings (isPort : plan.task.port.isSome = true) := portMappings_sound (ported isPort)
  simpa (disch := decide) [mainContainer, declares.parameter, variablesSound, logs, secrets,
    containerCheck_sound] using mappings

theorem sidecarContainer_sound (logs : logConfiguration.Sound scope) (name : String)
    (sidecar : Sidecar) : (sidecarContainer name sidecar).Sound scope := by
  simp [sidecarContainer, variableList_sound (texts_sound _), logs, portMappings_sound]

theorem taskDefinition_sound (declares : scope.Declares portlessKeys)
    (keeps : scope.Keeps (taskNeeds .taskDefinition)) (plan : Plan)
    (ported : plan.task.port.isSome = true → ParameterKey.containerPort.ref.Sound scope) :
    (taskDefinition plan).properties.Sound scope := by
  have logs := logConfiguration_sound keeps (by decide)
  have sidecars : ItemsSound scope (plan.workload.sidecars.entries.map fun entry =>
      sidecarContainer entry.1 entry.2) :=
    itemsSound_map fun e _ => sidecarContainer_sound logs e.1 e.2
  simp (disch := decide) [taskDefinition, declares.pattern, declares.parameter, keeps.arn,
    mainContainer_sound declares logs plan ported, sidecars]

theorem discoveryService_sound (declares : scope.Declares portlessKeys) (plan : Plan) :
    (discoveryService plan).properties.Sound scope := by
  cases port : plan.task.port <;>
    simp (disch := decide) [discoveryService, port, declares.pattern, declares.parameter,
      declares.exported]

theorem serviceNetwork_sound (declares : scope.Declares portlessKeys) (vpc : Vpc) :
    (serviceNetwork vpc).Sound scope := by
  have groups : ItemsSound scope (vpc.securityGroups.map Expr.text) :=
    itemsSound_map fun _ _ => trivial
  cases placed : vpc.placement <;>
    simp (disch := decide) [serviceNetwork, placed, declares.exported, groups]

theorem serviceProperties_sound (declares : scope.Declares portlessKeys)
    (keeps : scope.Keeps (taskNeeds .service)) (plan : Plan)
    (ported : plan.task.port.isSome = true → ParameterKey.containerPort.ref.Sound scope) :
    FieldsSound scope (serviceProperties plan) := by
  have registry : (serviceRegistry plan).Sound scope := by
    rw [serviceRegistry, sound_record, fieldsSound_append, fieldsSound_cons, fieldsSound_memberIf]
    exact ⟨⟨keeps.arn (by decide), fieldsSound_nil⟩, ported⟩
  simp (disch := decide) [serviceProperties, declares.exported, keeps.ref, declares.parameter,
    serviceNetwork_sound declares, registry, tagList_sound]

theorem addonsStack_sound (declares : scope.Declares portlessKeys) :
    addonsStack.properties.Sound scope := by
  simp (disch := decide) [addonsStack, declares.parameter]

theorem scalingTarget_sound (declares : scope.Declares portlessKeys)
    (keeps : scope.Keeps (taskNeeds .scalingTarget)) (range : ScalingRange) :
    (scalingTarget range).properties.Sound scope := by
  have service : IsPlain "ecs.application-autoscaling.amazonaws.com/" :=
    isPlain_ofList (by decide +kernel)
  have name : IsPlain "AWSServiceRoleForApplicationAutoScaling_ECSService" :=
    isPlain_ofList (by decide +kernel)
  simp (disch := decide) only [scalingTarget, sound_record, fieldsSound_cons, fieldsSound_nil,
    sound_natural, sound_text, sound_join, sound_list, itemsSound_cons, itemsSound_nil,
    declares.exported, keeps.get, true_and, and_true]
  apply declares.known
  rw [patternNames_append _ name, patternNames_append _ service]
  exact (patternNames_ofList _).symm ▸ (by decide +kernel)

theorem scalingPolicy_sound (declares : scope.Declares portlessKeys)
    (keeps : scope.Keeps [.scalingTarget]) (role : Role) (metric : String) (percentage : UInt32) :
    (scalingPolicy role metric percentage).properties.Sound scope := by
  have name : (Expr.substitute ("$\x7bAWS::StackName\x7d-" ++ role.id)).Sound scope :=
    declares.patternBefore (isPlain_roleId role) (by decide +kernel)
  simp (disch := decide) [scalingPolicy, name, keeps.ref]

/-- The policy for secrets names nothing but in the user's text. -/
theorem secretsPolicy_mentions (decides : String → Option Bool) (secrets : Dict String) :
    ((secretsPolicy secrets).resolved decides).mentions .ordinary = [] := by
  have resources : ∀ sources : List String,
      itemsMentions .secretsResource (itemsResolved decides (sources.map secretResource)) = [] := by
    intro sources
    induction sources with
    | nil => rfl
    | cons source rest ih =>
        rw [List.map_cons, itemsResolved, itemsMentions, ih, secretResource]
        split <;> rfl
  simp [secretsPolicy, policy, allow, Expr.texts, Expr.resolved, fieldsResolved, itemsResolved,
    Expr.mentions, fieldsMentions, itemsMentions, Zone.inRecord, Zone.atField, isSecretsPolicy,
    findEntry, resources]

/-- Beside the user's text, the role that reads secrets names nothing. -/
theorem executionRole_closed (scope : Scope) (plan : Plan) :
    (executionRole plan).properties.Closed scope := by
  have named :
      ((executionRole plan).properties.resolved scope.decides).mentions .ordinary = [] := by
    cases given : plan.workload.secrets.isEmpty <;>
      simp [executionRole, given, memberIf, trustPolicy, Expr.texts, Expr.resolved, fieldsResolved,
        itemsResolved, Expr.mentions, fieldsMentions, itemsMentions, Zone.inRecord, Zone.atField,
        isSecretsPolicy, findEntry, secretsPolicy_mentions]
  intro mention member
  rw [named] at member
  cases member

theorem commonOutputs_sound (declares : scope.Declares portlessKeys)
    (discovered : scope.survives Role.discoveryService.id) :
    ∀ output ∈ commonOutputs, output.2.value.Sound scope ∧
      ∀ name, output.2.exportName = some name → name.Sound scope := by
  intro output member
  cases List.mem_singleton.mp member
  have plain : IsPlain "DiscoveryServiceARN" := isPlain_ofList (by decide +kernel)
  constructor
  · exact discovered
  · intro name isName
    cases isName
    exact declares.patternBefore plain (by decide +kernel)

theorem commonOutputs_closed (declares : scope.Declares baseKeys)
    (discovered : scope.survives Role.discoveryService.id) :
    ∀ output ∈ commonOutputs, output.2.Closed scope := by
  intro output member
  obtain ⟨value, exported⟩ := commonOutputs_sound declares.portless discovered output member
  constructor
  · exact value.closed
  · intro name isName
    exact (exported name isName).closed

theorem closed_of_only {resource : Resource} (closed : resource.properties.Closed scope)
    (unconditional : resource.condition = none) (noMetadata : resource.metadata = none)
    (independent : resource.dependsOn = []) : resource.Closed scope where
  condition := by simp [unconditional]
  properties := closed
  metadata := by simp [noMetadata]
  dependsOn := by simp [independent]

theorem closed_of_properties {resource : Resource} (sound : resource.properties.Sound scope)
    (unconditional : resource.condition = none) (noMetadata : resource.metadata = none)
    (independent : resource.dependsOn = []) : resource.Closed scope :=
  closed_of_only sound.closed unconditional noMetadata independent

theorem taskResources_closed (declares : scope.Declares baseKeys) (plan : Plan) :
    ∀ resource ∈ taskResources plan,
      scope.Keeps (taskNeeds resource.1) → resource.2.Closed scope := by
  simp only [taskResources, List.forall_mem_cons]
  have named := declares.portless
  have port := declares.parameter (show .containerPort ∈ baseKeys by decide)
  refine ⟨fun _ => ?_, fun _ => ?_, fun _ => ?_, fun keeps => ?_, fun _ => ?_, by simp⟩
  · exact closed_of_properties (logGroup_sound named) rfl rfl rfl
  · exact closed_of_only (executionRole_closed scope plan) rfl rfl rfl
  · exact closed_of_properties (taskRole_sound plan) rfl rfl rfl
  · exact closed_of_properties (taskDefinition_sound named keeps plan fun _ => port) rfl rfl rfl
  · exact closed_of_properties (discoveryService_sound named plan) rfl rfl rfl

theorem addonsStack_closed (declares : scope.Declares baseKeys) (addons : scope.defined hasAddons) :
    addonsStack.Closed scope where
  condition := by
    intro condition isCondition
    cases isCondition
    exact addons
  properties := (addonsStack_sound declares.portless).closed
  metadata := by simp [addonsStack]
  dependsOn := by simp [addonsStack]

theorem mem_scalingResources {plan : Plan} {resource : Role × Resource}
    (member : resource ∈ scalingResources plan) :
    (∃ range, resource = (.scalingTarget, scalingTarget range)) ∨
      ∃ role metric percentage, taskNeeds role = [.scalingTarget] ∧
        resource = (role, scalingPolicy role metric percentage) := by
  rw [scalingResources] at member
  cases scaling : plan.task.scaling with
  | none =>
      rw [scaling] at member
      cases member
  | some range =>
      simp only [scaling, List.mem_append, List.mem_singleton, Option.mem_toList,
        Option.map_eq_some_iff] at member
      rcases member with (rfl | ⟨percentage, _, rfl⟩) | ⟨percentage, _, rfl⟩
      · exact .inl ⟨range, rfl⟩
      · exact .inr ⟨_, _, percentage, rfl, rfl⟩
      · exact .inr ⟨_, _, percentage, rfl, rfl⟩

theorem scalingResources_sound (declares : scope.Declares portlessKeys) {plan : Plan}
    {resource : Role × Resource} (member : resource ∈ scalingResources plan)
    (keeps : scope.Keeps (taskNeeds resource.1)) : resource.2.properties.Sound scope := by
  rcases mem_scalingResources member with ⟨range, rfl⟩ | ⟨role, metric, percentage, needs, rfl⟩
  · exact scalingTarget_sound declares keeps range
  · rw [needs] at keeps
    exact scalingPolicy_sound declares keeps role metric percentage

theorem scalingResources_closed (declares : scope.Declares baseKeys) (plan : Plan) :
    ∀ resource ∈ scalingResources plan,
      scope.Keeps (taskNeeds resource.1) → resource.2.Closed scope := by
  intro resource member keeps
  have sound := scalingResources_sound declares.portless member keeps
  rcases mem_scalingResources member with ⟨range, rfl⟩ | ⟨role, metric, percentage, _, rfl⟩
  · exact closed_of_properties sound rfl rfl rfl
  · exact closed_of_properties sound rfl rfl rfl

theorem mem_of_taskNeeds {role need : Role} (needed : need ∈ taskNeeds role) :
    need ∈ taskRoles ∨ need = .scalingTarget := by
  have among : ∀ role ∈ Role.all, ∀ need ∈ taskNeeds role,
      need ∈ taskRoles ∨ need = .scalingTarget := by decide
  exact among role (Role.mem_all role) need needed

/-- Only the policies name the scaling target, so it is there where it is named. -/
theorem scaled_of_needs {plan : Plan} {others : List (Role × Resource)} {needs : Role → List Role}
    (unscaled : ∀ resource ∈ others, Role.scalingTarget ∉ needs resource.1)
    {resource : Role × Resource} (member : resource ∈ others ++ scalingResources plan)
    (needed : Role.scalingTarget ∈ needs resource.1) : ∃ range, plan.task.scaling = some range := by
  rcases List.mem_append.mp member with other | scaling
  · exact absurd needed (unscaled resource other)
  · rw [scalingResources] at scaling
    cases scaled : plan.task.scaling with
    | none =>
        rw [scaled] at scaling
        cases scaling
    | some range => exact ⟨range, rfl⟩

end Stackwright
