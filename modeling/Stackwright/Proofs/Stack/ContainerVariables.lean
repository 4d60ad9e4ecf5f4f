import Mathlib.Data.List.Nodup
import Mathlib.Data.Option.Basic
import Stackwright.Proofs.Stack.SecretGrants

/-!
The variables of containers. A container gets some with their values and others as secrets, and both
share one set of names.
-/

namespace Stackwright

def containerVariables (value? : String → Option String) (container : Expr) :
    List (Option String × Option String) :=
  match container.field? "Environment" with
  | some listed => listed.items.map fun entry =>
      ((entry.field? "Name").bind Expr.text?, (entry.field? "Value").bind (Expr.comesTo? value?))
  | none => []

def definedNames (value? : String → Option String) (container : Expr) : List (Option String) :=
  (containerVariables value? container).map Prod.fst ++ (containerSecrets container).map Prod.fst

def textRows (table : Dict String) : List (Option String × Option String) :=
  table.entries.map fun entry => (some entry.1, some entry.2)

/-- A container has just the variables of a table, and these secrets. -/
structure Defines (value? : String → Option String) (container : Expr)
    (table secrets : Dict String) : Prop where
  plain : containerVariables value? container = textRows table
  secrets : containerSecrets container = textRows secrets

def reservedVariables (app environment name : String) : List (String × String) :=
  [("APP_NAME", app),
   ("ENV_NAME", environment),
   ("SERVICE_NAME", name),
   ("SERVICE_DISCOVERY_ENDPOINT", environment ++ "." ++ app ++ ".local")]

def reservedNames : List String :=
  ["APP_NAME", "ENV_NAME", "SERVICE_NAME", "SERVICE_DISCOVERY_ENDPOINT"]

/-- No secret is called like a variable, be it one of the workload's own or one that tells where a
task runs. -/
def Workload.SecretsApart (workload : Workload) : Prop :=
  ∀ name ∈ workload.secrets.keys,
    name ∉ workload.processVariables.keys ∧ name ∉ reservedNames

section

variable {value? : String → Option String} {container : Expr} {table secrets : Dict String}

theorem mem_textRows {name value : String} :
    (some name, some value) ∈ textRows table ↔ table.get? name = some value := by
  rw [← Dict.mem_entries_iff, textRows, List.mem_map]
  constructor
  · rintro ⟨⟨_, _⟩, member, same⟩
    cases same
    exact member
  · intro member
    exact ⟨_, member, rfl⟩

theorem textRows_names (table : Dict String) : (textRows table).map Prod.fst = table.keys.map some := by
  rw [textRows, Dict.keys, List.map_map, List.map_map]
  rfl

theorem Defines.nodup_iff (defines : Defines value? container table secrets) :
    (definedNames value? container).Nodup ↔ ∀ name ∈ secrets.keys, name ∉ table.keys := by
  rw [definedNames, defines.plain, defines.secrets, textRows_names, textRows_names, ← List.map_append,
    List.nodup_map_iff (Option.some_injective _), List.nodup_append']
  constructor
  · rintro ⟨_, _, disjoint⟩ name isSecret isVariable
    exact disjoint isVariable isSecret
  · intro apart
    exact ⟨table.keys_nodup, secrets.keys_nodup, fun _ isVariable isSecret =>
      apart _ isSecret isVariable⟩

variable (value?) in
theorem variableList_items (table : Dict Expr) : (variableList table).items.map (fun entry =>
    ((entry.field? "Name").bind Expr.text?, (entry.field? "Value").bind (Expr.comesTo? value?))) =
      (table.map (Expr.comesTo? value?)).entries.map fun entry => (some entry.1, entry.2) := by
  simp [variableList, Expr.items, Expr.field?, findEntry, Expr.text?, Dict.map, Dict.mapEntries]

theorem textRows_of_comesTo {listed : Dict Expr}
    (comes : listed.map (Expr.comesTo? value?) = table.map some) :
    (listed.map (Expr.comesTo? value?)).entries.map (fun entry => (some entry.1, entry.2)) =
      textRows table := by
  rw [comes, textRows, Dict.map, Dict.mapEntries, List.map_map]
  rfl

theorem texts_comeTo (table : Dict String) :
    (table.map Expr.text).map (Expr.comesTo? value?) = table.map some := by
  apply Dict.ext
  simp only [Dict.map, Dict.mapEntries, List.map_map]
  rfl

end

section

variable (plan : Plan) {value? : String → Option String}

/-- The variables of the main container: those of the workload, and over them those that tell where
it runs. -/
def Plan.variableTable (plan : Plan) : Dict String :=
  plan.workload.processVariables
    |>.insert "APP_NAME" plan.app
    |>.insert "ENV_NAME" plan.environment
    |>.insert "SERVICE_NAME" plan.workload.name
    |>.insert "SERVICE_DISCOVERY_ENDPOINT" (plan.environment ++ "." ++ plan.app ++ ".local")

theorem variableTable_get? (name : String) : plan.variableTable.get? name =
    (findEntry name (reservedVariables plan.app plan.environment plan.workload.name)).or
      (plan.workload.processVariables.get? name) := by
  simp only [Plan.variableTable, Dict.get?_insert, reservedVariables, findEntry]
  by_cases app : name = "APP_NAME"
  · simp [app]
  · by_cases environment : name = "ENV_NAME"
    · simp [environment]
    · by_cases service : name = "SERVICE_NAME"
      · simp [service]
      · by_cases endpoint : name = "SERVICE_DISCOVERY_ENDPOINT" <;>
          simp [app, environment, service, endpoint]

theorem endpoint_filled {app environment : String}
    (isEnvironment : value? ParameterKey.envName.text = some environment)
    (isApp : value? ParameterKey.appName.text = some app) :
    patternText? value? "$\x7bEnvName\x7d.$\x7bAppName\x7d.local" =
      some (environment ++ "." ++ app ++ ".local") := by
  have pattern : "$\x7bEnvName\x7d.$\x7bAppName\x7d.local".toList =
      '$' :: '\x7b' :: ("EnvName".toList ++ '\x7d' :: (".".toList ++
        '$' :: '\x7b' :: ("AppName".toList ++ '\x7d' :: ".local".toList))) := rfl
  have environmentNamed : nameText? value? "EnvName".toList = some environment.toList := by
    show (value? ParameterKey.envName.text).map String.toList = _
    rw [isEnvironment]
    rfl
  have appNamed : nameText? value? "AppName".toList = some app.toList := by
    show (value? ParameterKey.appName.text).map String.toList = _
    rw [isApp]
    rfl
  have literal : fillFrom? value? .outside ".local".toList = some ".local".toList := rfl
  rw [patternText?, pattern]
  simp (disch := decide) only [fillFrom?_text_append, fillFrom?_name_append, environmentNamed,
    appNamed, literal, Option.bind_some, Option.map_some]
  simp [← String.append_assoc]

theorem mainVariables_comeTo (valued : ∀ key value, (key, value) ∈ baseParameters plan →
      value? key.text = some value.value) :
    (mainVariables plan).map (Expr.comesTo? value?) = plan.variableTable.map some := by
  have app := valued .appName (.ofText plan.app) (by simp [baseParameters])
  have environment := valued .envName (.ofText plan.environment) (by simp [baseParameters])
  have name := valued .workloadName (.ofText plan.workload.name) (by simp [baseParameters])
  have endpoint : patternText? value? "$\x7bEnvName\x7d.$\x7bAppName\x7d.local" =
      some (plan.environment ++ "." ++ plan.app ++ ".local") :=
    endpoint_filled environment app
  rw [mainVariables, Plan.variableTable]
  simp only [Dict.map_insert, texts_comeTo, Expr.comesTo?, endpoint, ParameterKey.ref,
    Expr.evaluate?, app, environment, name]
  rfl

theorem mainContainer_defines (valued : ∀ key value, (key, value) ∈ baseParameters plan →
      value? key.text = some value.value) :
    Defines value? (mainContainer plan) plan.variableTable plan.workload.secrets where
  plain := by
    have listed : (mainContainer plan).field? "Environment" =
        some (variableList (mainVariables plan)) := rfl
    rw [containerVariables, listed]
    simp only
    rw [variableList_items, textRows_of_comesTo (mainVariables_comeTo plan valued)]
  secrets := mainContainer_secrets plan

theorem sidecarContainer_defines (name : String) (sidecar : Sidecar) :
    Defines value? (sidecarContainer name sidecar) sidecar.processVariables .empty where
  plain := by
    have listed : (sidecarContainer name sidecar).field? "Environment" =
        some (variableList (sidecar.processVariables.map Expr.text)) := rfl
    rw [containerVariables, listed]
    simp only
    rw [variableList_items, textRows_of_comesTo (texts_comeTo _)]
  secrets := by
    have noSecrets : (sidecarContainer name sidecar).field? "Secrets" = none := by
      cases port : sidecar.port <;> simp [sidecarContainer, port, Expr.field?, findEntry]
    rw [containerSecrets, noSecrets]
    rfl

end

theorem secretsApart_iff (plan : Plan) : plan.workload.SecretsApart ↔
    ∀ name ∈ plan.workload.secrets.keys, name ∉ plan.variableTable.keys := by
  have reserved : ∀ name, name ∈ reservedNames ↔
      (findEntry name (reservedVariables plan.app plan.environment plan.workload.name)).isSome := by
    intro name
    rw [Option.isSome_iff_ne_none, ← mem_keys_iff]
    rfl
  have members : ∀ name, name ∈ plan.variableTable.keys ↔
      name ∈ reservedNames ∨ name ∈ plan.workload.processVariables.keys := by
    intro name
    rw [Dict.mem_keys_iff, Dict.mem_keys_iff, variableTable_get?, Option.isSome_or, Bool.or_eq_true,
      reserved]
  simp only [Workload.SecretsApart, members, not_or, and_comm]

/-- The containers of a stack with their variables: first that of the workload, then its sidecars.
Their names are defined once each, but for secrets that are called like variables. -/
theorem containers_define {workload : Workload} {app environment : String} {settings : Settings}
    {fresh : UniqueSuffix} {stack : Stack}
    (compiled : compile workload app environment settings fresh = .ok stack) :
    ∃ main sidecars table, stack.template.containers = main :: sidecars ∧
      containerName? stack.value? main = some workload.name ∧
      Defines stack.value? main table workload.secrets ∧
      (∀ name, table.get? name =
        (findEntry name (reservedVariables app environment workload.name)).or
          (workload.processVariables.get? name)) ∧
      ((definedNames stack.value? main).Nodup ↔ workload.SecretsApart) ∧
      List.Forall₂ (fun container entry =>
        containerName? stack.value? container = some entry.1 ∧
        Defines stack.value? container entry.2.processVariables .empty ∧
        (definedNames stack.value? container).Nodup) sidecars workload.sidecars.entries := by
  obtain ⟨plan, planned, task⟩ := compile_holdsTask compiled
  have defines := mainContainer_defines plan task.valued
  obtain ⟨_, _, _, rfl⟩ := Plan.of_eq_ok planned
  refine ⟨_, _, _, task.containers, task.mainName, defines, variableTable_get? _, ?_, ?_⟩
  · rw [defines.nodup_iff]
    exact (secretsApart_iff _).symm
  · rw [List.forall₂_map_left_iff, List.forall₂_same]
    intro entry _
    have defines : Defines stack.value? (sidecarContainer entry.1 entry.2)
        entry.2.processVariables .empty := sidecarContainer_defines _ _
    refine ⟨sidecarContainer_name _ _, defines, defines.nodup_iff.mpr ?_⟩
    intro name isSecret
    cases isSecret

def Workload.configured (plain secret : String) : Workload :=
  { runnable "api" .backend with
    processVariables := .ofList [(plain, "debug")]
    secrets := .ofList [(secret, "/shop/key")] }

theorem containers_define_configured : ∃ stack main sidecars,
    compile (.configured "APP_NAME" "KEY") "shop" "test" {}
        ⟨"s1", by decide, by decide, by decide⟩ = .ok stack ∧
      stack.template.containers = main :: sidecars ∧
      (some "APP_NAME", some "shop") ∈ containerVariables stack.value? main ∧
      (some "SERVICE_DISCOVERY_ENDPOINT", some "test.shop.local") ∈
        containerVariables stack.value? main ∧
      containerSecrets main = [(some "KEY", some "/shop/key")] ∧
      (definedNames stack.value? main).Nodup := by
  obtain ⟨stack, compiled⟩ : ∃ stack, compile (.configured "APP_NAME" "KEY") "shop" "test" {}
      ⟨"s1", by decide, by decide, by decide⟩ = .ok stack := ⟨_, rfl⟩
  obtain ⟨main, sidecars, table, containers, _, defines, valued, distinct, _⟩ :=
    containers_define compiled
  have apart : (Workload.configured "APP_NAME" "KEY").SecretsApart := by
    intro name isSecret
    cases List.mem_singleton.mp isSecret
    exact ⟨by decide, by decide⟩
  refine ⟨stack, main, sidecars, compiled, containers, ?_, ?_, defines.secrets, distinct.mpr apart⟩
  · rw [defines.plain, mem_textRows, valued]
    rfl
  · rw [defines.plain, mem_textRows, valued]
    rfl

/-- A secret that is called like a variable by which a task is told where it runs. -/
theorem reserved_defined_twice : ∃ stack main sidecars,
    compile (.configured "LOG_LEVEL" "APP_NAME") "shop" "test" {}
        ⟨"s1", by decide, by decide, by decide⟩ = .ok stack ∧
      stack.template.containers = main :: sidecars ∧
      (some "APP_NAME", some "shop") ∈ containerVariables stack.value? main ∧
      (some "APP_NAME", some "/shop/key") ∈ containerSecrets main ∧
      ¬ (definedNames stack.value? main).Nodup := by
  obtain ⟨stack, compiled⟩ : ∃ stack, compile (.configured "LOG_LEVEL" "APP_NAME") "shop" "test" {}
      ⟨"s1", by decide, by decide, by decide⟩ = .ok stack := ⟨_, rfl⟩
  obtain ⟨plan, planned, task⟩ := compile_holdsTask compiled
  have defines := mainContainer_defines plan task.valued
  obtain ⟨_, _, _, rfl⟩ := Plan.of_eq_ok planned
  refine ⟨stack, _, _, compiled, task.containers, ?_, ?_, ?_⟩
  · rw [defines.plain, mem_textRows, variableTable_get?]
    rfl
  · rw [defines.secrets, mem_textRows]
    rfl
  · rw [defines.nodup_iff, ← secretsApart_iff]
    intro apart
    exact (apart "APP_NAME" List.mem_cons_self).2 (by decide)

end Stackwright
