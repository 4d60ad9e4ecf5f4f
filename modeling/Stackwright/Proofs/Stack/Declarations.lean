import Stackwright.Proofs.ByteOrder
import Stackwright.Proofs.Stack.ClosedStack
import Stackwright.Proofs.Stack.Outline
import Stackwright.Proofs.Template.Fields

/-!
Parameters and their declarations. Each value that is handed over with a template has a declaration
in it and each declaration a value, and where a number is declared the value is one.
-/

namespace Stackwright

def Template.parameterType? (template : Template) (key : String) : Option String :=
  ((template.parameters.get? key).bind (Expr.field? "Type")).bind Expr.text?

/-- A whole number as a text. It is negative only as the port of a workload that has none. -/
def WritesNumber (port : Option UInt16) (key : String) (value : String) : Prop :=
  ∃ n : Int, value = toString n ∧ -1 ≤ n ∧
    (n = -1 ↔ key = ParameterKey.containerPort.text ∧ port = none)

theorem toList_increasing (parameters : Parameters) :
    parameters.toList.Pairwise fun a b => textBytes a.key < textBytes b.key := by
  rw [Parameters.toList, List.pairwise_map]
  exact parameters.increasing.imp textBytes_lt_iff.mpr

section

variable {values : List (ParameterKey × ParameterValue)} {template : Template}

theorem parameterType?_eq
    (declared : template.parameters = (Parameters.of values).declarations) (key : String) :
    template.parameterType? key = ((Parameters.of values).get? key).map fun value =>
      match value.kind with
      | .text => "String"
      | .number => "Number" := by
  rw [Template.parameterType?, declared, Parameters.declarations, Dict.get?_map]
  cases (Parameters.of values).get? key <;> rfl

theorem number_of_declared (declared : template.parameters = (Parameters.of values).declarations)
    (distinct : (values.map fun v => v.1.text).Nodup)
    {parameter : Parameter} (member : parameter ∈ (Parameters.of values).toList)
    (number : template.parameterType? parameter.key = some "Number") :
    ∃ key value, (key, value) ∈ values ∧ value.kind = .number ∧
      parameter = ⟨key.text, value.value⟩ := by
  obtain ⟨⟨key, value⟩, given, rfl⟩ :=
    List.mem_map.mp ((Parameters.toList_perm distinct).mem_iff.mp member)
  rw [parameterType?_eq declared, Parameters.get?_of distinct given] at number
  refine ⟨key, value, given, ?_, rfl⟩
  cases kind : value.kind with
  | number => rfl
  | text =>
      rw [Option.map_some, kind] at number
      have sameType : "String" = "Number" := Option.some.inj number
      exact absurd sameType (by decide)

end

section

variable {port : Option UInt16}

theorem containerPort_text_iff {key : ParameterKey} :
    key.text = ParameterKey.containerPort.text ↔ key = .containerPort := by
  cases key <;> decide

theorem writesNumber_nat {key : ParameterKey} (other : key ≠ .containerPort) (n : Nat) :
    WritesNumber port key.text (toString n) := by
  have notPort : key.text ≠ ParameterKey.containerPort.text :=
    fun same => other (containerPort_text_iff.mp same)
  refine ⟨n, rfl, by omega, ?_⟩
  constructor
  · intro negative
    omega
  · rintro ⟨isPort, _⟩
    exact absurd isPort notPort

theorem writesNumber_port : WritesNumber port ParameterKey.containerPort.text
    ((port.map fun port => toString port.toNat).getD noPort) := by
  cases port with
  | none => exact ⟨-1, rfl, by omega, by simp⟩
  | some port =>
      refine ⟨port.toNat, rfl, by omega, ?_⟩
      constructor
      · intro negative
        omega
      · rintro ⟨_, absent⟩
        cases absent

theorem ofText_not_number (text : String) : (ParameterValue.ofText text).kind ≠ .number := by
  simp [ParameterValue.ofText]

theorem ofFlag_not_number (flag : Bool) : (ParameterValue.ofFlag flag).kind ≠ .number := by
  simp [ParameterValue.ofFlag]

theorem baseParameters_numbers (plan : Plan) : ∀ v ∈ baseParameters plan, v.2.kind = .number →
    WritesNumber plan.task.port v.1.text v.2.value := by
  simp only [baseParameters, List.forall_mem_cons, ofText_not_number, false_implies, true_and]
  refine ⟨fun _ => writesNumber_port, ?_, ?_, ?_, ?_, List.forall_mem_nil _⟩
  all_goals
    intro _
    exact writesNumber_nat (by decide) _

theorem routingParameters_numbers (plan : Plan) (routing : Routing) :
    ∀ v ∈ routingParameters plan routing, v.2.kind = .number →
      WritesNumber port v.1.text v.2.value := by
  simp only [routingParameters, List.forall_mem_cons, ofText_not_number, ofFlag_not_number,
    false_implies, true_and]
  refine ⟨?_, List.forall_mem_nil _⟩
  intro _
  exact writesNumber_nat (by decide) _

end

variable {workload : Workload} {app environment : String} {settings : Settings}
  {fresh : UniqueSuffix} {stack : Stack}

theorem Plan.of_port {plan : Plan} (planned : Plan.of workload app environment settings = .ok plan) :
    plan.task.port = workload.image.port := by
  obtain ⟨_, task, made, rfl⟩ := Plan.of_eq_ok planned
  exact Task.ofWorkload_port made

theorem compile_values (compiled : compile workload app environment settings fresh = .ok stack) :
    ∃ values, (values.map fun v => v.1.text).Nodup ∧
      stack.parameters = (Parameters.of values).toList ∧
      stack.template.parameters = (Parameters.of values).declarations ∧
      (∃ port, (Parameters.of values).get? ParameterKey.containerPort.text =
        some ⟨.number, port⟩) ∧
      ∀ v ∈ values, v.2.kind = .number →
        WritesNumber workload.image.port v.1.text v.2.value := by
  cases kind : workload.kind with
  | backend =>
      obtain ⟨plan, planned, rfl⟩ := compile_backend kind compiled
      have numbers := baseParameters_numbers plan
      rw [Plan.of_port planned] at numbers
      have ported : (Parameters.of (baseParameters plan)).get? ParameterKey.containerPort.text =
          some _ := Parameters.get?_of baseKeys_distinct (List.mem_of_getElem? (i := 4) rfl)
      refine ⟨baseParameters plan, baseKeys_distinct, ?_, ?_, ⟨_, ported⟩, numbers⟩
      · rw [backendStack]
      · rw [backendStack, backendTemplate]
  | loadBalanced =>
      obtain ⟨plan, routing, suffix, planned, _, _, rfl⟩ := compile_loadBalanced kind compiled
      have numbers : ∀ v ∈ baseParameters plan ++ routingParameters plan routing,
          v.2.kind = .number → WritesNumber workload.image.port v.1.text v.2.value := by
        rw [← Plan.of_port planned]
        intro v member
        rcases List.mem_append.mp member with base | routed
        · exact baseParameters_numbers plan v base
        · exact routingParameters_numbers plan routing v routed
      have ported := Parameters.get?_of (parameters_distinct plan routing)
        (List.mem_of_getElem? (i := 4) rfl)
      refine ⟨baseParameters plan ++ routingParameters plan routing,
        parameters_distinct plan routing, ?_, ?_, ⟨_, ported⟩, numbers⟩
      · rw [loadBalancedStack]
      · rw [loadBalancedStack, loadBalancedTemplate]

theorem compile_listener (balanced : workload.kind = .loadBalanced)
    (compiled : compile workload app environment settings fresh = .ok stack) :
    stack.value? ParameterKey.httpsEnabled.text = some "true" ∧
        stack.scope.decides httpsToo = some true ∧ stack.scope.decides httpOnly = some false ∨
      stack.value? ParameterKey.httpsEnabled.text = some "false" ∧
        stack.scope.decides httpsToo = some false ∧ stack.scope.decides httpOnly = some true := by
  obtain ⟨plan, routing, suffix, _, _, _, rfl⟩ := compile_loadBalanced balanced compiled
  have valued := loadBalanced_value plan routing suffix .httpsEnabled rfl
  have decidesHttps := loadBalanced_decides_https plan routing suffix
  have decidesHttp := loadBalanced_decides_http plan routing suffix
  cases https : plan.settings.httpsListener with
  | true =>
      rw [https] at valued decidesHttps decidesHttp
      exact .inl ⟨valued, decidesHttps, decidesHttp⟩
  | false =>
      rw [https] at valued decidesHttps decidesHttp
      exact .inr ⟨valued, decidesHttps, decidesHttp⟩

/-- The values of a stack are ordered by the bytes of their keys, and the template declares just
these keys. Where it declares a number the value is a whole one, and a negative one only for the
port that a workload has not. The parameter for HTTPS decides between the listeners. -/
theorem parameters_declared
    (compiled : compile workload app environment settings fresh = .ok stack) :
    stack.parameters.Pairwise (fun a b => textBytes a.key < textBytes b.key) ∧
    stack.parameters.map Parameter.key = stack.template.parameters.keys ∧
    stack.template.parameterType? ParameterKey.containerPort.text = some "Number" ∧
    (∀ parameter ∈ stack.parameters,
      stack.template.parameterType? parameter.key = some "Number" →
        ∃ n : Int, parameter.value = toString n ∧ -1 ≤ n ∧
          (n = -1 ↔ parameter.key = ParameterKey.containerPort.text ∧
            workload.image.port = none)) ∧
    (workload.kind = .loadBalanced →
      stack.value? ParameterKey.httpsEnabled.text = some "true" ∧
          stack.scope.decides httpsToo = some true ∧ stack.scope.decides httpOnly = some false ∨
        stack.value? ParameterKey.httpsEnabled.text = some "false" ∧
          stack.scope.decides httpsToo = some false ∧
            stack.scope.decides httpOnly = some true) := by
  obtain ⟨values, distinct, handed, declared, ⟨port, ported⟩, numbers⟩ := compile_values compiled
  refine ⟨?_, compile_keys compiled, ?_, ?_, fun balanced => compile_listener balanced compiled⟩
  · rw [handed]
    exact toList_increasing _
  · rw [parameterType?_eq declared, ported]
    rfl
  · intro parameter member number
    rw [handed] at member
    obtain ⟨key, value, given, isNumber, rfl⟩ := number_of_declared declared distinct member number
    exact numbers _ given isNumber

def Workload.portless (name : String) : Workload :=
  { runnable name .backend with image := ⟨some "busybox", none⟩ }

theorem parameters_declared_portless :
    (∃ stack, compile (.portless "worker") "shop" "test" {}
        ⟨"s1", by decide, by decide, by decide⟩ = .ok stack ∧
      stack.parameters.map Parameter.key = stack.template.parameters.keys ∧
      ⟨"ContainerPort", "-1"⟩ ∈ stack.parameters ∧
      ∃ n : Int, "-1" = toString n ∧ n = -1) ∧
    ∃ stack, compile (.served "api") "shop" "test" { httpsListener := true }
        ⟨"s1", by decide, by decide, by decide⟩ = .ok stack ∧
      (stack.scope.decides httpsToo = some true ↔ stack.scope.decides httpOnly = some false) := by
  obtain ⟨worker, compiled, handed⟩ : ∃ stack, compile (.portless "worker") "shop" "test" {}
      ⟨"s1", by decide, by decide, by decide⟩ = .ok stack ∧
      ⟨"ContainerPort", "-1"⟩ ∈ stack.parameters := ⟨_, rfl, by decide +kernel⟩
  obtain ⟨api, compiledToo⟩ : ∃ stack, compile (.served "api") "shop" "test"
      { httpsListener := true } ⟨"s1", by decide, by decide, by decide⟩ = .ok stack := ⟨_, rfl⟩
  obtain ⟨_, keys, isNumber, numbers, _⟩ := parameters_declared compiled
  obtain ⟨n, written, _, negative⟩ := numbers _ handed isNumber
  obtain ⟨_, _, _, _, listeners⟩ := parameters_declared compiledToo
  refine ⟨⟨worker, compiled, keys, handed, n, written, negative.mpr ⟨rfl, rfl⟩⟩, api,
    compiledToo, ?_⟩
  rcases listeners rfl with ⟨_, https, http⟩ | ⟨_, https, http⟩ <;> simp [https, http]

end Stackwright
