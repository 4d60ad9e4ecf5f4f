import Mathlib.Data.List.Count
import Mathlib.Data.List.Nodup
import Mathlib.Data.Option.Basic
import Stackwright.Proofs.Stack.TargetPort

/-!
The names of containers. The container of the workload and its sidecars share one set of names, and
a name tells one of them if no sidecar is called like the workload.
-/

namespace Stackwright

def Stack.containerNames (stack : Stack) : List (Option String) :=
  stack.template.containers.map (containerName? stack.value?)

def Stack.containersNamed (stack : Stack) (name : String) : Nat :=
  stack.containerNames.count (some name)

def Workload.NamesApart (workload : Workload) : Prop := workload.sidecars.get? workload.name = none

section

variable {workload : Workload} {app environment : String} {settings : Settings}
  {fresh : UniqueSuffix} {stack : Stack}

theorem compile_containerNames
    (compiled : compile workload app environment settings fresh = .ok stack) :
    stack.containerNames = (workload.name :: workload.sidecars.keys).map some := by
  obtain ⟨plan, planned, task⟩ := compile_holdsTask compiled
  rw [Stack.containerNames, task.containers, List.map_cons, task.mainName, List.map_map,
    List.map_cons, Dict.keys, List.map_map, Plan.of_workload planned]
  rfl

theorem namesApart_iff_not_mem : workload.NamesApart ↔ workload.name ∉ workload.sidecars.keys := by
  rw [Workload.NamesApart, Dict.mem_keys_iff, Option.not_isSome_iff_eq_none]

theorem containerNames_nodup_iff
    (names : stack.containerNames = (workload.name :: workload.sidecars.keys).map some) :
    stack.containerNames.Nodup ↔ workload.NamesApart := by
  rw [names, List.nodup_map_iff (Option.some_injective _), List.nodup_cons, namesApart_iff_not_mem]
  exact and_iff_left workload.sidecars.keys_nodup

theorem containersNamed_eq
    (names : stack.containerNames = (workload.name :: workload.sidecars.keys).map some)
    (name : String) : stack.containersNamed name =
      (if name = workload.name then 1 else 0) +
        if (workload.sidecars.get? name).isSome then 1 else 0 := by
  have amongKeys : workload.sidecars.keys.count name =
      if (workload.sidecars.get? name).isSome then 1 else 0 := by
    by_cases isSidecar : name ∈ workload.sidecars.keys
    · rw [List.count_eq_one_of_mem workload.sidecars.keys_nodup isSidecar,
        if_pos (Dict.mem_keys_iff.mp isSidecar)]
    · rw [List.count_eq_zero_of_not_mem isSidecar, if_neg (mt Dict.mem_keys_iff.mpr isSidecar)]
  rw [Stack.containersNamed, names, List.count_map_of_injective _ _ (Option.some_injective _),
    List.count_cons, amongKeys, Nat.add_comm]
  by_cases isMain : name = workload.name
  · simp [isMain]
  · simp [isMain, Ne.symm isMain]

/-- Containers have different names just if no sidecar is called like the workload. Then the target
of a load balanced service is one container, and it always is if it is not called like the
workload. -/
theorem containerNames_distinct_iff
    (compiled : compile workload app environment settings fresh = .ok stack) :
    stack.containerNames = (workload.name :: workload.sidecars.keys).map some ∧
    (stack.containerNames.Nodup ↔ workload.NamesApart) ∧
    (workload.kind = .loadBalanced → ∃ target,
      stack.value? ParameterKey.targetContainer.text = some target ∧
      (stack.containersNamed target = 1 ↔ (target = workload.name → workload.NamesApart))) := by
  have names := compile_containerNames compiled
  refine ⟨names, containerNames_nodup_iff names, ?_⟩
  intro balanced
  obtain ⟨plan, routing, suffix, planned, routed, _, rfl⟩ := compile_loadBalanced balanced compiled
  obtain ⟨_, task, made, rfl⟩ := Plan.of_eq_ok planned
  obtain ⟨http, mainPort, exposed, ported, targeted⟩ := Routing.of_eq_ok routed
  have hasPort : workload.image.port = some mainPort := Task.ofWorkload_port made ▸ ported
  have isContainer := (routingTarget_eq_ok hasPort targeted).1
  refine ⟨routing.targetContainer, loadBalanced_value _ routing suffix .targetContainer rfl, ?_⟩
  rw [containersNamed_eq names, Workload.NamesApart, ← Option.not_isSome_iff_eq_none]
  by_cases isMain : routing.targetContainer = workload.name
  · simp [isMain]
  · simp [isMain, isContainer.resolve_left isMain]

end

def Workload.withSidecar (name sidecar : String) : Workload :=
  { served name with sidecars := .ofList [(sidecar, ⟨"envoyproxy/envoy", none, none, .empty⟩)] }

theorem containerNames_withSidecar : ∃ stack,
    compile (.withSidecar "api" "envoy") "shop" "test" {} ⟨"s1", by decide, by decide, by decide⟩ =
        .ok stack ∧
      stack.containerNames = [some "api", some "envoy"] ∧ stack.containerNames.Nodup ∧
      ∃ target, stack.value? ParameterKey.targetContainer.text = some target ∧
        stack.containersNamed target = 1 := by
  obtain ⟨stack, compiled⟩ : ∃ stack, compile (.withSidecar "api" "envoy") "shop" "test" {}
      ⟨"s1", by decide, by decide, by decide⟩ = .ok stack := ⟨_, rfl⟩
  obtain ⟨names, distinct, targets⟩ := containerNames_distinct_iff compiled
  have apart : (Workload.withSidecar "api" "envoy").NamesApart := rfl
  obtain ⟨target, isTarget, one⟩ := targets rfl
  exact ⟨stack, compiled, names, distinct.mpr apart, target, isTarget, one.mpr fun _ => apart⟩

/-- With a sidecar called like the workload, the target is two containers. -/
theorem sidecar_named_like_workload : ∃ stack,
    compile (.withSidecar "api" "api") "shop" "test" {} ⟨"s1", by decide, by decide, by decide⟩ =
        .ok stack ∧
      stack.containerNames = [some "api", some "api"] ∧ ¬ stack.containerNames.Nodup ∧
      stack.value? ParameterKey.targetContainer.text = some "api" ∧
      stack.containersNamed "api" = 2 := by
  obtain ⟨stack, compiled, isTarget⟩ : ∃ stack,
      compile (.withSidecar "api" "api") "shop" "test" {}
          ⟨"s1", by decide, by decide, by decide⟩ = .ok stack ∧
        stack.value? ParameterKey.targetContainer.text = some "api" := ⟨_, rfl, rfl⟩
  have names := compile_containerNames compiled
  refine ⟨stack, compiled, names, ?_, isTarget, containersNamed_eq names "api"⟩
  intro distinct
  cases (containerNames_nodup_iff names).mp distinct

end Stackwright
