import Stackwright.Proofs.Stack.Compiled
import Stackwright.Yaml.Printer

/-!
The last line of a printed document. A template that is written out ends its last line, so that
what is written after it begins a line.
-/

namespace Stackwright

namespace Yaml

variable {text key : String} {indent : Nat} {value : Json}

def EndsLine (text : String) : Prop := ∃ before, text = before ++ "\n"

theorem EndsLine.append (before : String) (ends : EndsLine text) : EndsLine (before ++ text) := by
  obtain ⟨start, rfl⟩ := ends
  exact ⟨before ++ start, String.append_assoc.symm⟩

theorem endsLine_endLine (ends : (text.toList.getLast?.map isBreak).getD false = false) :
    EndsLine (endLine text) := by
  rw [endLine, if_neg (by simp [ends])]
  exact ⟨text, rfl⟩

theorem chooseStyle_of_oneLine (asKey : Bool) (oneLine : '\n' ∉ text.toList) :
    (chooseStyle asKey text = .plain ∧ isMultiline text.toList = false) ∨
      chooseStyle asKey text = .single ∨ chooseStyle asKey text = .double := by
  have noFeed : text.toList.contains '\n' = false := by simpa using oneLine
  simp only [chooseStyle, noFeed, Bool.false_eq_true, if_false]
  by_cases split : asKey && isMultiline text.toList
  · simp [split]
  · by_cases bare : !isAmbiguous text && allowsPlain text.toList
    · left
      refine ⟨by simp [split, bare], ?_⟩
      simp only [Bool.and_eq_true, allowsPlain, Bool.not_eq_true', Bool.or_eq_false_iff] at bare
      exact bare.2.1.1.2
    · simp only [split, bare]
      by_cases quoted : allowsSingle text.toList <;> simp [quoted]

theorem endsLine_scalarText {asKey : Bool} (oneLine : '\n' ∉ text.toList) :
    EndsLine (endLine (scalarText asKey indent text)) := by
  apply endsLine_endLine
  rcases chooseStyle_of_oneLine asKey oneLine with ⟨plain, unbroken⟩ | single | double
  · rw [scalarText, plain]
    cases last : text.toList.getLast? with
    | none => rfl
    | some c =>
        have unbroken := List.any_eq_false.mp unbroken c (List.mem_of_getLast? last)
        simpa using unbroken
  · simp only [scalarText, single, String.toList_ofList, List.getLast?_append,
      List.getLast?_singleton]
    rfl
  · simp only [scalarText, double, String.toList_ofList, List.getLast?_append,
      List.getLast?_singleton]
    rfl

/-- However deep the value stands, its text ends with a line feed. -/
def EndsItsLine (value : Json) : Prop := ∀ start indent, EndsLine (valueText start indent value)

theorem endsItsLine_string (oneLine : '\n' ∉ text.toList) : EndsItsLine (.string text) := by
  intro start indent
  exact (endsLine_scalarText oneLine).append " "

theorem endsLine_entriesText (before : List (String × Json)) (ends : EndsItsLine value) :
    EndsLine (entriesText indent (before ++ [(key, value)])) := by
  induction before with
  | nil =>
      rw [List.nil_append, entriesText, entriesText, String.append_empty]
      exact (ends _ _).append _
  | cons entry rest ih =>
      rw [List.cons_append, entriesText]
      exact ih.append _

theorem endsItsLine_object (before : List (String × Json)) (ends : EndsItsLine value) :
    EndsItsLine (.object (before ++ [(key, value)])) := by
  intro start indent
  cases before with
  | nil =>
      rw [List.nil_append, valueText, entriesText, String.append_empty]
      exact (ends _ _).append _
  | cons entry rest =>
      rw [List.cons_append, valueText]
      exact (endsLine_entriesText rest ends).append _

theorem endsLine_print (before : List (String × Json)) (ends : EndsItsLine value) :
    EndsLine (print (.object (before ++ [(key, value)]))) := by
  have whole : print (.object (before ++ [(key, value)])) =
      entriesText 0 (before ++ [(key, value)]) := by
    cases before <;> rfl
  rw [whole]
  exact endsLine_entriesText before ends

end Yaml

open Yaml

/-- Whichever output comes last ends the last line. -/
theorem Template.endsLine_print {template : Template} {outputs : List (String × Output)}
    (held : template.outputs = .ofList outputs) (present : outputs ≠ [])
    (ends : ∀ output ∈ outputs, EndsItsLine output.2.document) :
    EndsLine (print template.document) := by
  have kept : template.outputs.entries ≠ [] := by
    rw [held]
    exact sortEntries_ne_nil present
  obtain ⟨before, last, split⟩ : ∃ before last, template.outputs.entries = before ++ [last] :=
    ⟨_, _, (List.dropLast_concat_getLast kept).symm⟩
  have isOutput : last ∈ outputs := by
    apply mem_of_mem_sortEntries
    have member : last ∈ template.outputs.entries := by simp [split]
    rwa [held] at member
  have shown : section? Output.document template.outputs =
      some (.object
        (before.map (fun e => (e.1, e.2.document)) ++ [(last.1, last.2.document)])) := by
    have notEmpty : template.outputs.isEmpty = false := by simp [Dict.isEmpty, kept]
    rw [section?, notEmpty]
    simp [Json.ofDict, Dict.map, Dict.mapEntries, split]
  rw [Template.document, shown]
  exact Yaml.endsLine_print _ (endsItsLine_object _ (ends _ isOutput))

theorem commonOutputs_endsItsLine : ∀ output ∈ commonOutputs, EndsItsLine output.2.document := by
  intro output member
  obtain rfl := List.mem_singleton.mp member
  have exported : EndsItsLine (.string "$\x7bAWS::StackName\x7d-DiscoveryServiceARN") :=
    endsItsLine_string (by decide +kernel)
  exact endsItsLine_object [_, _] (endsItsLine_object [] (endsItsLine_object [] exported))

theorem routingOutputs_endsItsLine (suffix : UniqueSuffix) :
    ∀ output ∈ routingOutputs suffix, EndsItsLine output.2.document := by
  intro output member
  rcases List.mem_cons.mp member with rfl | member
  · have named : '\n' ∉ suffix.text.toList := fun feed =>
      absurd (List.all_eq_true.mp suffix.allowed _ feed) (by decide)
    exact endsItsLine_object [_] (endsItsLine_string named)
  · obtain rfl := List.mem_singleton.mp member
    have imported : EndsItsLine
        (.string "$\x7bAppName\x7d-$\x7bEnvName\x7d-PublicLoadBalancerDNSName") :=
      endsItsLine_string (by decide +kernel)
    exact endsItsLine_object [_] (endsItsLine_object [] (endsItsLine_object [] imported))

theorem endsLine_of_compile {workload : Workload} {app environment : String} {settings : Settings}
    {fresh : UniqueSuffix} {stack : Stack}
    (compiled : compile workload app environment settings fresh = .ok stack) :
    EndsLine (print stack.template.document) := by
  cases kind : workload.kind with
  | backend =>
      obtain ⟨plan, -, rfl⟩ := compile_backend kind compiled
      exact Template.endsLine_print rfl (List.cons_ne_nil _ _) commonOutputs_endsItsLine
  | loadBalanced =>
      obtain ⟨plan, routing, suffix, -, -, -, rfl⟩ := compile_loadBalanced kind compiled
      refine Template.endsLine_print rfl (List.cons_ne_nil _ _) ?_
      exact List.forall_mem_append.mpr
        ⟨commonOutputs_endsItsLine, routingOutputs_endsItsLine suffix⟩

end Stackwright
