import Stackwright.Stack.Compile

/-!
Deployments: a stack is compiled with the suffix that the outputs of its last deployment hold, and
its own outputs take their place.
-/

namespace Stackwright

abbrev Outputs := Dict String

/-- The settings of a further deployment: a suffix that can be read back is used again. -/
def Settings.afterDeployment (settings : Settings) (outputs : Outputs) : Settings :=
  match UniqueSuffix.ofOutputs outputs with
  | some suffix => { settings with uniqueSuffix := some suffix.text }
  | none => settings

def Template.outputText? (template : Template) (name : String) : Option String :=
  match (template.outputs.get? name).map Output.value with
  | some (.text value) => some value
  | _ => none

def Stack.outputsAfter (stack : Stack) (outputs : Outputs) : Outputs :=
  let others := outputs.erase UniqueSuffix.outputName
  match stack.template.outputText? UniqueSuffix.outputName with
  | some value => others.insert UniqueSuffix.outputName value
  | none => others

def deploy (outputs : Outputs) (workload : Workload) (app environment : String)
    (settings : Settings) (fresh : UniqueSuffix) : Except StackError Stack × Outputs :=
  match compileFor workload app environment (settings.afterDeployment outputs) fresh with
  | .ok stack => (.ok stack, stack.outputsAfter outputs)
  | .error error => (.error error, outputs)

end Stackwright
