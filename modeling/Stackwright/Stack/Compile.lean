import Stackwright.Overlay
import Stackwright.Stack.Routing

/-!
Compiling a workload into a stack: its template, and the parameters to deploy it with.
-/

namespace Stackwright

structure Stack where
  name : String
  template : Template
  parameters : List Parameter
  /-- The suffix of the helper functions' names, where the stack has such functions. -/
  uniqueSuffix : Option UniqueSuffix
  tags : Dict String

def planParameters (plan : Plan) : Except CompileError Parameters :=
  match plan.workload.kind with
  | .backend =>
    match plan.workload.http with
    | some _ => .error (.unsupported .backendHttp)
    | none => .ok (.of (baseParameters plan))
  | .loadBalanced => do
    let routing ← Routing.of plan
    return .of (baseParameters plan ++ routingParameters plan routing)

def stackDescription (plan : Plan) : String :=
  plan.workload.kind.display ++ " " ++ plan.workload.name ++ " for " ++ plan.app ++ "-"
    ++ plan.environment

def backendTemplate (plan : Plan) (parameters : Parameters) : Template where
  description := stackDescription plan
  metadata := stackMetadata
  parameters := parameters.declarations
  conditions := .ofList [(hasAddons, isGiven .addonsTemplateUrl)]
  resources := resourcesById <|
    taskResources plan
    ++ [(.service, { type := "AWS::ECS::Service", properties := .record (serviceProperties plan) }),
        (.addonsStack, addonsStack)]
    ++ scalingResources plan
  outputs := .ofList commonOutputs

def loadBalancedTemplate (plan : Plan) (routing : Routing) (parameters : Parameters)
    (suffix : UniqueSuffix) : Template where
  description := stackDescription plan
  metadata := stackMetadata
  parameters := parameters.declarations
  conditions := .ofList ((hasAddons, isGiven .addonsTemplateUrl) :: routingConditions)
  resources := resourcesById <|
    taskResources plan
    ++ [(.targetGroup, targetGroup routing)]
    ++ envControllerResources plan suffix
    ++ rulePriorityResources plan suffix
    ++ listenerRules
    ++ [(.service, routedService plan routing),
        (.addonsStack, addonsStack)]
    ++ scalingResources plan
  outputs := .ofList (commonOutputs ++ routingOutputs suffix)

/-- Compiles a workload that is already resolved for its environment. Where the settings hold no
suffix, helper functions get the fresh one. -/
def compile (workload : Workload) (app environment : String) (settings : Settings)
    (fresh : UniqueSuffix) : Except CompileError Stack := do
  let plan ← Plan.of workload app environment settings
  let parameters ← planParameters plan
  match workload.kind with
  | .backend =>
    return {
      name := plan.names.stack
      template := backendTemplate plan parameters
      parameters := parameters.toList
      uniqueSuffix := none
      tags := plan.tags }
  | .loadBalanced =>
    let suffix ← UniqueSuffix.choose settings.uniqueSuffix fresh
    let routing ← Routing.of plan
    return {
      name := plan.names.stack
      template := loadBalancedTemplate plan routing parameters suffix
      parameters := parameters.toList
      uniqueSuffix := some suffix
      tags := plan.tags }

def stackParameters (workload : Workload) (app environment : String) (settings : Settings) :
    Except CompileError (List Parameter) := do
  let plan ← Plan.of workload app environment settings
  let parameters ← planParameters plan
  return parameters.toList

inductive StackError where
  | overlay (error : OverlayError)
  | compile (error : CompileError)

namespace StackError

def message : StackError → String
  | overlay error => error.message
  | compile error => error.message

def isDefect : StackError → Bool
  | overlay _ => false
  | compile error => error.isDefect

end StackError

def compileFor (workload : Workload) (app environment : String) (settings : Settings)
    (fresh : UniqueSuffix) : Except StackError Stack := do
  let resolved ← (workload.resolve environment).mapError .overlay
  (compile resolved app environment settings fresh).mapError .compile

end Stackwright
