import Stackwright.Payload
import Stackwright.Stack.TaskResources

/-!
Routing: how requests from outside reach a load balanced service. Its stack has a target group and
listener rules, and two helper functions, one to pick a free priority for the rules and one to
have the environment's stack open its listeners.
-/

namespace Stackwright

structure Routing where
  http : Http
  path : String
  targetContainer : String
  targetPort : UInt16
  aliases : List String
  healthCheck : HealthCheck
  deriving DecidableEq, Repr

def rulePath (path : String) : String :=
  let inner := dropEnds (· == '/') path.toList
  if inner = [] then "/" else String.ofList inner

/-- The container that requests go to, and its port. It is the main container where none is
named. -/
def routingTarget (workload : Workload) (http : Http) (mainPort : UInt16) :
    Except CompileError (String × UInt16) :=
  let container := http.targetContainer.getD workload.name
  if container = workload.name then .ok (container, http.targetPort.getD mainPort)
  else
    match workload.sidecars.get? container with
    | none => .error (.unsupported (.unknownTarget container))
    | some sidecar =>
      match http.targetPort.or sidecar.port with
      | none => .error (.unsupported (.targetWithoutPort container))
      | some port => .ok (container, port)

def checkAliases (settings : Settings) (aliases : List String) : Except CompileError Unit :=
  if aliases = [] then .ok ()
  else if settings.partition = .china then
    .error (.unsupported (.aliasInPartition settings.partition))
  else if settings.httpsListener then .ok ()
  else .error (.unsupported .aliasWithoutHttps)

def Routing.of (plan : Plan) : Except CompileError Routing := do
  let http ← require .http plan.workload.http
  let path ← require .httpPath http.path
  let mainPort ← require .imagePort plan.task.port
  let (targetContainer, targetPort) ← routingTarget plan.workload http mainPort
  let aliases := http.aliases.getD []
  checkAliases plan.settings aliases
  return {
    http
    path := rulePath path
    targetContainer, targetPort, aliases
    healthCheck := (http.healthCheck.map HealthCheckSetting.settings).getD {} }

def routingParameters (plan : Plan) (routing : Routing) : List (ParameterKey × ParameterValue) :=
  [(.targetContainer, .ofText routing.targetContainer),
   (.targetPort, .ofNat routing.targetPort.toNat),
   (.httpsEnabled, .ofFlag plan.settings.httpsListener),
   (.rulePath, .ofText routing.path),
   (.healthCheckPath, .ofText (routing.healthCheck.path.getD "/")),
   (.stickiness, .ofFlag (routing.http.stickiness.getD false)),
   (.aliases, .ofText (",".intercalate routing.aliases))]

def httpOnly : String := "HTTPLoadBalancer"
def httpsToo : String := "HTTPSLoadBalancer"
def isRootPath : String := "IsDefaultRootPath"
def hasAliases : String := "HasAliases"

def routingConditions : List (String × Expr) :=
  [(httpOnly, .equals ParameterKey.httpsEnabled.ref (.text "false")),
   (httpsToo, .equals ParameterKey.httpsEnabled.ref (.text "true")),
   (isRootPath, .equals ParameterKey.rulePath.ref (.text "/")),
   (hasAliases, isGiven .aliases)]

def attributePair (key : String) (value : Expr) : Expr :=
  .record [("Key", .text key), ("Value", value)]

def targetGroup (routing : Routing) : Resource where
  type := "AWS::ElasticLoadBalancingV2::TargetGroup"
  properties :=
    let check := routing.healthCheck
    let seconds (duration : Option Duration) (default : UInt64) : UInt64 :=
      (duration.map Duration.seconds).getD default
    .record [
      ("HealthCheckPath", ParameterKey.healthCheckPath.ref),
      ("HealthCheckIntervalSeconds", .natural (seconds check.interval 10)),
      ("HealthCheckTimeoutSeconds", .natural (seconds check.timeout 5)),
      ("HealthyThresholdCount", .natural (check.healthyThreshold.getD 2).toUInt64),
      ("UnhealthyThresholdCount", .natural (check.unhealthyThreshold.getD 2).toUInt64),
      ("Matcher", .record [("HttpCode", .text (check.successCodes.getD "200"))]),
      ("Port", ParameterKey.targetPort.ref),
      ("Protocol", .text "HTTP"),
      ("TargetType", .text "ip"),
      ("VpcId", .ofEnvironment "VpcId"),
      ("TargetGroupAttributes", .list [
        attributePair "deregistration_delay.timeout_seconds"
          (.text (toString (seconds routing.http.deregistrationDelay 60).toNat)),
        attributePair "stickiness.enabled" ParameterKey.stickiness.ref,
        attributePair "stickiness.type" (.text "lb_cookie"),
        attributePair "load_balancing.algorithm.type" (.text "round_robin")])]

def helperRole (partition : Partition) (policyName : String) (statements : List Expr) :
    Resource where
  type := "AWS::IAM::Role"
  properties := .record [
    ("AssumeRolePolicyDocument", trustPolicy "lambda.amazonaws.com"),
    ("ManagedPolicyArns", .texts [
      partition.managedPolicy "service-role/AWSLambdaBasicExecutionRole"]),
    ("Policies", .list [policy policyName statements])]

def maxFunctionName : Nat := 64

/-- A function that runs a payload. The digest of the payload stands beside it, so that a changed
payload shows as a changed resource. -/
def helperFunction (plan : Plan) (role runAs : Role) (payload : Payload)
    (suffix : UniqueSuffix) : Resource where
  type := "AWS::Lambda::Function"
  metadata := some (.record [
    ("Payload", .text payload.name),
    ("PayloadDigest", .text payload.digest)])
  properties := .record [
    ("FunctionName", .text (plan.names.unique role suffix maxFunctionName)),
    ("Code", .record [("ZipFile", .text payload.source)]),
    ("Handler", .text Payload.handler),
    ("Runtime", .text Payload.runtime),
    ("Timeout", .natural 600),
    ("Role", runAs.arn)]

def envControllerResources (plan : Plan) (suffix : UniqueSuffix) : List (Role × Resource) :=
  [(.envControllerRole,
    helperRole plan.settings.partition "EnvControllerStackUpdate" [
      allow ["cloudformation:DescribeStacks", "cloudformation:UpdateStack"]
        (.substitute <|
          "arn:$\x7bAWS::Partition\x7d:cloudformation:$\x7bAWS::Region\x7d:$\x7bAWS::AccountId\x7d"
            ++ ":stack/$\x7bAppName\x7d-$\x7bEnvName\x7d/*"),
      allow ["iam:PassRole"]
        (.substitute <|
          "arn:$\x7bAWS::Partition\x7d:iam::$\x7bAWS::AccountId\x7d"
            ++ ":role/$\x7bAppName\x7d-$\x7bEnvName\x7d-CFNExecutionRole")]),
   (.envControllerFunction,
    helperFunction plan .envControllerFunction .envControllerRole .envController suffix),
   (.envControllerAction,
    { type := "Custom::EnvControllerFunction"
      properties := .record [
        ("ServiceToken", Role.envControllerFunction.arn),
        ("Workload", ParameterKey.workloadName.ref),
        ("EnvStack", .substitute "$\x7bAppName\x7d-$\x7bEnvName\x7d"),
        ("Parameters", .texts ["ALBWorkloads"])] })]

def httpListener : Expr := Role.envControllerAction.get "HTTPListenerArn"
def httpsListener : Expr := Role.envControllerAction.get "HTTPSListenerArn"

def rulePriorityResources (plan : Plan) (suffix : UniqueSuffix) : List (Role × Resource) :=
  [(.rulePriorityRole,
    helperRole plan.settings.partition "RulePriorityDescribeRules" [
      allow ["elasticloadbalancing:DescribeRules"] (.text "*")]),
   (.rulePriorityFunction,
    helperFunction plan .rulePriorityFunction .rulePriorityRole .rulePriority suffix),
   (.rulePriorityAction,
    { type := "Custom::RulePriorityFunction"
      properties := .record [
        ("ServiceToken", Role.rulePriorityFunction.arn),
        ("ListenerArn", .choose httpsToo httpsListener httpListener)] })]

def pathCondition : Expr :=
  .record [
    ("Field", .text "path-pattern"),
    ("PathPatternConfig", .record [
      ("Values", .choose isRootPath
        (.texts ["/*"])
        (.list [.substitute "/$\x7bRulePath\x7d", .substitute "/$\x7bRulePath\x7d/*"]))])]

def hostCondition : Expr :=
  .choose hasAliases
    (.record [
      ("Field", .text "host-header"),
      ("HostHeaderConfig", .record [("Values", .split "," ParameterKey.aliases.ref)])])
    .noValue

def forward : Expr :=
  .record [("Type", .text "forward"), ("TargetGroupArn", Role.targetGroup.ref)]

def redirect : Expr :=
  .record [
    ("Type", .text "redirect"),
    ("RedirectConfig", .record [
      ("Protocol", .text "HTTPS"),
      ("Port", .text "443"),
      ("StatusCode", .text "HTTP_301")])]

def listenerRule (condition : String) (listener action : Expr) (conditions : List Expr) :
    Resource where
  type := "AWS::ElasticLoadBalancingV2::ListenerRule"
  condition := some condition
  properties := .record [
    ("ListenerArn", listener),
    ("Priority", Role.rulePriorityAction.get "Priority"),
    ("Actions", .list [action]),
    ("Conditions", .list conditions)]

/-- The service must not start before the rule that applies is there; the handle waits for it. -/
def ruleWaitHandle : Resource where
  type := "AWS::CloudFormation::WaitConditionHandle"
  metadata := some (.record [
    ("RuleArn", .choose httpsToo Role.httpsListenerRule.ref Role.httpListenerRule.ref)])
  properties := .record []

def listenerRules : List (Role × Resource) :=
  [(.httpListenerRule, listenerRule httpOnly httpListener forward [pathCondition]),
   (.httpsListenerRule,
    listenerRule httpsToo httpsListener forward [pathCondition, hostCondition]),
   (.httpRedirectRule, listenerRule httpsToo httpListener redirect [pathCondition]),
   (.listenerRuleWaitHandle, ruleWaitHandle)]

def routedService (plan : Plan) (routing : Routing) : Resource where
  type := "AWS::ECS::Service"
  dependsOn := [Role.listenerRuleWaitHandle.id, Role.envControllerAction.id]
  properties := .record <|
    serviceProperties plan ++
    [("LoadBalancers", .list [.record [
       ("ContainerName", ParameterKey.targetContainer.ref),
       ("ContainerPort", ParameterKey.targetPort.ref),
       ("TargetGroupArn", Role.targetGroup.ref)]]),
     ("HealthCheckGracePeriodSeconds",
       .natural ((routing.healthCheck.gracePeriod.map Duration.seconds).getD 60))]

def routingOutputs (suffix : UniqueSuffix) : List (String × Output) :=
  [(UniqueSuffix.outputName,
    { description := some <|
        "Suffix of the helper function names; supply it again on the next deployment."
      value := .text suffix.text }),
   ("PublicLoadBalancerDNSName",
    { description := some "DNS name of the environment's public load balancer."
      value := .ofEnvironment "PublicLoadBalancerDNSName" })]

end Stackwright
