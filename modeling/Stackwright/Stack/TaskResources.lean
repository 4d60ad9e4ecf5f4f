import Stackwright.Stack.Task
import Stackwright.Template

/-!
The resources that stacks of every kind have: logging, roles, the task and its containers, the
service, its discovery, add-ons and scaling.
-/

namespace Stackwright

namespace Expr

def texts (values : List String) : Expr := list (values.map text)

end Expr

def trustPolicy (principal : String) : Expr :=
  .record [
    ("Version", .text "2012-10-17"),
    ("Statement", .list [.record [
      ("Effect", .text "Allow"),
      ("Principal", .record [("Service", .text principal)]),
      ("Action", .text "sts:AssumeRole")]])]

def allow (actions : List String) (resource : Expr) : Expr :=
  .record [("Effect", .text "Allow"), ("Action", .texts actions), ("Resource", resource)]

def policy (name : String) (statements : List Expr) : Expr :=
  .record [
    ("PolicyName", .text name),
    ("PolicyDocument", .record [
      ("Version", .text "2012-10-17"),
      ("Statement", .list statements)])]

def tasksPrincipal : String := "ecs-tasks.amazonaws.com"

def logGroup : Resource where
  type := "AWS::Logs::LogGroup"
  properties := .record [
    ("LogGroupName",
      .substitute "/ecs/$\x7bAppName\x7d-$\x7bEnvName\x7d-$\x7bWorkloadName\x7d"),
    ("RetentionInDays", ParameterKey.logRetention.ref)]

/-- What has to be readable for a secret. A full resource name stands for itself; any other text
names a parameter in the account and region of the stack. -/
def secretResource (source : String) : Expr :=
  if source.startsWith "arn:" then .text source
  else
    .substitute <|
      "arn:$\x7bAWS::Partition\x7d:ssm:$\x7bAWS::Region\x7d:$\x7bAWS::AccountId\x7d:parameter/"
        ++ String.ofList (source.toList.dropWhile (· == '/'))

def secretsPolicy (secrets : Dict String) : Expr :=
  policy "SecretsAccess" [
    allow ["ssm:GetParameters", "secretsmanager:GetSecretValue", "kms:Decrypt"]
      (.list (secrets.values.map secretResource))]

def memberIf (condition : Bool) (name : String) (value : Expr) : List (String × Expr) :=
  if condition then [(name, value)] else []

def executionRole (plan : Plan) : Resource where
  type := "AWS::IAM::Role"
  properties := .record <|
    [("AssumeRolePolicyDocument", trustPolicy tasksPrincipal),
     ("ManagedPolicyArns", .texts [
       plan.settings.partition.managedPolicy "service-role/AmazonECSTaskExecutionRolePolicy"])]
    ++ memberIf (!plan.workload.secrets.isEmpty) "Policies"
      (.list [secretsPolicy plan.workload.secrets])

def sessionPolicy : Expr :=
  policy "ExecuteCommand" [
    allow
      ["ssmmessages:CreateControlChannel", "ssmmessages:OpenControlChannel",
       "ssmmessages:CreateDataChannel", "ssmmessages:OpenDataChannel"]
      (.text "*"),
    allow
      ["logs:CreateLogStream", "logs:DescribeLogGroups", "logs:DescribeLogStreams",
       "logs:PutLogEvents"]
      (.text "*")]

def taskRole (plan : Plan) : Resource where
  type := "AWS::IAM::Role"
  properties := .record <|
    [("AssumeRolePolicyDocument", trustPolicy tasksPrincipal)]
    ++ memberIf plan.workload.exec "Policies" (.list [sessionPolicy])

def logConfiguration : Expr :=
  .record [
    ("LogDriver", .text "awslogs"),
    ("Options", .record [
      ("awslogs-region", .ref "AWS::Region"),
      ("awslogs-group", Role.logGroup.ref),
      ("awslogs-stream-prefix", .text "ecs")])]

def variableList (table : Dict Expr) : Expr :=
  .list (table.entries.map fun v => .record [("Name", .text v.1), ("Value", v.2)])

/-- The variables of the main container; those that tell where it runs cannot be replaced. -/
def mainVariables (plan : Plan) : Dict Expr :=
  (plan.workload.processVariables.map Expr.text)
    |>.insert "APP_NAME" ParameterKey.appName.ref
    |>.insert "ENV_NAME" ParameterKey.envName.ref
    |>.insert "SERVICE_NAME" ParameterKey.workloadName.ref
    |>.insert "SERVICE_DISCOVERY_ENDPOINT"
      (.substitute "$\x7bEnvName\x7d.$\x7bAppName\x7d.local")

def ContainerCheck.expr (check : ContainerCheck) : Expr :=
  let seconds (duration : Option Duration) (default : UInt64) : Expr :=
    .natural ((duration.map Duration.seconds).getD default)
  .record [
    ("Command", .texts check.command),
    ("Interval", seconds check.interval 10),
    ("Retries", .natural (check.retries.getD 2).toUInt64),
    ("Timeout", seconds check.timeout 5),
    ("StartPeriod", seconds check.startPeriod 0)]

def portMappings (port : Expr) : Expr :=
  .list [.record [("ContainerPort", port), ("Protocol", .text "tcp")]]

def mainContainer (plan : Plan) : Expr :=
  let workload := plan.workload
  .record <|
    [("Name", ParameterKey.workloadName.ref),
     ("Image", ParameterKey.containerImage.ref),
     ("Essential", .flag true),
     ("Environment", variableList (mainVariables plan)),
     ("LogConfiguration", logConfiguration)]
    ++ memberIf plan.task.port.isSome "PortMappings" (portMappings ParameterKey.containerPort.ref)
    ++ memberIf (!workload.secrets.isEmpty) "Secrets"
      (.list (workload.secrets.entries.map fun secret =>
        .record [("Name", .text secret.1), ("ValueFrom", .text secret.2)]))
    ++ (workload.entryPoint.map fun words => ("EntryPoint", Expr.texts words)).toList
    ++ (workload.command.map fun words => ("Command", Expr.texts words)).toList
    ++ (workload.healthCheck.map fun check => ("HealthCheck", check.expr)).toList

def sidecarContainer (name : String) (sidecar : Sidecar) : Expr :=
  .record <|
    [("Name", .text name),
     ("Image", .text sidecar.image),
     ("Essential", .flag (sidecar.essential.getD true)),
     ("Environment", variableList (sidecar.processVariables.map Expr.text)),
     ("LogConfiguration", logConfiguration)]
    ++ (sidecar.port.map fun port =>
      ("PortMappings", portMappings (.natural port.toUInt64))).toList

def taskDefinition (plan : Plan) : Resource where
  type := "AWS::ECS::TaskDefinition"
  properties := .record [
    ("Family", .substitute "$\x7bAppName\x7d-$\x7bEnvName\x7d-$\x7bWorkloadName\x7d"),
    ("NetworkMode", .text "awsvpc"),
    ("RequiresCompatibilities", .texts ["FARGATE"]),
    ("Cpu", ParameterKey.taskCpu.ref),
    ("Memory", ParameterKey.taskMemory.ref),
    ("ExecutionRoleArn", Role.executionRole.arn),
    ("TaskRoleArn", Role.taskRole.arn),
    ("ContainerDefinitions",
      .list (mainContainer plan
        :: plan.workload.sidecars.entries.map fun entry => sidecarContainer entry.1 entry.2))]

def discoveryService (plan : Plan) : Resource where
  type := "AWS::ServiceDiscovery::Service"
  properties :=
    let entry (type : String) : Expr := .record [("TTL", .natural 10), ("Type", .text type)]
    .record [
      ("Description", .substitute "Discovery service for the $\x7bWorkloadName\x7d service"),
      ("DnsConfig", .record [
        ("RoutingPolicy", .text "MULTIVALUE"),
        ("DnsRecords",
          .list (entry "A" :: if plan.task.port.isSome then [entry "SRV"] else []))]),
      ("HealthCheckCustomConfig", .record [("FailureThreshold", .natural 1)]),
      ("Name", ParameterKey.workloadName.ref),
      ("NamespaceId", .ofEnvironment "ServiceDiscoveryNamespaceID")]

def taskResources (plan : Plan) : List (Role × Resource) :=
  [(.logGroup, logGroup),
   (.executionRole, executionRole plan),
   (.taskRole, taskRole plan),
   (.taskDefinition, taskDefinition plan),
   (.discoveryService, discoveryService plan)]

def serviceNetwork (vpc : Vpc) : Expr :=
  let (assigned, subnets) := match vpc.placement with
    | .publicSubnets => ("ENABLED", "PublicSubnets")
    | .privateSubnets => ("DISABLED", "PrivateSubnets")
  .record [("AwsvpcConfiguration", .record [
    ("AssignPublicIp", .text assigned),
    ("Subnets", .split "," (.ofEnvironment subnets)),
    ("SecurityGroups",
      .list (.ofEnvironment "EnvironmentSecurityGroup" :: vpc.securityGroups.map Expr.text))])]

def serviceRegistry (plan : Plan) : Expr :=
  .record <|
    [("RegistryArn", Role.discoveryService.arn)]
    ++ memberIf plan.task.port.isSome "Port" ParameterKey.containerPort.ref

def serviceProperties (plan : Plan) : List (String × Expr) :=
  [("PlatformVersion", .text "LATEST"),
   ("Cluster", .ofEnvironment "ClusterId"),
   ("TaskDefinition", Role.taskDefinition.ref),
   ("DesiredCount", ParameterKey.taskCount.ref),
   ("DeploymentConfiguration", .record [
     ("MinimumHealthyPercent", .natural 100),
     ("MaximumPercent", .natural 200),
     ("DeploymentCircuitBreaker", .record [
       ("Enable", .flag true),
       ("Rollback", .flag true)])]),
   ("PropagateTags", .text "SERVICE"),
   ("LaunchType", .text "FARGATE"),
   ("EnableExecuteCommand", .flag plan.workload.exec),
   ("NetworkConfiguration", serviceNetwork plan.workload.network.vpc),
   ("ServiceRegistries", .list [serviceRegistry plan]),
   ("Tags", .tagList plan.tags)]

def hasAddons : String := "HasAddons"

/-- The nested stack of add-ons, made only where there is a template for it. -/
def addonsStack : Resource where
  type := "AWS::CloudFormation::Stack"
  condition := some hasAddons
  properties := .record [
    ("Parameters", .record [
      ("App", ParameterKey.appName.ref),
      ("Env", ParameterKey.envName.ref),
      ("Name", ParameterKey.workloadName.ref)]),
    ("TemplateURL", ParameterKey.addonsTemplateUrl.ref)]

def scalingTarget (range : ScalingRange) : Resource where
  type := "AWS::ApplicationAutoScaling::ScalableTarget"
  properties := .record [
    ("MinCapacity", .natural range.least.toUInt64),
    ("MaxCapacity", .natural range.greatest.toUInt64),
    ("ResourceId", .join "/" (.list [
      .text "service",
      .ofEnvironment "ClusterId",
      Role.service.get "Name"])),
    ("RoleARN", .substitute <|
      "arn:$\x7bAWS::Partition\x7d:iam::$\x7bAWS::AccountId\x7d:role/aws-service-role/"
        ++ "ecs.application-autoscaling.amazonaws.com/"
        ++ "AWSServiceRoleForApplicationAutoScaling_ECSService"),
    ("ScalableDimension", .text "ecs:service:DesiredCount"),
    ("ServiceNamespace", .text "ecs")]

def scalingPolicy (role : Role) (metric : String) (percentage : UInt32) : Resource where
  type := "AWS::ApplicationAutoScaling::ScalingPolicy"
  properties := .record [
    ("PolicyName", .substitute ("$\x7bAWS::StackName\x7d-" ++ role.id)),
    ("PolicyType", .text "TargetTrackingScaling"),
    ("ScalingTargetId", Role.scalingTarget.ref),
    ("TargetTrackingScalingPolicyConfiguration", .record [
      ("PredefinedMetricSpecification", .record [("PredefinedMetricType", .text metric)]),
      ("ScaleInCooldown", .natural 120),
      ("ScaleOutCooldown", .natural 60),
      ("TargetValue", .natural percentage.toUInt64)])]

def defaultCpuPercentage : UInt32 := 70

def ScalingRange.cpuTarget (range : ScalingRange) : Option UInt32 :=
  match range.cpuPercentage, range.memoryPercentage with
  | none, none => some defaultCpuPercentage
  | percentage, _ => percentage

def scalingResources (plan : Plan) : List (Role × Resource) :=
  match plan.task.scaling with
  | none => []
  | some range =>
    [(.scalingTarget, scalingTarget range)]
    ++ (range.cpuTarget.map fun percentage =>
      (Role.scalingCpuPolicy,
        scalingPolicy .scalingCpuPolicy "ECSServiceAverageCPUUtilization" percentage)).toList
    ++ (range.memoryPercentage.map fun percentage =>
      (Role.scalingMemoryPolicy,
        scalingPolicy .scalingMemoryPolicy "ECSServiceAverageMemoryUtilization" percentage)).toList

def commonOutputs : List (String × Output) :=
  [("DiscoveryServiceARN",
    ({ description := some "ARN of the Discovery Service."
       value := Role.discoveryService.arn } : Output).exportedAs "DiscoveryServiceARN")]

def isGiven (key : ParameterKey) : Expr := .negation (.equals key.ref (.text ""))

def stackMetadata : Dict Expr := .ofList [("Version", .text "stack-compiler v0.1.0")]

def resourcesById (resources : List (Role × Resource)) : Dict Resource :=
  .ofList (resources.map fun resource => (resource.1.id, resource.2))

end Stackwright
