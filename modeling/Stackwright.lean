import Stackwright.Caller
import Stackwright.Deployment
import Stackwright.Main
import Stackwright.Proofs.Template.Sound
import Stackwright.Proofs.Workload.Fieldwise
import Stackwright.Proofs.Stack.TaskReferences
import Stackwright.Proofs.Stack.RoutingReferences
import Stackwright.Proofs.Stack.ClosedStack
import Stackwright.Proofs.Stack.TargetPort
import Stackwright.Proofs.Stack.Admission
import Stackwright.Proofs.Stack.RulePriority
import Stackwright.Proofs.Deployment.Suffix
import Stackwright.Proofs.Stack.Change
import Stackwright.Proofs.Stack.ManagedPolicies
import Stackwright.Proofs.Stack.SuffixPlaces
import Stackwright.Proofs.Stack.HostHeader
import Stackwright.Proofs.Stack.Outline
import Stackwright.Proofs.Stack.Resolution
import Stackwright.Proofs.Stack.ParametersAlone
import Stackwright.Proofs.ByteOrder
import Stackwright.Proofs.Stack.Declarations
import Stackwright.Proofs.Stack.CreationOrder
import Stackwright.Proofs.Tree.Laws
import Stackwright.Proofs.Tree.Places
import Stackwright.Proofs.CommandLine.Pipeline
import Stackwright.Proofs.Yaml.LastLine
import Stackwright.Proofs.Stack.Defaults
import Stackwright.Proofs.Stack.Spelling
import Stackwright.Proofs.Naming.Shortening
import Stackwright.Proofs.Naming.Distinctness
import Stackwright.Proofs.Stack.FunctionNames
import Stackwright.Proofs.Stack.SecretGrants
import Stackwright.Proofs.Stack.TaskRange
import Stackwright.Proofs.Stack.TaskCount
import Stackwright.Proofs.Stack.ContainerNames
import Stackwright.Proofs.Stack.ListenerRules
import Stackwright.Proofs.Stack.ContainerVariables
import Stackwright.Proofs.Caller
import Stackwright.Proofs.Tree.Canonical
import Stackwright.Proofs.Template.Uses
import Stackwright.Proofs.Stack.AnnouncedPort
