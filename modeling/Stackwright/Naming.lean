import Stackwright.CompileError
import Stackwright.Dict
import Stackwright.Digest
import Stackwright.Text.Blank
import Stackwright.Text.Boundary

/-!
Names: the logical ids of a stack's resources, the physical names they get, and the suffix that
keeps the names of helper functions unique.
-/

namespace Stackwright

inductive Role where
  | logGroup
  | executionRole
  | taskRole
  | taskDefinition
  | service
  | discoveryService
  | addonsStack
  | scalingTarget
  | scalingCpuPolicy
  | scalingMemoryPolicy
  | targetGroup
  | httpListenerRule
  | httpsListenerRule
  | httpRedirectRule
  | listenerRuleWaitHandle
  | rulePriorityRole
  | rulePriorityFunction
  | rulePriorityAction
  | envControllerRole
  | envControllerFunction
  | envControllerAction
  deriving DecidableEq, Repr

namespace Role

def all : List Role :=
  [logGroup, executionRole, taskRole, taskDefinition, service, discoveryService, addonsStack,
   scalingTarget, scalingCpuPolicy, scalingMemoryPolicy, targetGroup, httpListenerRule,
   httpsListenerRule, httpRedirectRule, listenerRuleWaitHandle, rulePriorityRole,
   rulePriorityFunction, rulePriorityAction, envControllerRole, envControllerFunction,
   envControllerAction]

theorem mem_all (role : Role) : role ∈ all := by cases role <;> decide

def id : Role → String
  | logGroup => "LogGroup"
  | executionRole => "ExecutionRole"
  | taskRole => "TaskRole"
  | taskDefinition => "TaskDefinition"
  | service => "Service"
  | discoveryService => "DiscoveryService"
  | addonsStack => "AddonsStack"
  | scalingTarget => "AutoScalingTarget"
  | scalingCpuPolicy => "AutoScalingPolicyECSServiceAverageCPUUtilization"
  | scalingMemoryPolicy => "AutoScalingPolicyECSServiceAverageMemoryUtilization"
  | targetGroup => "TargetGroup"
  | httpListenerRule => "HTTPListenerRule"
  | httpsListenerRule => "HTTPSListenerRule"
  | httpRedirectRule => "HTTPRedirectRule"
  | listenerRuleWaitHandle => "ListenerRuleWaitHandle"
  | rulePriorityRole => "RulePriorityRole"
  | rulePriorityFunction => "RulePriorityFunction"
  | rulePriorityAction => "RulePriorityAction"
  | envControllerRole => "EnvControllerRole"
  | envControllerFunction => "EnvControllerFunction"
  | envControllerAction => "EnvControllerAction"

def slug : Role → String
  | rulePriorityFunction => "rule-priority"
  | envControllerFunction => "env-controller"
  | role => String.ofList (role.id.toList.map Char.toLower)

end Role

def nameDigestLength : Nat := 8

def nameDigest (name : String) : List Char := hexText (sha256 (textBytes name))

/-- A name of at most `limit` bytes; none where a text would be cut inside a character. A longer name
keeps its start, and digits of its digest take the place of the rest, so that long names that differ
stay different. -/
def shorten? (name : String) (limit : Nat) : Option String :=
  if name.utf8ByteSize ≤ limit then some name
  else do
    let digits ← firstBytes? (nameDigest name) (min nameDigestLength limit)
    let cut ← boundaryBefore? name.toList (limit - (digits.length + 1))
    let start ← firstBytes? name.toList cut
    let head := dropEnd (· == '-') start
    return String.ofList (if head = [] then digits else head ++ '-' :: digits)

theorem length_nameDigest (name : String) : (nameDigest name).length = 64 := by
  rw [nameDigest, length_hexText, length_sha256]

theorem nameDigest_oneByte (name : String) : ∀ c ∈ nameDigest name, c.utf8Size = 1 := by
  have oneByte : hexAlphabet.all (fun c => c.utf8Size = 1) = true := by decide
  intro c member
  exact of_decide_eq_true (List.all_eq_true.mp oneByte c (mem_hexAlphabet member))

theorem firstBytes?_nameDigest (name : String) (limit : Nat) :
    firstBytes? (nameDigest name) (min nameDigestLength limit) =
      some ((nameDigest name).take (min nameDigestLength limit)) := by
  apply firstBytes?_of_oneByte (nameDigest_oneByte name)
  rw [length_nameDigest]
  exact Nat.le_trans (Nat.min_le_left _ _) (by decide)

theorem shorten?_isSome (name : String) (limit : Nat) : (shorten? name limit).isSome := by
  rw [shorten?]
  split
  · rfl
  · rw [firstBytes?_nameDigest]
    obtain ⟨cut, found, _, boundary⟩ := exists_boundaryBefore name.toList
      (limit - (((nameDigest name).take (min nameDigestLength limit)).length + 1))
    obtain ⟨start, isStart⟩ := Option.isSome_iff_exists.mp boundary
    simp only [Option.bind_eq_bind, Option.bind_some, found, isStart]
    rfl

def shorten (name : String) (limit : Nat) : String :=
  (shorten? name limit).get (shorten?_isSome name limit)

def isNameChar (c : Char) : Bool := c.isAlphanum || c == '-' || c == '_'

structure UniqueSuffix where
  text : String
  present : text ≠ ""
  short : text.utf8ByteSize ≤ maxSuffixLength
  allowed : text.toList.all isNameChar = true
  deriving DecidableEq

namespace UniqueSuffix

def parse (text : String) (present : text ≠ "") : Except CompileError UniqueSuffix :=
  if short : text.utf8ByteSize ≤ maxSuffixLength then
    if allowed : text.toList.all isNameChar = true then .ok ⟨text, present, short, allowed⟩
    else
      .error (.unsupported
        (.suffixCharacter text ((text.toList.find? fun c => !isNameChar c).getD ' ')))
  else .error (.unsupported (.suffixTooLong text))

/-- The supplied suffix, or the fresh one where none or an empty one is supplied. -/
def choose (supplied : Option String) (fresh : UniqueSuffix) : Except CompileError UniqueSuffix :=
  match supplied with
  | none => .ok fresh
  | some text => if present : text ≠ "" then parse text present else .ok fresh

/-- Sixteen random bytes as a UUID of version 4. -/
def ofRandom (bytes : List UInt8) : Option UniqueSuffix :=
  let marked := bytes.mapIdx fun k b =>
    if k = 6 then (b &&& 0x0f) ||| 0x40
    else if k = 8 then (b &&& 0x3f) ||| 0x80
    else b
  let digits (start count : Nat) : List Char := ((hexText marked).drop start).take count
  let groups := [digits 0 8, digits 8 4, digits 12 4, digits 16 4, digits 20 12]
  let text := String.ofList (['-'].intercalate groups)
  if present : text ≠ "" then (parse text present).toOption else none

def outputName : String := "UniqueSuffix"

/-- The suffix that a stack's outputs hold, if it is one that could be supplied. -/
def ofOutputs (outputs : Dict String) : Option UniqueSuffix := do
  let text ← outputs.get? outputName
  if present : text ≠ "" then (parse text present).toOption else none

end UniqueSuffix

structure StackNames where
  app : String
  environment : String
  service : String
  deriving DecidableEq, Repr

namespace StackNames

def stack (names : StackNames) : String :=
  names.app ++ "-" ++ names.environment ++ "-" ++ names.service

def full (names : StackNames) (role : Role) : String := names.stack ++ "-" ++ role.slug

def physical (names : StackNames) (role : Role) (limit : Nat) : String :=
  shorten (names.full role) limit

def unique (names : StackNames) (role : Role) (suffix : UniqueSuffix) (limit : Nat) : String :=
  names.physical role (limit - (suffix.text.utf8ByteSize + 1)) ++ "-" ++ suffix.text

end StackNames

end Stackwright
