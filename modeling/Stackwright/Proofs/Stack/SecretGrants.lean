import Mathlib.Data.List.Forall2
import Stackwright.Proofs.Stack.Change
import Stackwright.Proofs.Stack.TargetPort
import Stackwright.Proofs.Template.Substitution

/-!
The policy by which the secrets of a task can be read, against the secrets that its container reads.
-/

namespace Stackwright

/-- The values of names in patterns: of the pseudo parameters that tell where a stack is, and of the
others. -/
structure PatternValues where
  partition : String
  region : String
  account : String
  other? : String → Option String

def parameterPath (source : String) : List Char := source.toList.dropWhile (· == '/')

namespace PatternValues

variable (values : PatternValues)

def value? (name : String) : Option String :=
  if name = "AWS::Partition" then some values.partition
  else if name = "AWS::Region" then some values.region
  else if name = "AWS::AccountId" then some values.account
  else values.other? name

def parameters : String :=
  "arn:" ++ values.partition ++ ":ssm:" ++ values.region ++ ":" ++ values.account ++ ":parameter/"

def secretName (source : String) : String :=
  if source.startsWith "arn:" then source
  else values.parameters ++ String.ofList (parameterPath source)

end PatternValues

def Template.policies (template : Template) (role : Role) (name : String) : List Expr :=
  match template.property? role "Policies" with
  | some policies => policies.items.filter fun policy =>
      (policy.field? "PolicyName").bind Expr.text? = some name
  | none => []

def Expr.isAllow (statement : Expr) : Bool :=
  (statement.field? "Effect").bind Expr.text? = some "Allow"

def allowedResources (policy : Expr) : List Expr :=
  match (policy.field? "PolicyDocument").bind (Expr.field? "Statement") with
  | some statements => (statements.items.filter Expr.isAllow).flatMap fun statement =>
      ((statement.field? "Resource").map Expr.items).getD []
  | none => []

def containerSecrets (container : Expr) : List (Option String × Option String) :=
  match container.field? "Secrets" with
  | some secrets => secrets.items.map fun secret =>
      ((secret.field? "Name").bind Expr.text?, (secret.field? "ValueFrom").bind Expr.text?)
  | none => []

/-- An entry of the policy for secrets, with the text of its secret. -/
structure SecretGrant (entry : Expr) (source : String) : Prop where
  /-- Behind the names of the stack's own parameters, the text is read as a pattern. -/
  comesTo : ∀ values : PatternValues, entry.filled? values.value? =
    if source.startsWith "arn:" then some source
    else (fillFrom? values.value? .outside (parameterPath source)).map fun path =>
      values.parameters ++ String.ofList path
  /-- Nothing is granted where a name in the text has no value. -/
  defined : source.startsWith "arn:" = false → ∀ values : PatternValues,
    ((entry.filled? values.value?).isSome ↔
      ∀ name ∈ namesFrom .outside (parameterPath source), (values.value? name).isSome)
  literal : source.startsWith "arn:" = true ∨ ¬ HoldsPlaceholder source.toList →
    ∀ values : PatternValues, entry.filled? values.value? = some (values.secretName source)
  differs : source.startsWith "arn:" = false → HoldsPlaceholder source.toList →
    ∀ values : PatternValues, PlainValues values.value? →
      entry.filled? values.value? ≠ some (values.secretName source)

section

variable (values : PatternValues) (source : String)

theorem holdsPlaceholder_parameterPath :
    HoldsPlaceholder (parameterPath source) ↔ HoldsPlaceholder source.toList := by
  rw [parameterPath]
  induction source.toList with
  | nil => rfl
  | cons c rest ih =>
      rw [List.dropWhile_cons]
      split
      · rename_i slash
        have isSlash : c = '/' := eq_of_beq slash
        rw [ih]
        constructor
        · exact holdsPlaceholder_append [c]
        · intro held
          refine holdsPlaceholder_of_cons held fun isDollar => ?_
          exact absurd (isSlash.symm.trans isDollar) (by decide)
      · rfl

theorem secretPattern_toList :
    ("arn:$\x7bAWS::Partition\x7d:ssm:$\x7bAWS::Region\x7d:$\x7bAWS::AccountId\x7d:parameter/"
      ++ String.ofList (parameterPath source)).toList =
    "arn:".toList ++ '$' :: '\x7b' :: ("AWS::Partition".toList ++ '\x7d' :: (":ssm:".toList ++
      '$' :: '\x7b' :: ("AWS::Region".toList ++ '\x7d' :: (":".toList ++
      '$' :: '\x7b' :: ("AWS::AccountId".toList ++ '\x7d' :: (":parameter/".toList ++
        parameterPath source)))))) := by
  simp

theorem secretResource_filled (notFull : source.startsWith "arn:" = false) :
    (secretResource source).filled? values.value? =
      (fillFrom? values.value? .outside (parameterPath source)).map fun path =>
        values.parameters ++ String.ofList path := by
  have partition : nameText? values.value? "AWS::Partition".toList =
      some values.partition.toList := rfl
  have region : nameText? values.value? "AWS::Region".toList = some values.region.toList := rfl
  have account : nameText? values.value? "AWS::AccountId".toList =
      some values.account.toList := rfl
  rw [secretResource, notFull]
  simp only [Bool.false_eq_true, if_false, Expr.filled?, patternText?]
  rw [← parameterPath, secretPattern_toList]
  simp (disch := decide) only [fillFrom?_text_append, fillFrom?_name_append, partition, region,
    account, Option.bind_some, Option.map_map, Function.comp_def]
  apply Option.map_congr
  intro path _
  apply String.toList_injective
  simp [PatternValues.parameters]

/-- What is granted for a secret is what its text names, as long as the text is a full name or holds
no placeholder. -/
theorem secretResource_grant : SecretGrant (secretResource source) source := by
  have holds := holdsPlaceholder_parameterPath source
  cases full : source.startsWith "arn:" with
  | true =>
      have itself : ∀ values : PatternValues,
          (secretResource source).filled? values.value? = some source := by
        intro values
        rw [secretResource, full]
        rfl
      constructor
      case comesTo => simpa [full] using itself
      case defined => simp [full]
      case literal => simpa [full, PatternValues.secretName] using itself
      case differs => simp [full]
  | false =>
      have filled := fun values => secretResource_filled values source full
      constructor
      case comesTo => simpa [full] using filled
      case defined =>
        intro _ values
        rw [filled, Option.isSome_map, fillFrom?_isSome_iff]
      case literal =>
        rintro (isFull | literal) values
        · exact absurd (full.symm.trans isFull) Bool.false_ne_true
        · have kept : fillFrom? values.value? .outside (parameterPath source) =
              some (parameterPath source) :=
            fillFrom?_of_literal fun held => literal (holds.mp held)
          rw [filled, kept, PatternValues.secretName, full]
          rfl
      case differs =>
        intro _ held values plain same
        have kept : fillFrom? values.value? .outside (parameterPath source) =
            some (parameterPath source) := by
          rw [filled, PatternValues.secretName, full] at same
          -- the two names begin alike, so what is behind that was put out as it is
          obtain ⟨path, isPath, named⟩ := Option.map_eq_some_iff.mp same
          have characters := congrArg String.toList named
          simp only [Bool.false_eq_true, if_false, String.toList_append, String.toList_ofList,
            List.append_cancel_left_eq] at characters
          rw [isPath, characters]
        exact (fillFrom?_eq_self_iff plain).mp kept (holds.mpr held)

end

section

variable (plan : Plan)

theorem secretsPolicy_allows (secrets : Dict String) :
    allowedResources (secretsPolicy secrets) = secrets.values.map secretResource := by
  simp [allowedResources, secretsPolicy, policy, allow, Expr.field?, findEntry, Expr.items,
    Expr.isAllow, Expr.text?]

theorem executionRole_secrets {template : Template}
    (held : template.resources.get? Role.executionRole.id = some (executionRole plan)) :
    template.policies .executionRole "SecretsAccess" =
      if plan.workload.secrets.isEmpty then [] else [secretsPolicy plan.workload.secrets] := by
  rw [Template.policies, Template.property?, held]
  cases noSecrets : plan.workload.secrets.isEmpty <;>
    simp [executionRole, noSecrets, memberIf, Expr.field?, findEntry, Expr.items, secretsPolicy, policy,
      Expr.text?]

theorem mainContainer_secrets : containerSecrets (mainContainer plan) =
    plan.workload.secrets.entries.map fun secret => (some secret.1, some secret.2) := by
  have secrets : (mainContainer plan).field? "Secrets" =
      if plan.workload.secrets.isEmpty = false then
        some (.list (plan.workload.secrets.entries.map fun secret =>
          .record [("Name", .text secret.1), ("ValueFrom", .text secret.2)]))
      else none := by
    simp [mainContainer, Expr.field?, findEntry_append, findEntry, findEntry_memberIf,
      findEntry_toList]
  rw [containerSecrets, secrets]
  cases noSecrets : plan.workload.secrets.isEmpty with
  | true =>
      rw [Dict.eq_empty noSecrets]
      rfl
  | false => simp [Expr.items, Expr.field?, findEntry, Expr.text?, Function.comp_def]

structure Stack.HandlesSecrets (stack : Stack) (name : String) (secrets : Dict String) : Prop where
  read : ∃ main sidecars, stack.template.containers = main :: sidecars ∧
    containerName? stack.value? main = some name ∧
    containerSecrets main = secrets.entries.map fun secret => (some secret.1, some secret.2)
  noPolicy : secrets.isEmpty = true →
    stack.template.policies .executionRole "SecretsAccess" = []
  granted : secrets.isEmpty = false → ∃ policy,
    stack.template.policies .executionRole "SecretsAccess" = [policy] ∧
      List.Forall₂ SecretGrant (allowedResources policy) secrets.values

end

/-- A stack reads its secrets by their texts, and may read what its policy grants: for every secret,
in the order of the variables, just what the text names if that is a full name or holds no
placeholder. If it holds one, values in which none can be seen make it another name, or none. -/
theorem secrets_granted {workload : Workload} {app environment : String} {settings : Settings}
    {fresh : UniqueSuffix} {stack : Stack}
    (compiled : compile workload app environment settings fresh = .ok stack) :
    stack.HandlesSecrets workload.name workload.secrets := by
  obtain ⟨plan, planned, task⟩ := compile_holdsTask compiled
  have role := task.held .executionRole (executionRole plan) (by simp [taskResources])
  have policies := executionRole_secrets plan role
  rw [← Plan.of_workload planned]
  constructor
  case read =>
    exact ⟨_, _, task.containers, task.mainName, mainContainer_secrets plan⟩
  case noPolicy =>
    intro noSecrets
    rw [policies, noSecrets]
    rfl
  case granted =>
    intro someSecrets
    rw [someSecrets] at policies
    refine ⟨secretsPolicy plan.workload.secrets, policies, ?_⟩
    rw [secretsPolicy_allows, List.forall₂_map_left_iff, List.forall₂_same]
    intro source _
    exact secretResource_grant source

def Workload.withSecret (source : String) : Workload :=
  { runnable "api" .backend with secrets := .ofList [("KEY", source)] }

theorem secrets_granted_path : ∃ stack policy entry,
    compile (.withSecret "/shop/key") "shop" "test" {} ⟨"s1", by decide, by decide, by decide⟩ =
        .ok stack ∧
      stack.template.policies .executionRole "SecretsAccess" = [policy] ∧
      allowedResources policy = [entry] ∧
      ∀ values : PatternValues, entry.filled? values.value? =
        some (values.parameters ++ "shop/key") := by
  obtain ⟨stack, compiled⟩ : ∃ stack, compile (.withSecret "/shop/key") "shop" "test" {}
      ⟨"s1", by decide, by decide, by decide⟩ = .ok stack := ⟨_, rfl⟩
  obtain ⟨policy, carried, granted⟩ := (secrets_granted compiled).granted rfl
  have source : (Workload.withSecret "/shop/key").secrets.values = ["/shop/key"] := rfl
  rw [source] at granted
  obtain ⟨entry, rest, grant, noMore, entries⟩ := List.forall₂_cons_right_iff.mp granted
  rw [List.forall₂_nil_right_iff.mp noMore] at entries
  have literal : ¬ HoldsPlaceholder "/shop/key".toList := by
    intro held
    exact absurd (mem_of_holdsPlaceholder held).1 (by decide)
  have notFull : "/shop/key".startsWith "arn:" = false := by decide +kernel
  have path : String.ofList (parameterPath "/shop/key") = "shop/key" := by decide +kernel
  refine ⟨stack, policy, entry, compiled, carried, entries, ?_⟩
  intro values
  rw [grant.literal (Or.inr literal), PatternValues.secretName, notFull, path]
  rfl

def PatternValues.ofIreland : PatternValues where
  partition := "aws"
  region := "eu-west-1"
  account := "123456789012"
  other? := fun _ => none

/-- The container reads a parameter with a placeholder in its name, and another one is granted. -/
theorem placeholder_grants_another : ∃ stack main sidecars policy entry,
    compile (.withSecret "/app/$\x7bAWS::Region\x7d/key") "shop" "test" {}
        ⟨"s1", by decide, by decide, by decide⟩ = .ok stack ∧
      stack.template.containers = main :: sidecars ∧
      containerSecrets main = [(some "KEY", some "/app/$\x7bAWS::Region\x7d/key")] ∧
      stack.template.policies .executionRole "SecretsAccess" = [policy] ∧
      allowedResources policy = [entry] ∧
      entry.filled? PatternValues.ofIreland.value? =
        some "arn:aws:ssm:eu-west-1:123456789012:parameter/app/eu-west-1/key" ∧
      PatternValues.ofIreland.secretName "/app/$\x7bAWS::Region\x7d/key" =
        "arn:aws:ssm:eu-west-1:123456789012:parameter/app/$\x7bAWS::Region\x7d/key" ∧
      entry.filled? PatternValues.ofIreland.value? ≠
        some (PatternValues.ofIreland.secretName "/app/$\x7bAWS::Region\x7d/key") := by
  obtain ⟨stack, compiled⟩ : ∃ stack,
      compile (.withSecret "/app/$\x7bAWS::Region\x7d/key") "shop" "test" {}
        ⟨"s1", by decide, by decide, by decide⟩ = .ok stack := ⟨_, rfl⟩
  obtain ⟨plan, planned, task⟩ := compile_holdsTask compiled
  have isWorkload := Plan.of_workload planned
  have role := task.held .executionRole (executionRole plan) (by simp [taskResources])
  have containers := task.containers
  have policies := executionRole_secrets plan role
  have read := mainContainer_secrets plan
  have allowed := secretsPolicy_allows plan.workload.secrets
  have notFull : "/app/$\x7bAWS::Region\x7d/key".startsWith "arn:" = false := by decide +kernel
  rw [isWorkload] at policies allowed read
  have granted : (secretResource "/app/$\x7bAWS::Region\x7d/key").filled?
      PatternValues.ofIreland.value? =
        some "arn:aws:ssm:eu-west-1:123456789012:parameter/app/eu-west-1/key" := by
    rw [secretResource_filled _ _ notFull]
    decide +kernel
  have asked : PatternValues.ofIreland.secretName "/app/$\x7bAWS::Region\x7d/key" =
      "arn:aws:ssm:eu-west-1:123456789012:parameter/app/$\x7bAWS::Region\x7d/key" := by
    rw [PatternValues.secretName, notFull]
    decide +kernel
  refine ⟨_, _, _, _, _, compiled, containers, read, policies, allowed, granted, asked, ?_⟩
  rw [granted, asked]
  decide +kernel

end Stackwright
