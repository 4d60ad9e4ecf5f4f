import Stackwright.Proofs.Entries
import Stackwright.Stack.Compile

/-!
Closed templates: once the conditions are decided by the values of the parameters, everything that
is left of a template names only what the template declares or still holds.
-/

namespace Stackwright

def pseudoParameters : List String :=
  ["AWS::AccountId", "AWS::NotificationARNs", "AWS::NoValue", "AWS::Partition", "AWS::Region",
   "AWS::StackId", "AWS::StackName", "AWS::URLSuffix"]

inductive PatternState where
  | outside
  | dollar
  | inside (read : List Char)

/-- The name that was read; behind an exclamation mark it stands for itself. -/
def nameRead (read : List Char) : List String :=
  if read.head? = some '!' then [] else [String.ofList read]

def namesFrom (state : PatternState) : List Char → List String
  | [] => []
  | c :: rest =>
    match state with
    | .outside => if c = '$' then namesFrom .dollar rest else namesFrom .outside rest
    | .dollar =>
      if c = '\x7b' then namesFrom (.inside []) rest
      else if c = '$' then namesFrom .dollar rest
      else namesFrom .outside rest
    | .inside read =>
      if c = '\x7d' then nameRead read ++ namesFrom .outside rest
      else namesFrom (.inside (read ++ [c])) rest

def patternNames (pattern : String) : List String := namesFrom .outside pattern.toList

/-- Where in a template an expression stands, as far as patterns of the user's text go. -/
inductive Zone where
  | ordinary
  | secretsPolicy
  | secretsResource
  deriving DecidableEq

def isSecretsPolicy (fields : List (String × Expr)) : Bool :=
  match findEntry "PolicyName" fields with
  | some (.text name) => name = "SecretsAccess"
  | _ => false

def Zone.inRecord (zone : Zone) (fields : List (String × Expr)) : Zone :=
  if zone = .ordinary ∧ isSecretsPolicy fields then .secretsPolicy else zone

def Zone.atField (zone : Zone) (name : String) : Zone :=
  if zone = .secretsPolicy ∧ name = "Resource" then .secretsResource else zone

inductive Mention where
  | ref (name : String)
  | attribute (resource : String)
  | condition (name : String)
  | named (name : String)
  deriving DecidableEq

mutual
/-- All that an expression names, but for patterns of the user's text. -/
def Expr.mentions (zone : Zone) : Expr → List Mention
  | .null => []
  | .flag _ => []
  | .number _ => []
  | .text _ => []
  | .list items => itemsMentions zone items
  | .record fields => fieldsMentions (zone.inRecord fields) fields
  | .ref name => [.ref name]
  | .getAttribute resource _ => [.attribute resource]
  | .substitute pattern =>
    if zone = .secretsResource then [] else (patternNames pattern).map .named
  | .join _ values => values.mentions zone
  | .split _ source => source.mentions zone
  | .equals left right => left.mentions zone ++ right.mentions zone
  | .negation condition => condition.mentions zone
  | .choose condition yes no => .condition condition :: (yes.mentions zone ++ no.mentions zone)
  | .imported name => name.mentions zone

def itemsMentions (zone : Zone) : List Expr → List Mention
  | [] => []
  | item :: rest => item.mentions zone ++ itemsMentions zone rest

def fieldsMentions (zone : Zone) : List (String × Expr) → List Mention
  | [] => []
  | field :: rest => field.2.mentions (zone.atField field.1) ++ fieldsMentions zone rest
end

mutual
/-- The expression with the values chosen that the conditions decide on. -/
def Expr.resolved (decides : String → Option Bool) : Expr → Expr
  | .null => .null
  | .flag value => .flag value
  | .number value => .number value
  | .text value => .text value
  | .list items => .list (itemsResolved decides items)
  | .record fields => .record (fieldsResolved decides fields)
  | .ref name => .ref name
  | .getAttribute resource name => .getAttribute resource name
  | .substitute pattern => .substitute pattern
  | .join delimiter values => .join delimiter (values.resolved decides)
  | .split delimiter source => .split delimiter (source.resolved decides)
  | .equals left right => .equals (left.resolved decides) (right.resolved decides)
  | .negation condition => .negation (condition.resolved decides)
  | .choose condition yes no =>
    match decides condition with
    | some true => yes.resolved decides
    | some false => no.resolved decides
    | none => .choose condition (yes.resolved decides) (no.resolved decides)
  | .imported name => .imported (name.resolved decides)

def itemsResolved (decides : String → Option Bool) : List Expr → List Expr
  | [] => []
  | item :: rest => item.resolved decides :: itemsResolved decides rest

def fieldsResolved (decides : String → Option Bool) : List (String × Expr) → List (String × Expr)
  | [] => []
  | field :: rest => (field.1, field.2.resolved decides) :: fieldsResolved decides rest
end

/-- The text of the plain value that an expression is under the values of the parameters. -/
def Expr.evaluate? (value? : String → Option String) : Expr → Option String
  | .text value => some value
  | .number value => some (Json.numberText value)
  | .ref name => value? name
  | _ => none

def Expr.holds? (value? : String → Option String) : Expr → Option Bool
  | .equals left right =>
    match left.evaluate? value?, right.evaluate? value? with
    | some a, some b => some (decide (a = b))
    | _, _ => none
  | .negation condition => (condition.holds? value?).map not
  | _ => none

structure Scope where
  declared : String → Prop
  /-- The resource is in the template, and its condition is not false. -/
  survives : String → Prop
  defined : String → Prop
  decides : String → Option Bool

def Scope.Knows (scope : Scope) : Mention → Prop
  | .ref name => scope.declared name ∨ scope.survives name ∨ name ∈ pseudoParameters
  | .attribute resource => scope.survives resource
  | .condition name => scope.defined name
  | .named name => scope.declared name ∨ name ∈ pseudoParameters

def Expr.Closed (scope : Scope) (expr : Expr) : Prop :=
  ∀ mention ∈ (expr.resolved scope.decides).mentions .ordinary, scope.Knows mention

structure Resource.Closed (scope : Scope) (resource : Resource) : Prop where
  condition : ∀ condition, resource.condition = some condition → scope.defined condition
  properties : resource.properties.Closed scope
  metadata : ∀ metadata, resource.metadata = some metadata → metadata.Closed scope
  dependsOn : ∀ id ∈ resource.dependsOn, scope.survives id

structure Output.Closed (scope : Scope) (output : Output) : Prop where
  value : output.value.Closed scope
  exportName : ∀ name, output.exportName = some name → name.Closed scope

namespace Template

variable (template : Template) (value? : String → Option String)

def decides (name : String) : Option Bool :=
  (template.conditions.get? name).bind (Expr.holds? value?)

/-- A resource is dropped if its condition is false. -/
def Survives (id : String) : Prop :=
  ∃ resource, template.resources.get? id = some resource ∧
    ∀ condition, resource.condition = some condition →
      template.decides value? condition ≠ some false

def scope : Scope where
  declared name := (template.parameters.get? name).isSome
  survives := template.Survives value?
  defined name := (template.conditions.get? name).isSome
  decides := template.decides value?

/-- Under these values every condition is decided, and all that survives is closed. -/
structure Closed : Prop where
  decided : ∀ name condition, template.conditions.get? name = some condition →
    (condition.holds? value?).isSome
  conditions : ∀ name condition, template.conditions.get? name = some condition →
    condition.Closed (template.scope value?)
  resources : ∀ id resource, template.resources.get? id = some resource →
    template.Survives value? id → resource.Closed (template.scope value?)
  outputs : ∀ name output, template.outputs.get? name = some output →
    output.Closed (template.scope value?)

end Template

end Stackwright
