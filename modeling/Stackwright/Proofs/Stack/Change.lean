import Stackwright.Proofs.Stack.Contents
import Stackwright.Proofs.Template.Fields

/-!
Changes to single properties of a template. How far two templates differ is told by a change that
takes the one to the other.
-/

namespace Stackwright

attribute [ext] Template Stack

def Expr.mapField (name : String) (change : Expr → Expr) : Expr → Expr
  | .record fields =>
    .record (fields.map fun field =>
      if field.1 = name then (field.1, change field.2) else field)
  | other => other

def Expr.mapText (change : String → String) : Expr → Expr
  | .text value => .text (change value)
  | other => other

def Resource.mapProperty (name : String) (change : Expr → Expr) (resource : Resource) : Resource :=
  { resource with properties := resource.properties.mapField name change }

namespace Template

def property? (template : Template) (role : Role) (name : String) : Option Expr :=
  (template.resources.get? role.id).bind fun resource => resource.properties.field? name

/-- The template with one property changed in the resources with some roles, and in no other. -/
def mapProperty (template : Template) (name : String) (roles : List Role)
    (change : Role → Expr → Expr) : Template :=
  { template with
    resources := template.resources.mapEntries fun id resource =>
      match roles.find? fun role => role.id = id with
      | some role => resource.mapProperty name (change role)
      | none => resource }

end Template

theorem Role.eq_of_id {a b : Role} (same : a.id = b.id) : a = b := by
  have distinct : ∀ a ∈ Role.all, ∀ b ∈ Role.all, a.id = b.id → a = b := by decide +kernel
  exact distinct a (Role.mem_all a) b (Role.mem_all b) same

section

variable {roles : List Role} {role : Role}

theorem find?_id (member : role ∈ roles) : roles.find? (fun r => r.id = role.id) = some role := by
  cases found : roles.find? fun r => r.id = role.id with
  | none =>
      rw [List.find?_eq_none] at found
      exact absurd (decide_eq_true rfl) (found role member)
  | some other =>
      have sameId := List.find?_some found
      rw [Role.eq_of_id (of_decide_eq_true sameId)]

theorem find?_id_eq_none (outside : role ∉ roles) :
    roles.find? (fun r => r.id = role.id) = none := by
  rw [List.find?_eq_none]
  intro other member sameId
  have same : other = role := Role.eq_of_id (of_decide_eq_true sameId)
  exact outside (same ▸ member)

variable {name : String} {change : Role → Expr → Expr}

def changed (name : String) (roles : List Role) (change : Role → Expr → Expr)
    (entry : Role × Resource) : Role × Resource :=
  if entry.1 ∈ roles then (entry.1, entry.2.mapProperty name (change entry.1)) else entry

theorem changed_of_mem {resource : Resource} (member : role ∈ roles) :
    changed name roles change (role, resource) =
      (role, resource.mapProperty name (change role)) :=
  if_pos member

theorem changed_of_not_mem {resource : Resource} (outside : role ∉ roles) :
    changed name roles change (role, resource) = (role, resource) :=
  if_neg outside

theorem map_changed_of_not_mem {resources : List (Role × Resource)}
    (outside : ∀ role ∈ resources.map Prod.fst, role ∉ roles) :
    resources.map (changed name roles change) = resources := by
  have each : ∀ entry ∈ resources, changed name roles change entry = id entry := by
    intro entry member
    exact changed_of_not_mem (outside _ (List.mem_map_of_mem member))
  rw [List.map_congr_left each, List.map_id]

variable (name change) in
theorem mapEntries_resourcesById (roles : List Role) (resources : List (Role × Resource)) :
    ((resourcesById resources).mapEntries fun id resource =>
      match roles.find? fun role => role.id = id with
      | some role => resource.mapProperty name (change role)
      | none => resource) = resourcesById (resources.map (changed name roles change)) := by
  rw [resourcesById, resourcesById, Dict.mapEntries_ofList, List.map_map, List.map_map]
  congr 1
  apply List.map_congr_left
  intro entry _
  by_cases member : entry.1 ∈ roles
  · simp only [Function.comp_apply, changed, find?_id member, if_pos member]
  · simp only [Function.comp_apply, changed, find?_id_eq_none member, if_neg member]

variable (name change) in
theorem scalingResources_unchanged (plan : Plan)
    (outside : ∀ role ∈ scalingRoles, role ∉ roles) :
    (scalingResources plan).map (changed name roles change) = scalingResources plan := by
  apply map_changed_of_not_mem
  intro role member
  exact outside role ((scalingResources_roles plan).subset member)

end

end Stackwright
