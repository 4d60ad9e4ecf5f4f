import Stackwright.Expr

/-!
Templates: the document from which the provider makes a stack.
-/

namespace Stackwright

structure Resource where
  type : String
  condition : Option String := none
  dependsOn : List String := []
  metadata : Option Expr := none
  properties : Expr

structure Output where
  description : Option String := none
  value : Expr
  exportName : Option Expr := none

def Output.exportedAs (output : Output) (name : String) : Output :=
  { output with exportName := some (.substitute ("$\x7bAWS::StackName\x7d-" ++ name)) }

structure Template where
  description : String
  metadata : Dict Expr := .empty
  parameters : Dict Expr := .empty
  conditions : Dict Expr := .empty
  resources : Dict Resource := .empty
  outputs : Dict Output := .empty

def member (name : String) (value : Option Json) : List (String × Json) :=
  match value with
  | some value => [(name, value)]
  | none => []

def Resource.document (resource : Resource) : Json :=
  .object <|
    [("Type", .string resource.type)]
    ++ member "Condition" (resource.condition.map .string)
    ++ member "DependsOn"
      (if resource.dependsOn = [] then none else some (.array (resource.dependsOn.map .string)))
    ++ member "Metadata" (resource.metadata.map Expr.toJson)
    ++ [("Properties", resource.properties.toJson)]

def Output.document (output : Output) : Json :=
  .object <|
    member "Description" (output.description.map .string)
    ++ [("Value", output.value.toJson)]
    ++ member "Export" (output.exportName.map fun name => .object [("Name", name.toJson)])

def section? {α : Type} (write : α → Json) (entries : Dict α) : Option Json :=
  if entries.isEmpty then none else some (.ofDict (entries.map write))

/-- The sections in the order of the template's grammar. -/
def Template.document (template : Template) : Json :=
  .object <|
    [("AWSTemplateFormatVersion", .string "2010-09-09"),
     ("Description", .string template.description)]
    ++ member "Metadata" (section? Expr.toJson template.metadata)
    ++ [("Parameters", .ofDict (template.parameters.map Expr.toJson))]
    ++ member "Conditions" (section? Expr.toJson template.conditions)
    ++ [("Resources", .ofDict (template.resources.map Resource.document))]
    ++ member "Outputs" (section? Output.document template.outputs)

end Stackwright
