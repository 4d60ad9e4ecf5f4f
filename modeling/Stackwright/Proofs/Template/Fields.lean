import Stackwright.Proofs.Entries
import Stackwright.Stack.TaskResources

/-!
Looking into the values of a template.
-/

namespace Stackwright

def Expr.field? (name : String) : Expr → Option Expr
  | .record fields => findEntry name fields
  | _ => none

def Expr.items : Expr → List Expr
  | .list items => items
  | _ => []

def Expr.text? : Expr → Option String
  | .text value => some value
  | _ => none

section

variable {key name : String}

theorem findEntry_memberIf {condition : Bool} {value : Expr} :
    findEntry key (memberIf condition name value) =
      if key = name ∧ condition = true then some value else none := by
  cases condition <;> simp [memberIf, findEntry]

theorem findEntry_toList {α : Type} {given : Option α} {make : α → Expr} :
    findEntry key (given.map fun v => (name, make v)).toList =
      if key = name then given.map make else none := by
  cases given <;> simp [findEntry]

end

end Stackwright
