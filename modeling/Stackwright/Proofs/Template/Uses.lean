import Stackwright.Proofs.Template.Sound

/-!
Where a name is used: in the references and the patterns of an expression, on either side of a
condition.
-/

namespace Stackwright

inductive Expr.Uses (name : String) : Expr → Prop
  | ref : Uses name (.ref name)
  | pattern {pattern : String} (named : name ∈ patternNames pattern) :
    Uses name (.substitute pattern)
  | item {items : List Expr} {item : Expr} (member : item ∈ items)
    (inside : Uses name item) : Uses name (.list items)
  | field {fields : List (String × Expr)} {field : String × Expr} (member : field ∈ fields)
    (inside : Uses name field.2) : Uses name (.record fields)
  | join {delimiter : String} {values : Expr} (inside : Uses name values) :
    Uses name (.join delimiter values)
  | split {delimiter : String} {source : Expr} (inside : Uses name source) :
    Uses name (.split delimiter source)
  | left {left right : Expr} (inside : Uses name left) :
    Uses name (.equals left right)
  | right {left right : Expr} (inside : Uses name right) :
    Uses name (.equals left right)
  | negation {condition : Expr} (inside : Uses name condition) :
    Uses name (.negation condition)
  | yes {condition : String} {yes no : Expr} (inside : Uses name yes) :
    Uses name (.choose condition yes no)
  | no {condition : String} {yes no : Expr} (inside : Uses name no) :
    Uses name (.choose condition yes no)
  | imported {value : Expr} (inside : Uses name value) :
    Uses name (.imported value)

variable {name : String} {expr : Expr}

@[simp] theorem uses_text {value : String} : ¬ (Expr.text value).Uses name := nofun

@[simp] theorem uses_substitute {pattern : String} :
    (Expr.substitute pattern).Uses name ↔ name ∈ patternNames pattern := by
  constructor
  · rintro ⟨⟩
    assumption
  · exact .pattern

@[simp] theorem uses_list {items : List Expr} :
    (Expr.list items).Uses name ↔ ∃ item ∈ items, item.Uses name := by
  constructor
  · rintro ⟨⟩
    rename_i item inside member
    exact ⟨item, member, inside⟩
  · rintro ⟨item, member, inside⟩
    exact .item member inside

@[simp] theorem uses_record {fields : List (String × Expr)} :
    (Expr.record fields).Uses name ↔ ∃ field ∈ fields, field.2.Uses name := by
  constructor
  · rintro ⟨⟩
    rename_i field inside member
    exact ⟨field, member, inside⟩
  · rintro ⟨field, member, inside⟩
    exact .field member inside

/-- What an expression uses can be referred to, if the expression is sound however the conditions
turn out. -/
theorem Expr.Uses.knows {scope : Scope} (undecided : ∀ condition, scope.decides condition = none)
    (uses : expr.Uses name) (sound : expr.Sound scope) : scope.Knows (.ref name) := by
  -- on the way to the name: each step leads into a part that is sound as well
  induction uses with
  | ref => exact sound
  | pattern named =>
      rcases sound _ named with declared | pseudo
      · exact .inl declared
      · exact .inr (.inr pseudo)
  | item member _ ih => exact ih (itemsSound_iff.mp sound _ member)
  | field member _ ih => exact ih (fieldsSound_iff.mp sound _ member)
  | join _ ih => exact ih sound
  | split _ ih => exact ih sound
  | left _ ih => exact ih sound.1
  | right _ ih => exact ih sound.2
  | negation _ ih => exact ih sound
  -- a choice is sound only where its condition is decided
  | yes | no =>
      rcases sound with ⟨decided, _⟩ | ⟨decided, _⟩
      · cases (undecided _).symm.trans decided
      · cases (undecided _).symm.trans decided
  | imported _ ih => exact ih sound

/-- The scope in which all can be named but one parameter, and no condition is decided. -/
def Scope.allBut (name : String) : Scope where
  declared other := other ≠ name
  survives other := other ≠ name
  defined _ := True
  decides _ := none

theorem not_uses_of_sound (notPseudo : name ∉ pseudoParameters)
    (sound : expr.Sound (.allBut name)) : ¬ expr.Uses name := by
  intro uses
  rcases uses.knows (fun _ => rfl) sound with declared | survives | pseudo
  · exact declared rfl
  · exact survives rfl
  · exact notPseudo pseudo

end Stackwright
