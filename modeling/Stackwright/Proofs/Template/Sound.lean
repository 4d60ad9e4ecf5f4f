import Stackwright.Proofs.Template.Closed

/-!
Sound expressions: those that can be seen to be closed part by part, wherever they stand.
-/

namespace Stackwright

variable {scope : Scope}

mutual
/-- Every part names only what can be named, on the side that the conditions choose. -/
def Expr.Sound (scope : Scope) : Expr → Prop
  | .null => True
  | .flag _ => True
  | .number _ => True
  | .text _ => True
  | .list items => ItemsSound scope items
  | .record fields => FieldsSound scope fields
  | .ref name => scope.Knows (.ref name)
  | .getAttribute resource _ => scope.Knows (.attribute resource)
  | .substitute pattern => ∀ name ∈ patternNames pattern, scope.Knows (.named name)
  | .join _ values => values.Sound scope
  | .split _ source => source.Sound scope
  | .equals left right => left.Sound scope ∧ right.Sound scope
  | .negation condition => condition.Sound scope
  | .choose condition yes no =>
    scope.decides condition = some true ∧ yes.Sound scope ∨
      scope.decides condition = some false ∧ no.Sound scope
  | .imported name => name.Sound scope

def ItemsSound (scope : Scope) : List Expr → Prop
  | [] => True
  | item :: rest => item.Sound scope ∧ ItemsSound scope rest

def FieldsSound (scope : Scope) : List (String × Expr) → Prop
  | [] => True
  | field :: rest => field.2.Sound scope ∧ FieldsSound scope rest
end

section

variable {items more : List Expr} {fields others : List (String × Expr)}

theorem itemsSound_iff : ItemsSound scope items ↔ ∀ item ∈ items, item.Sound scope := by
  induction items with
  | nil => simp [ItemsSound]
  | cons item rest ih => simp [ItemsSound, ih]

@[simp] theorem itemsSound_nil : ItemsSound scope [] := trivial

@[simp] theorem itemsSound_cons {item : Expr} :
    ItemsSound scope (item :: items) ↔ item.Sound scope ∧ ItemsSound scope items := Iff.rfl

theorem itemsSound_map {α : Type} {make : α → Expr} {values : List α}
    (sound : ∀ value ∈ values, (make value).Sound scope) : ItemsSound scope (values.map make) := by
  rw [itemsSound_iff]
  intro item member
  obtain ⟨value, present, rfl⟩ := List.mem_map.mp member
  exact sound value present

theorem fieldsSound_iff : FieldsSound scope fields ↔ ∀ field ∈ fields, field.2.Sound scope := by
  induction fields with
  | nil => simp [FieldsSound]
  | cons field rest ih => simp [FieldsSound, ih]

@[simp] theorem fieldsSound_nil : FieldsSound scope [] := trivial

@[simp] theorem fieldsSound_cons {field : String × Expr} :
    FieldsSound scope (field :: fields) ↔ field.2.Sound scope ∧ FieldsSound scope fields := Iff.rfl

@[simp] theorem fieldsSound_append :
    FieldsSound scope (fields ++ others) ↔ FieldsSound scope fields ∧ FieldsSound scope others := by
  induction fields with
  | nil => simp
  | cons field rest ih => simp [ih, and_assoc]

@[simp] theorem fieldsSound_memberIf {condition : Bool} {name : String} {value : Expr} :
    FieldsSound scope (memberIf condition name value) ↔ (condition = true → value.Sound scope) := by
  cases condition <;> simp [memberIf]

@[simp] theorem fieldsSound_toList {α : Type} {value : Option α} {name : String} {make : α → Expr} :
    FieldsSound scope (value.map fun v => (name, make v)).toList ↔
      ∀ v, value = some v → (make v).Sound scope := by
  cases value <;> simp

@[simp] theorem sound_list : (Expr.list items).Sound scope ↔ ItemsSound scope items := Iff.rfl

@[simp] theorem sound_record : (Expr.record fields).Sound scope ↔ FieldsSound scope fields :=
  Iff.rfl

end

section

variable (value : String) (left right : Expr)

@[simp] theorem sound_null : Expr.null.Sound scope := trivial

@[simp] theorem sound_flag (flag : Bool) : (Expr.flag flag).Sound scope := trivial

@[simp] theorem sound_number (number : Number) : (Expr.number number).Sound scope := trivial

@[simp] theorem sound_natural (n : UInt64) : (Expr.natural n).Sound scope := trivial

@[simp] theorem sound_text : (Expr.text value).Sound scope := trivial

@[simp] theorem sound_ref : (Expr.ref value).Sound scope ↔ scope.Knows (.ref value) := Iff.rfl

@[simp] theorem sound_getAttribute (resource : String) :
    (Expr.getAttribute resource value).Sound scope ↔ scope.Knows (.attribute resource) := Iff.rfl

@[simp] theorem sound_join : (Expr.join value left).Sound scope ↔ left.Sound scope := Iff.rfl

@[simp] theorem sound_split : (Expr.split value left).Sound scope ↔ left.Sound scope := Iff.rfl

@[simp] theorem sound_equals :
    (Expr.equals left right).Sound scope ↔ left.Sound scope ∧ right.Sound scope := Iff.rfl

@[simp] theorem sound_negation : (Expr.negation left).Sound scope ↔ left.Sound scope := Iff.rfl

@[simp] theorem sound_imported : (Expr.imported left).Sound scope ↔ left.Sound scope := Iff.rfl

@[simp] theorem sound_texts (values : List String) : (Expr.texts values).Sound scope :=
  itemsSound_map fun _ _ => trivial

end

theorem patternNames_ofList (cs : List Char) :
    patternNames (String.ofList cs) = namesFrom .outside cs := by
  rw [patternNames, String.toList_ofList]

/-- A text with none of the characters that names in patterns are told by. -/
def IsPlain (text : String) : Prop := ∀ c ∈ text.toList, c ≠ '$' ∧ c ≠ '\x7b' ∧ c ≠ '\x7d'

theorem isPlain_ofList {cs : List Char}
    (plain : cs.all (fun c => c ≠ '$' ∧ c ≠ '\x7b' ∧ c ≠ '\x7d') = true) :
    IsPlain (String.ofList cs) := by
  rw [IsPlain, String.toList_ofList]
  simpa using plain

theorem namesFrom_plain (state : PatternState) {cs : List Char}
    (plain : ∀ c ∈ cs, c ≠ '$' ∧ c ≠ '\x7b' ∧ c ≠ '\x7d') : namesFrom state cs = [] := by
  induction cs generalizing state with
  | nil => rfl
  | cons c rest ih =>
      obtain ⟨notDollar, notOpening, notClosing⟩ := plain c List.mem_cons_self
      have restPlain := fun state => ih state fun d member =>
        plain d (List.mem_cons_of_mem _ member)
      cases state <;> simp only [namesFrom, notDollar, notOpening, notClosing, if_false, restPlain]

theorem namesFrom_append_plain (state : PatternState) (cs : List Char) {text : List Char}
    (plain : ∀ c ∈ text, c ≠ '$' ∧ c ≠ '\x7b' ∧ c ≠ '\x7d') :
    namesFrom state (cs ++ text) = namesFrom state cs := by
  induction cs generalizing state with
  | nil => exact namesFrom_plain state plain
  | cons c rest ih => cases state <;> simp only [List.cons_append, namesFrom, ih]

theorem patternNames_append (pattern : String) {text : String} (plain : IsPlain text) :
    patternNames (pattern ++ text) = patternNames pattern := by
  rw [patternNames, String.toList_append, namesFrom_append_plain _ _ plain]
  rfl

theorem sound_choose {condition : String} {yes no : Expr} {decision : Bool}
    (decided : scope.decides condition = some decision)
    (sound : if decision then yes.Sound scope else no.Sound scope) :
    (Expr.choose condition yes no).Sound scope := by
  cases decision with
  | true => exact Or.inl ⟨decided, sound⟩
  | false => exact Or.inr ⟨decided, sound⟩

mutual
/-- What a sound expression names can be named, in every zone. -/
theorem knows_of_sound {expr : Expr} (zone : Zone) (sound : expr.Sound scope) :
    ∀ mention ∈ (expr.resolved scope.decides).mentions zone, scope.Knows mention := by
  intro mention member
  cases expr with
  | null => cases member
  | flag _ => cases member
  | number _ => cases member
  | text _ => cases member
  | list items => exact knows_of_itemsSound zone sound mention member
  | record fields => exact knows_of_fieldsSound _ sound mention member
  | ref name =>
      cases List.mem_singleton.mp member
      exact sound
  | getAttribute resource name =>
      cases List.mem_singleton.mp member
      exact sound
  | substitute pattern =>
      simp only [Expr.resolved, Expr.mentions] at member
      split at member
      · cases member
      · obtain ⟨name, named, rfl⟩ := List.mem_map.mp member
        exact sound name named
  | join delimiter values =>
      exact knows_of_sound zone (show values.Sound scope from sound) mention member
  | split delimiter source =>
      exact knows_of_sound zone (show source.Sound scope from sound) mention member
  | equals left right =>
      rcases List.mem_append.mp member with inLeft | inRight
      · exact knows_of_sound zone sound.1 mention inLeft
      · exact knows_of_sound zone sound.2 mention inRight
  | negation condition =>
      exact knows_of_sound zone (show condition.Sound scope from sound) mention member
  -- only the side that is chosen is left once the choice is resolved
  | choose condition yes no =>
      rcases sound with ⟨decided, sound⟩ | ⟨decided, sound⟩
      · simp only [Expr.resolved, decided] at member
        exact knows_of_sound zone sound mention member
      · simp only [Expr.resolved, decided] at member
        exact knows_of_sound zone sound mention member
  | imported name => exact knows_of_sound zone (show name.Sound scope from sound) mention member

theorem knows_of_itemsSound {items : List Expr} (zone : Zone) (sound : ItemsSound scope items) :
    ∀ mention ∈ itemsMentions zone (itemsResolved scope.decides items), scope.Knows mention := by
  intro mention member
  cases items with
  | nil => cases member
  | cons item rest =>
      rcases List.mem_append.mp member with inItem | inRest
      · exact knows_of_sound zone sound.1 mention inItem
      · exact knows_of_itemsSound zone sound.2 mention inRest

theorem knows_of_fieldsSound {fields : List (String × Expr)} (zone : Zone)
    (sound : FieldsSound scope fields) :
    ∀ mention ∈ fieldsMentions zone (fieldsResolved scope.decides fields),
      scope.Knows mention := by
  intro mention member
  cases fields with
  | nil => cases member
  | cons field rest =>
      rcases List.mem_append.mp member with inField | inRest
      · exact knows_of_sound _ sound.1 mention inField
      · exact knows_of_fieldsSound zone sound.2 mention inRest
end

theorem Expr.Sound.closed {expr : Expr} (sound : expr.Sound scope) : expr.Closed scope :=
  knows_of_sound .ordinary sound

end Stackwright
