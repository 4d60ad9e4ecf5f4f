import Stackwright.Proofs.Codec.Parts
import Stackwright.Proofs.Tree.Nulls

/-!
How codecs read trees with null entries. A null entry that is refused fails the reading; all other
null entries can be left out, and neither the value that is read nor the message of a failure
changes.
-/

namespace Stackwright

variable {α β ρ : Type}

def told (outcome : Except Mismatch α) : Except String α := outcome.mapError Mismatch.message

@[simp] theorem told_ok (value : α) : told (.ok value) = .ok value := rfl

@[simp] theorem told_error (mismatch : Mismatch) :
    told (.error mismatch : Except Mismatch α) = .error mismatch.message := rfl

theorem told_map (f : α → β) (outcome : Except Mismatch α) :
    told (outcome.map f) = (told outcome).map f := by
  cases outcome <;> rfl

theorem toOption_told (outcome : Except Mismatch α) :
    (told outcome).toOption = outcome.toOption := by
  cases outcome <;> rfl

theorem toJson_null_iff {tree : Tree} : tree.toJson = .null ↔ tree = .null := by
  cases tree with
  | null => simp [Tree.toJson]
  | scalar value => cases value <;> simp [Tree.toJson, Scalar.toJson]
  | sequence items => simp [Tree.toJson]
  | map entries => simp [Tree.toJson]

theorem itemsToJson_eq_map (items : List Tree) : itemsToJson items = items.map Tree.toJson := by
  induction items with
  | nil => rfl
  | cons item rest ih => simp [itemsToJson, ih]

theorem entriesToJson_eq_map (entries : List (String × Tree)) :
    entriesToJson entries = entries.map fun e => (e.1, e.2.toJson) := by
  induction entries with
  | nil => rfl
  | cons entry rest ih => simp [entriesToJson, ih]

theorem itemsWithoutNulls_eq_map (items : List Tree) :
    itemsWithoutNulls items = items.map Tree.withoutNulls := by
  induction items with
  | nil => rfl
  | cons item rest ih => simp [itemsWithoutNulls, ih]

theorem findEntry_toJson (key : String) (entries : List (String × Tree)) :
    findEntry key (entriesToJson entries) = (findEntry key entries).map Tree.toJson := by
  rw [entriesToJson_eq_map]
  exact findEntry_map Tree.toJson

theorem described_withoutNulls (tree : Tree) :
    tree.withoutNulls.toJson.described = tree.toJson.described := by
  cases tree <;> simp only [Tree.withoutNulls, Tree.toJson] <;> rfl

/-- What a codec makes of null entries. -/
structure Codec.NullsLawful (codec : Codec α) : Prop where
  null_fails : codec.shape.takesNull = false → ∃ mismatch, codec.read .null = .error mismatch
  refused_fails : ∀ tree, RefusesNull codec.shape tree →
    ∃ mismatch, codec.read tree.toJson = .error mismatch
  /-- Nulls that are not refused can be left out. -/
  idle_alike : ∀ tree, tree.Ordered → NullsIdle codec.shape tree →
    told (codec.read tree.withoutNulls.toJson) = told (codec.read tree.toJson)

theorem message_kind_withoutNulls (tree : Tree) (expected : String) :
    (Mismatch.kind tree.withoutNulls.toJson expected).message =
      (Mismatch.kind tree.toJson expected).message :=
  congrArg (fun found => "invalid type: " ++ found ++ ", expected " ++ expected)
    (described_withoutNulls tree)

theorem not_refusesNull_null (shape : Shape) : ¬ RefusesNull shape .null := by
  rintro ⟨part, partTree, reads, refuses⟩
  generalize isNull : Tree.null = tree at reads
  induction reads with
  | here => subst isNull; cases refuses
  | optional _ ih => exact ih refuses isNull
  | _ => cases isNull

namespace Codec

/-- The reading of scalars: what is found in place of one is told by its kind. -/
structure ReadsScalars (read : Json → Except Mismatch α) (expected : String) : Prop where
  array : ∀ items, read (.array items) = .error (.kind (.array items) expected)
  object : ∀ entries, read (.object entries) = .error (.kind (.object entries) expected)

theorem ReadsScalars.told_withoutNulls {read : Json → Except Mismatch α} {expected : String}
    (scalars : ReadsScalars read expected) (tree : Tree) :
    told (read tree.withoutNulls.toJson) = told (read tree.toJson) := by
  cases tree with
  | null => rw [Tree.withoutNulls]
  | scalar value => rw [Tree.withoutNulls]
  | sequence items =>
      have message := message_kind_withoutNulls (.sequence items) expected
      simp only [Tree.withoutNulls, Tree.toJson, scalars.array] at message ⊢
      exact congrArg Except.error message
  | map entries =>
      have message := message_kind_withoutNulls (.map entries) expected
      simp only [Tree.withoutNulls, Tree.toJson, scalars.object] at message ⊢
      exact congrArg Except.error message

theorem ReadsScalars.nullsLawful {codec : Codec α} {expected : String}
    (scalars : ReadsScalars codec.read expected) (lenient : codec.shape.all Shape.lenient = true)
    (nullFails : ∃ mismatch, codec.read .null = .error mismatch) : codec.NullsLawful where
  null_fails _ := nullFails
  refused_fails tree refused := absurd refused (not_refusesNull_of_lenient lenient tree)
  idle_alike tree _ _ := scalars.told_withoutNulls tree

theorem text_nullsLawful : text.NullsLawful :=
  ReadsScalars.nullsLawful ⟨fun _ => rfl, fun _ => rfl⟩ rfl ⟨_, rfl⟩

theorem boolean_nullsLawful : boolean.NullsLawful :=
  ReadsScalars.nullsLawful ⟨fun _ => rfl, fun _ => rfl⟩ rfl ⟨_, rfl⟩

theorem word16_nullsLawful : word16.NullsLawful :=
  ReadsScalars.nullsLawful ⟨fun _ => rfl, fun _ => rfl⟩ rfl ⟨_, rfl⟩

theorem word32_nullsLawful : word32.NullsLawful :=
  ReadsScalars.nullsLawful ⟨fun _ => rfl, fun _ => rfl⟩ rfl ⟨_, rfl⟩

theorem choice_nullsLawful (first second : String) (value : Bool → α) (isSecond : α → Bool) :
    (choice first second value isSecond).NullsLawful where
  null_fails _ := ⟨_, rfl⟩
  refused_fails tree refused := absurd refused (not_refusesNull_of_lenient rfl tree)
  idle_alike tree _ idle := by
    cases tree with
    | null => simp only [Tree.withoutNulls]
    | scalar value => simp only [Tree.withoutNulls]
    | sequence items => exact congrArg Except.error (message_kind_withoutNulls (.sequence items) _)
    | map entries => exact absurd ⟨_, _, .here⟩ idle.plain

theorem optional_read (item : Codec α) {value : Json} (given : value ≠ .null) :
    item.optional.read value = (item.read value).map some := by
  cases value <;> first | rfl | exact absurd rfl given

theorem optional_nullsLawful {item : Codec α} (lawful : item.NullsLawful) :
    item.optional.NullsLawful where
  null_fails taken := by cases taken
  refused_fails tree refused := by
    obtain ⟨part, partTree, reads, refuses⟩ := refused
    cases reads with
    | here => cases refuses
    | optional below =>
        have refused : RefusesNull item.shape tree := ⟨part, partTree, below, refuses⟩
        have given : tree.toJson ≠ .null := by
          intro isNull
          rw [toJson_null_iff.mp isNull] at refused
          exact not_refusesNull_null _ refused
        obtain ⟨mismatch, fails⟩ := lawful.refused_fails tree refused
        exact ⟨mismatch, by rw [optional_read item given, fails]; rfl⟩
  idle_alike tree ordered idle := by
    have alike := lawful.idle_alike tree ordered idle.optional
    by_cases isNull : tree = .null
    · rw [isNull, Tree.withoutNulls]
    · have given : tree.toJson ≠ .null := fun h => isNull (toJson_null_iff.mp h)
      have stillGiven : tree.withoutNulls.toJson ≠ .null := by
        intro h
        have nullKind := congrArg Tree.kind (toJson_null_iff.mp h)
        rw [kind_withoutNulls] at nullKind
        exact isNull (eq_null_of_kind nullKind)
      rw [optional_read item given, optional_read item stillGiven, told_map, told_map, alike]

theorem told_mapM_cons (read : β → Except Mismatch α) (value : β) (rest : List β) :
    told ((value :: rest).mapM read) =
      (told (read value)).bind fun first => (told (rest.mapM read)).map (first :: ·) := by
  rw [List.mapM_cons]
  cases read value with
  | error mismatch => rfl
  | ok first => cases rest.mapM read <;> rfl

theorem told_mapM_congr {read other : β → Except Mismatch α} {values : List β}
    (alike : ∀ value ∈ values, told (read value) = told (other value)) :
    told (values.mapM read) = told (values.mapM other) := by
  induction values with
  | nil => rfl
  | cons first rest ih =>
      have restAlike := ih fun value member => alike value (List.mem_cons_of_mem _ member)
      rw [told_mapM_cons, told_mapM_cons, alike first List.mem_cons_self, restAlike]

theorem mapM_fails {read : β → Except Mismatch α} {value : β} {values : List β}
    (member : value ∈ values) (fails : ∃ mismatch, read value = .error mismatch) :
    ∃ mismatch, values.mapM read = .error mismatch := by
  induction values with
  | nil => cases member
  | cons first rest ih =>
      rw [List.mapM_cons]
      cases reads : read first with
      | error mismatch => exact ⟨mismatch, rfl⟩
      | ok result =>
          rcases List.mem_cons.mp member with rfl | later
          · obtain ⟨mismatch, fails⟩ := fails
            rw [reads] at fails
            cases fails
          · obtain ⟨mismatch, restFails⟩ := ih later
            exact ⟨mismatch, by rw [restFails]; rfl⟩

theorem list_nullsLawful {item : Codec α} (lawful : item.NullsLawful) :
    item.list.NullsLawful where
  null_fails _ := ⟨_, rfl⟩
  refused_fails tree refused := by
    obtain ⟨part, partTree, reads, refuses⟩ := refused
    cases reads with
    | here => cases refuses
    | item present below =>
        have itemFails := lawful.refused_fails _ ⟨part, partTree, below, refuses⟩
        simp only [Tree.toJson, itemsToJson_eq_map]
        exact mapM_fails (List.mem_map_of_mem present) itemFails
  idle_alike tree ordered idle := by
    cases tree with
    | null => simp only [Tree.withoutNulls]
    | scalar value => simp only [Tree.withoutNulls]
    | map entries => exact congrArg Except.error (message_kind_withoutNulls (.map entries) _)
    | sequence items =>
        show told ((itemsToJson (itemsWithoutNulls items)).mapM item.read) =
          told ((itemsToJson items).mapM item.read)
        simp only [itemsToJson_eq_map, itemsWithoutNulls_eq_map, List.mapM_map]
        apply told_mapM_congr
        intro tree member
        exact lawful.idle_alike tree (itemsOrdered_iff.mp ordered tree member) (idle.item member)

end Codec

end Stackwright
