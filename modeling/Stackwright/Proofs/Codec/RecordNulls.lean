import Stackwright.Proofs.Codec.Nulls
import Stackwright.Proofs.Outcome

/-!
How tables and records read null entries. A record field that takes null reads it as it reads an
absent entry; an absent entry of any other field is another matter than a null one.
-/

namespace Stackwright

variable {α β ρ : Type}

namespace Codec

theorem readEntries_eq_mapM (read : Json → Except Mismatch α) (entries : List (String × Json)) :
    readEntries read entries = entries.mapM fun e => (read e.2).map (e.1, ·) := by
  induction entries with
  | nil => rfl
  | cons entry rest ih =>
      rw [readEntries, List.mapM_cons, ← ih]
      cases read entry.2 <;> rfl

theorem readEntries_fails {read : Json → Except Mismatch α} {entry : String × Json}
    {entries : List (String × Json)} (member : entry ∈ entries)
    (fails : ∃ mismatch, read entry.2 = .error mismatch) :
    ∃ mismatch, readEntries read entries = .error mismatch := by
  obtain ⟨mismatch, fails⟩ := fails
  rw [readEntries_eq_mapM]
  exact mapM_fails member ⟨mismatch, by rw [fails]; rfl⟩

theorem entriesWithoutNulls_of_given {entries : List (String × Tree)}
    (given : ∀ e ∈ entries, e.2.kind ≠ .null) :
    entriesWithoutNulls entries = entries.map fun e => (e.1, e.2.withoutNulls) := by
  induction entries with
  | nil => rfl
  | cons entry rest ih =>
      have restGiven := ih fun e member => given e (List.mem_cons_of_mem _ member)
      rw [entriesWithoutNulls, if_neg (given entry List.mem_cons_self), restGiven, List.map_cons]

theorem told_readEntries_withoutNulls {item : Codec α} {entries : List (String × Tree)}
    (given : ∀ e ∈ entries, e.2.kind ≠ .null)
    (alike : ∀ e ∈ entries,
      told (item.read e.2.withoutNulls.toJson) = told (item.read e.2.toJson)) :
    told (readEntries item.read (entriesToJson (entriesWithoutNulls entries))) =
      told (readEntries item.read (entriesToJson entries)) := by
  rw [entriesWithoutNulls_of_given given]
  simp only [readEntries_eq_mapM, entriesToJson_eq_map, List.mapM_map]
  apply told_mapM_congr
  intro e member
  simp only [Function.comp_apply, told_map, alike e member]

theorem table_nullsLawful {item : Codec α} (lawful : item.NullsLawful)
    (refuses : item.shape.takesNull = false) : item.table.NullsLawful where
  null_fails _ := ⟨_, rfl⟩
  refused_fails tree refused := by
    obtain ⟨part, partTree, reads, refusesPart⟩ := refused
    have rowFails : ∀ {entries key value}, (key, value) ∈ entries →
        (∃ mismatch, item.read value.toJson = .error mismatch) →
        ∃ mismatch, item.table.read (Tree.map entries).toJson = .error mismatch := by
      intro entries key value present fails
      have member : (key, value.toJson) ∈ entriesToJson entries := by
        rw [entriesToJson_eq_map]
        exact List.mem_map_of_mem present
      obtain ⟨mismatch, entriesFail⟩ := readEntries_fails member fails
      refine ⟨mismatch, ?_⟩
      show (readEntries item.read (entriesToJson entries)).map Dict.ofList = _
      rw [entriesFail]
      rfl
    cases reads with
    | here => cases refusesPart with
      | row _ present => exact rowFails present (lawful.null_fails refuses)
    | row present below =>
        exact rowFails present (lawful.refused_fails _ ⟨part, partTree, below, refusesPart⟩)
  idle_alike tree ordered idle := by
    cases tree with
    | null => simp only [Tree.withoutNulls]
    | scalar value => simp only [Tree.withoutNulls]
    | sequence items => exact congrArg Except.error (message_kind_withoutNulls (.sequence items) _)
    | map entries =>
        have given : ∀ e ∈ entries, e.2.kind ≠ .null := by
          intro e member isNull
          have present : (e.1, Tree.null) ∈ entries := eq_null_of_kind isNull ▸ member
          exact idle.taken ⟨_, _, .here, .row refuses present⟩
        have alike : ∀ e ∈ entries, told (item.read e.2.withoutNulls.toJson) =
            told (item.read e.2.toJson) := by
          intro e member
          have present : (e.1, e.2) ∈ entries := member
          exact lawful.idle_alike e.2 (entriesOrdered_iff.mp ordered.2 e member)
            (idle.row present)
        show told ((readEntries item.read (entriesToJson (entriesWithoutNulls entries))).map
          Dict.ofList) = told ((readEntries item.read (entriesToJson entries)).map Dict.ofList)
        rw [told_map, told_map, told_readEntries_withoutNulls given alike]

end Codec

/-- A fault as far as messages tell it. -/
def Fault.told : Fault → Place × Option String
  | .illTyped place mismatch => (place, some mismatch.message)
  | .absent index => (.position index, none)

def toldFault (outcome : Except Fault α) : Except (Place × Option String) α :=
  outcome.mapError Fault.told

theorem both_fails_left {f : Except Fault (α → β)} (x : Except Fault α)
    (fails : ∃ fault, f = .error fault) : ∃ fault, both f x = .error fault := by
  obtain ⟨fault, rfl⟩ := fails
  cases x <;> exact ⟨_, rfl⟩

theorem both_fails_right (f : Except Fault (α → β)) {x : Except Fault α}
    (fails : ∃ fault, x = .error fault) : ∃ fault, both f x = .error fault := by
  obtain ⟨fault, rfl⟩ := fails
  cases f <;> exact ⟨_, rfl⟩

theorem both_eq_ok {f : Except Fault (α → β)} {x : Except Fault α} {result : β} :
    both f x = .ok result ↔ ∃ g a, f = .ok g ∧ x = .ok a ∧ g a = result := by
  cases f <;> cases x <;> simp [both]

@[simp] theorem toldFault_ok (value : α) : toldFault (.ok value) = .ok value := rfl

@[simp] theorem toldFault_error (fault : Fault) :
    toldFault (.error fault : Except Fault α) = .error fault.told := rfl

theorem told_place {a b : Fault} (alike : a.told = b.told) : a.place = b.place := by
  cases a <;> cases b <;> simp_all [Fault.told, Fault.place]

theorem toldFault_both {f g : Except Fault (α → β)} {x y : Except Fault α}
    (first : toldFault f = toldFault g) (second : toldFault x = toldFault y) :
    toldFault (both f x) = toldFault (both g y) := by
  cases f <;> cases g <;> simp only [toldFault_ok, toldFault_error, reduceCtorEq] at first <;>
    cases x <;> cases y <;> simp only [toldFault_ok, toldFault_error, reduceCtorEq] at second
  · rename_i faultF faultG faultX faultY
    have toldFirst := Except.error.inj first
    have toldSecond := Except.error.inj second
    simp only [both, toldFault_error, told_place toldFirst, told_place toldSecond]
    split
    · rw [toldFirst]
    · rw [toldSecond]
  · simpa [both] using first
  · simpa [both] using second
  · cases first
    cases second
    rfl

/-- What the fields of a record make of null entries. -/
structure Fields.NullsLawful (fields : Fields ρ α) : Prop where
  refused_fails : ∀ {entries name shape tree}, (name, shape) ∈ fields.shapes →
    findEntry name entries = some tree →
    (tree = .null ∧ shape.takesNull = false) ∨ RefusesNull shape tree →
    ∃ fault, fields.read (.entries (entriesToJson entries)) = .error fault
  refused_position_fails : ∀ {items : List Tree} {index : Nat} {name shape tree},
    fields.shapes[index]? = some (name, shape) → items[index]? = some tree →
    RefusesNull shape tree → ∃ fault, fields.read (.items (itemsToJson items)) = .error fault
  idle_alike : ∀ {entries}, KeysIncrease entries → EntriesOrdered entries →
    (∀ {name shape tree}, (name, shape) ∈ fields.shapes → findEntry name entries = some tree →
      (tree = .null → shape.takesNull = true) ∧ NullsIdle shape tree) →
    toldFault (fields.read (.entries (entriesToJson (entriesWithoutNulls entries)))) =
      toldFault (fields.read (.entries (entriesToJson entries)))
  idle_position_alike : ∀ {items : List Tree}, ItemsOrdered items →
    (∀ {index : Nat} {name shape tree}, fields.shapes[index]? = some (name, shape) →
      items[index]? = some tree → NullsIdle shape tree) →
    toldFault (fields.read (.items (itemsToJson (itemsWithoutNulls items)))) =
      toldFault (fields.read (.items (itemsToJson items)))

namespace Codec

theorem toldFault_mapError {outcome other : Except Mismatch α} (place : Place)
    (alike : told outcome = told other) :
    toldFault (outcome.mapError (Fault.illTyped place)) =
      toldFault (other.mapError (Fault.illTyped place)) := by
  cases outcome <;> cases other <;> simp_all [told, toldFault, Fault.told]

theorem readAt_fails {codec : Codec α} {name : String} {entries : List (String × Tree)}
    {tree : Tree} (index : Nat) (absent : Option α) (found : findEntry name entries = some tree)
    (fails : ∃ mismatch, codec.read tree.toJson = .error mismatch) :
    ∃ fault, codec.readAt name index absent (.entries (entriesToJson entries)) = .error fault := by
  obtain ⟨mismatch, fails⟩ := fails
  simp [readAt, findEntry_toJson, found, fails]

theorem readAt_position_fails {codec : Codec α} {items : List Tree} {tree : Tree} {index : Nat}
    (name : String) (absent : Option α) (found : items[index]? = some tree)
    (fails : ∃ mismatch, codec.read tree.toJson = .error mismatch) :
    ∃ fault, codec.readAt name index absent (.items (itemsToJson items)) = .error fault := by
  obtain ⟨mismatch, fails⟩ := fails
  simp [readAt, itemsToJson_eq_map, found, fails]

/-- A null entry is read as an absent one where null is taken. -/
def NullAsAbsent (codec : Codec α) (absent : Option α) : Prop :=
  codec.shape.takesNull = true → ∃ value, absent = some value ∧ codec.read .null = .ok value

theorem toldFault_readAt {codec : Codec α} (lawful : codec.NullsLawful) {absent : Option α}
    (nullAbsent : codec.NullAsAbsent absent) (name : String) (index : Nat)
    {entries : List (String × Tree)} (increasing : KeysIncrease entries)
    (ordered : EntriesOrdered entries)
    (idle : ∀ {tree}, findEntry name entries = some tree →
      (tree = .null → codec.shape.takesNull = true) ∧ NullsIdle codec.shape tree) :
    toldFault (codec.readAt name index absent
        (.entries (entriesToJson (entriesWithoutNulls entries)))) =
      toldFault (codec.readAt name index absent (.entries (entriesToJson entries))) := by
  simp only [readAt, findEntry_toJson, findEntry_withoutNulls name increasing]
  cases found : findEntry name entries with
  | none => rfl
  | some tree =>
      obtain ⟨taken, idleTree⟩ := idle found
      by_cases isNull : tree.kind = .null
      · obtain ⟨value, rfl, reads⟩ := nullAbsent (taken (eq_null_of_kind isNull))
        rw [eq_null_of_kind isNull]
        simp [leftAt, Tree.kind, Tree.toJson, reads]
      · have alike := lawful.idle_alike tree (ordered_of_findEntry ordered found) idleTree
        simpa [leftAt, isNull] using toldFault_mapError (.entry name) alike

theorem toldFault_readAt_position {codec : Codec α} (lawful : codec.NullsLawful)
    (absent : Option α) (name : String) (index : Nat) {items : List Tree}
    (ordered : ItemsOrdered items)
    (idle : ∀ {tree}, items[index]? = some tree → NullsIdle codec.shape tree) :
    toldFault (codec.readAt name index absent (.items (itemsToJson (itemsWithoutNulls items)))) =
      toldFault (codec.readAt name index absent (.items (itemsToJson items))) := by
  simp only [readAt, itemsToJson_eq_map, itemsWithoutNulls_eq_map, List.getElem?_map]
  cases found : items[index]? with
  | none => rfl
  | some tree =>
      have treeOrdered := itemsOrdered_iff.mp ordered tree (List.mem_of_getElem? found)
      exact toldFault_mapError (.position index) (lawful.idle_alike tree treeOrdered (idle found))

end Codec

namespace Fields

theorem NullsLawful.start (make : α) : (Fields.start make : Fields ρ α).NullsLawful where
  refused_fails declared := by cases declared
  refused_position_fails declared := by cases declared
  idle_alike _ _ _ := rfl
  idle_position_alike _ _ := rfl

theorem add_shape_cases {fields : Fields ρ (β → α)} {name : String} {get : ρ → β} {codec : Codec β}
    {absent : Option β} {skipped : β → Bool} {index : Nat} {declared : String × Shape}
    (there : (fields.add name get codec absent skipped).shapes[index]? = some declared) :
    fields.shapes[index]? = some declared ∨
      index = fields.shapes.length ∧ declared = (name, codec.shape) := by
  rw [Fields.add, List.getElem?_append] at there
  split at there
  · exact Or.inl there
  · rename_i beyond
    have bound := (List.getElem?_eq_some_iff.mp there).1
    have first : index - fields.shapes.length = 0 := by simpa using bound
    rw [first] at there
    exact Or.inr ⟨by omega, (Option.some.inj there).symm⟩

theorem NullsLawful.add {fields : Fields ρ (β → α)} (lawful : fields.NullsLawful) (name : String)
    (get : ρ → β) {codec : Codec β} (codecLawful : codec.NullsLawful) {absent : Option β}
    (nullAbsent : codec.NullAsAbsent absent) (skipped : β → Bool) :
    (fields.add name get codec absent skipped).NullsLawful where
  refused_fails := by
    intro entries key shape tree declared found refused
    rcases List.mem_append.mp declared with earlier | last
    · exact both_fails_left _ (lawful.refused_fails earlier found refused)
    · cases List.mem_singleton.mp last
      have fails : ∃ mismatch, codec.read tree.toJson = .error mismatch := by
        rcases refused with ⟨rfl, refuses⟩ | refused
        · exact codecLawful.null_fails refuses
        · exact codecLawful.refused_fails _ refused
      exact both_fails_right _ (Codec.readAt_fails _ absent found fails)
  refused_position_fails := by
    intro items index key shape tree declared found refused
    rcases add_shape_cases declared with earlier | ⟨rfl, last⟩
    · exact both_fails_left _ (lawful.refused_position_fails earlier found refused)
    · cases last
      have fails := codecLawful.refused_fails _ refused
      exact both_fails_right _ (Codec.readAt_position_fails _ absent found fails)
  -- of two faults the earlier one is told, so it is enough that each part is read alike
  idle_alike := by
    intro entries increasing ordered idle
    apply toldFault_both
    · exact lawful.idle_alike increasing ordered fun declared =>
        idle (List.mem_append_left _ declared)
    · exact Codec.toldFault_readAt codecLawful nullAbsent name _ increasing ordered
        (idle (List.mem_append_right _ (List.mem_singleton_self _)))
  idle_position_alike := by
    intro items ordered idle
    apply toldFault_both
    · apply lawful.idle_position_alike ordered
      intro index key shape tree declared
      have bound := (List.getElem?_eq_some_iff.mp declared).1
      exact idle (by rw [Fields.add, List.getElem?_append_left bound]; exact declared)
    · apply Codec.toldFault_readAt_position codecLawful absent name _ ordered
      intro tree
      have declared : (fields.add name get codec absent skipped).shapes[fields.shapes.length]? =
          some (name, codec.shape) := by
        rw [Fields.add, List.getElem?_append_right (Nat.le_refl _)]
        simp
      exact idle declared

theorem NullsLawful.required {fields : Fields ρ (β → α)} (lawful : fields.NullsLawful)
    (name : String) (get : ρ → β) {codec : Codec β} (codecLawful : codec.NullsLawful)
    (refuses : codec.shape.takesNull = false) : (fields.required name get codec).NullsLawful :=
  lawful.add name get codecLawful (fun takes => by simp [refuses] at takes) _

theorem NullsLawful.defaulted {fields : Fields ρ (β → α)} (lawful : fields.NullsLawful)
    (name : String) (get : ρ → β) {codec : Codec β} (codecLawful : codec.NullsLawful)
    (refuses : codec.shape.takesNull = false) (default : β) :
    (fields.defaulted name get codec default).NullsLawful :=
  lawful.add name get codecLawful (fun takes => by simp [refuses] at takes) _

theorem NullsLawful.optional {fields : Fields ρ (Option β → α)} (lawful : fields.NullsLawful)
    (name : String) (get : ρ → Option β) {codec : Codec β} (codecLawful : codec.NullsLawful) :
    (fields.optional name get codec).NullsLawful :=
  lawful.add name get (Codec.optional_nullsLawful codecLawful)
    (fun _ => ⟨none, rfl, rfl⟩) _

theorem NullsLawful.listed {fields : Fields ρ (List β → α)} (lawful : fields.NullsLawful)
    (name : String) (get : ρ → List β) {codec : Codec β} (codecLawful : codec.NullsLawful) :
    (fields.listed name get codec).NullsLawful :=
  lawful.add name get (Codec.list_nullsLawful codecLawful)
    (fun takes => by cases takes) _

theorem NullsLawful.tabled {fields : Fields ρ (Dict β → α)} (lawful : fields.NullsLawful)
    (name : String) (get : ρ → Dict β) {codec : Codec β} (codecLawful : codec.NullsLawful)
    (refuses : codec.shape.takesNull = false) : (fields.tabled name get codec).NullsLawful :=
  lawful.add name get (Codec.table_nullsLawful codecLawful refuses)
    (fun takes => by cases takes) _

def ofEntriesOutcome (fields : Fields α α) : Except Fault α → Except Mismatch α
  | .ok record => .ok record
  | .error (.illTyped _ mismatch) => .error mismatch
  | .error (.absent index) => .error (.missingField ((fields.shapes.map Prod.fst).getD index ""))

def ofItemsOutcome (fields : Fields α α) (name : String) (count : Nat) :
    Except Fault α → Except Mismatch α
  | .ok record =>
    if count ≤ fields.shapes.length then .ok record
    else .error (.length count "fewer elements in array")
  | .error (.illTyped _ mismatch) => .error mismatch
  | .error (.absent index) => .error (.length index (fields.expected name))

theorem readRecord_object (fields : Fields α α) (name : String) (entries : List (String × Json)) :
    fields.readRecord name (.object entries) =
      fields.ofEntriesOutcome (fields.read (.entries entries)) := by
  rw [readRecord]
  rcases fields.read (.entries entries) with fault | record
  · cases fault <;> rfl
  · rfl

theorem readRecord_array (fields : Fields α α) (name : String) (items : List Json) :
    fields.readRecord name (.array items) =
      fields.ofItemsOutcome name items.length (fields.read (.items items)) := by
  rw [readRecord]
  rcases fields.read (.items items) with fault | record
  · cases fault <;> rfl
  · rfl

theorem ofEntriesOutcome_map {fields other : Fields α α} (sameShapes : fields.shapes = other.shapes)
    (f : α → α) (outcome : Except Fault α) :
    (fields.ofEntriesOutcome outcome).map f = other.ofEntriesOutcome (outcome.map f) := by
  rcases outcome with (_ | _) | _ <;> simp [ofEntriesOutcome, Except.map, sameShapes]

theorem ofItemsOutcome_map {fields other : Fields α α} (sameShapes : fields.shapes = other.shapes)
    (name : String) (count : Nat) (f : α → α) (outcome : Except Fault α) :
    (fields.ofItemsOutcome name count outcome).map f =
      other.ofItemsOutcome name count (outcome.map f) := by
  rcases outcome with (_ | _) | value
  · rfl
  · simp only [ofItemsOutcome, Except.map, expected, sameShapes]
  · simp only [ofItemsOutcome, Except.map, sameShapes]
    by_cases fits : count ≤ other.shapes.length <;> simp [fits]

theorem readRecord_object_fails {fields : Fields α α} {entries : List (String × Json)}
    (name : String) (fails : ∃ fault, fields.read (.entries entries) = .error fault) :
    ∃ mismatch, fields.readRecord name (.object entries) = .error mismatch := by
  obtain ⟨fault, fails⟩ := fails
  rw [readRecord_object, fails]
  cases fault <;> exact ⟨_, rfl⟩

theorem readRecord_array_fails {fields : Fields α α} {items : List Json} (name : String)
    (fails : ∃ fault, fields.read (.items items) = .error fault) :
    ∃ mismatch, fields.readRecord name (.array items) = .error mismatch := by
  obtain ⟨fault, fails⟩ := fails
  rw [readRecord_array, fails]
  cases fault <;> exact ⟨_, rfl⟩

theorem told_ofEntriesOutcome (fields : Fields α α) {x y : Except Fault α}
    (alike : toldFault x = toldFault y) :
    told (fields.ofEntriesOutcome x) = told (fields.ofEntriesOutcome y) := by
  rcases x with (_ | _) | _ <;> rcases y with (_ | _) | _ <;>
    simp_all [Fault.told, ofEntriesOutcome]

theorem told_ofItemsOutcome (fields : Fields α α) (name : String) (count : Nat)
    {x y : Except Fault α} (alike : toldFault x = toldFault y) :
    told (fields.ofItemsOutcome name count x) = told (fields.ofItemsOutcome name count y) := by
  rcases x with (_ | _) | _ <;> rcases y with (_ | _) | _ <;>
    simp_all [Fault.told, ofItemsOutcome]

theorem NullsLawful.codec {fields : Fields α α} (lawful : fields.NullsLawful) (name : String) :
    (fields.codec name).NullsLawful where
  null_fails _ := ⟨_, rfl⟩
  refused_fails tree refused := by
    obtain ⟨part, partTree, reads, refuses⟩ := refused
    -- the refused null stands for a field itself, or below a field
    cases reads with
    | here => cases refuses with
      | field declared refuses found =>
          have fieldsFail := lawful.refused_fails declared found (Or.inl ⟨rfl, refuses⟩)
          exact readRecord_object_fails name fieldsFail
    | field declared found below =>
        have refused : RefusesNull _ _ := ⟨part, partTree, below, refuses⟩
        have fieldsFail := lawful.refused_fails declared found (Or.inr refused)
        exact readRecord_object_fails name fieldsFail
    | position declared found below =>
        have fieldsFail :=
          lawful.refused_position_fails declared found ⟨part, partTree, below, refuses⟩
        exact readRecord_array_fails name fieldsFail
  idle_alike tree ordered idle := by
    cases tree with
    | null => simp only [Tree.withoutNulls]
    | scalar value => simp only [Tree.withoutNulls]
    | sequence items =>
        have alike := lawful.idle_position_alike ordered
          fun declared found => idle.position declared found
        show told (fields.readRecord name (Json.array (itemsToJson (itemsWithoutNulls items)))) =
          told (fields.readRecord name (Json.array (itemsToJson items)))
        have sameLength : (itemsToJson (itemsWithoutNulls items)).length =
            (itemsToJson items).length := by
          simp only [itemsToJson_eq_map, itemsWithoutNulls_eq_map, List.length_map]
        rw [readRecord_array, readRecord_array, sameLength]
        exact told_ofItemsOutcome fields name _ alike
    | map entries =>
        have alike := lawful.idle_alike ordered.1 ordered.2 fun declared found =>
          ⟨fun isNull => idle.takesNull declared (isNull ▸ found), idle.field declared found⟩
        show told (fields.readRecord name
          (Json.object (entriesToJson (entriesWithoutNulls entries)))) =
          told (fields.readRecord name (Json.object (entriesToJson entries)))
        rw [readRecord_object, readRecord_object]
        exact told_ofEntriesOutcome fields alike

end Fields

end Stackwright
