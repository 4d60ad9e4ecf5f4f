import Stackwright.Codec.Record
import Stackwright.Proofs.Codec.Parts
import Stackwright.Proofs.Tree.Kinds
import Stackwright.Proofs.Tree.Nulls

/-!
What codecs write, taken as a tree: its maps are ordered and none of its entries is null.
-/

namespace Stackwright

variable {α β ρ : Type}

/-- The maps of a tree are ordered and hold no nulls. -/
structure Tree.Settled (tree : Tree) : Prop where
  ordered : tree.Ordered
  nullFree : tree.withoutNulls = tree

theorem Tree.settled_scalar (value : Scalar) : (Tree.scalar value).Settled :=
  ⟨trivial, by rw [Tree.withoutNulls]⟩

theorem Tree.settled_null : Tree.null.Settled :=
  ⟨trivial, by rw [Tree.withoutNulls]⟩

theorem ofEntries_eq_map (entries : List (String × Json)) :
    ofEntries entries = entries.map fun e => (e.1, Tree.ofJson e.2) := by
  induction entries with
  | nil => rfl
  | cons entry rest ih => simp [ofEntries, ih]

theorem kind_ofJson_null_iff {value : Json} : (Tree.ofJson value).kind = .null ↔ value = .null := by
  cases value <;> simp [Tree.ofJson, Tree.kind]

theorem findEntry_ofEntries (key : String) (entries : List (String × Json)) :
    findEntry key (ofEntries entries) = (findEntry key entries).map Tree.ofJson := by
  rw [ofEntries_eq_map]
  exact findEntry_map Tree.ofJson

theorem settled_array {items : List Json} (settled : ∀ item ∈ items, (Tree.ofJson item).Settled) :
    (Tree.ofJson (.array items)).Settled := by
  induction items with
  | nil => exact ⟨trivial, rfl⟩
  | cons item rest ih =>
      have first := settled item List.mem_cons_self
      have others := ih fun other member => settled other (List.mem_cons_of_mem _ member)
      simp only [Tree.ofJson, ofItems] at others ⊢
      refine ⟨⟨first.ordered, others.ordered⟩, ?_⟩
      have restFree := others.nullFree
      simp only [Tree.withoutNulls, Tree.sequence.injEq] at restFree
      simp only [Tree.withoutNulls, itemsWithoutNulls, first.nullFree, restFree]

theorem entriesWithoutNulls_ofEntries {entries : List (String × Json)}
    (settled : ∀ e ∈ entries, e.2 ≠ .null ∧ (Tree.ofJson e.2).Settled) :
    entriesWithoutNulls (ofEntries entries) = ofEntries entries := by
  induction entries with
  | nil => rfl
  | cons entry rest ih =>
      obtain ⟨given, entrySettled⟩ := settled entry List.mem_cons_self
      have restFree := ih fun e member => settled e (List.mem_cons_of_mem _ member)
      have notNull : (Tree.ofJson entry.2).kind ≠ .null := by
        intro isNull
        exact given (kind_ofJson_null_iff.mp isNull)
      rw [ofEntries, entriesWithoutNulls, if_neg notNull, entrySettled.nullFree, restFree]

theorem settled_object {entries : List (String × Json)} (increasing : KeysIncrease entries)
    (settled : ∀ e ∈ entries, e.2 ≠ .null ∧ (Tree.ofJson e.2).Settled) :
    (Tree.ofJson (.object entries)).Settled where
  ordered := by
    refine ⟨?_, ?_⟩
    · rw [ofEntries_eq_map, KeysIncrease, List.pairwise_map]
      exact increasing
    · rw [ofEntries_eq_map, entriesOrdered_iff]
      intro e member
      obtain ⟨original, present, rfl⟩ := List.mem_map.mp member
      exact (settled original present).2.ordered
  nullFree := by
    rw [Tree.ofJson, Tree.withoutNulls, entriesWithoutNulls_ofEntries settled]

/-- What a codec writes is settled, and null only where its shape takes null. -/
structure Codec.WritesSettled (codec : Codec α) : Prop where
  settled : ∀ value, (Tree.ofJson (codec.write value)).Settled
  given : codec.shape.takesNull = false → ∀ value, codec.write value ≠ .null

namespace Codec

theorem text_writesSettled : text.WritesSettled where
  settled _ := Tree.settled_scalar _
  given _ _ := by simp [text]

theorem boolean_writesSettled : boolean.WritesSettled where
  settled _ := Tree.settled_scalar _
  given _ _ := by simp [boolean]

theorem word16_writesSettled : word16.WritesSettled where
  settled _ := Tree.settled_scalar _
  given _ _ := by simp [word16, Json.natural]

theorem word32_writesSettled : word32.WritesSettled where
  settled _ := Tree.settled_scalar _
  given _ _ := by simp [word32, Json.natural]

theorem choice_writesSettled (first second : String) (value : Bool → α) (isSecond : α → Bool) :
    (choice first second value isSecond).WritesSettled where
  settled _ := Tree.settled_scalar _
  given _ _ := by simp [choice]

theorem optional_writesSettled {item : Codec α} (writes : item.WritesSettled) :
    item.optional.WritesSettled where
  settled
    | none => Tree.settled_null
    | some value => writes.settled value
  given taken := by cases taken

theorem list_writesSettled {item : Codec α} (writes : item.WritesSettled) :
    item.list.WritesSettled where
  settled values := by
    apply settled_array
    intro written member
    obtain ⟨value, _, rfl⟩ := List.mem_map.mp member
    exact writes.settled value
  given _ _ := by simp [list]

theorem table_writesSettled {item : Codec α} (writes : item.WritesSettled)
    (refuses : item.shape.takesNull = false) : item.table.WritesSettled where
  settled values := by
    apply settled_object (values.map item.write).increasing
    intro e member
    obtain ⟨original, _, rfl⟩ := List.mem_map.mp member
    exact ⟨writes.given refuses _, writes.settled _⟩
  given _ _ := by simp [table, Json.ofDict]

end Codec

def Fields.WritesSettled (fields : Fields ρ α) : Prop :=
  ∀ record, ∀ e ∈ fields.write record, e.2 ≠ .null ∧ (Tree.ofJson e.2).Settled

namespace Fields

theorem WritesSettled.start (make : α) : (Fields.start make : Fields ρ α).WritesSettled := by
  intro record e member
  cases member

theorem WritesSettled.add {fields : Fields ρ (β → α)} (writes : fields.WritesSettled)
    (name : String) (get : ρ → β) {codec : Codec β} (codecWrites : codec.WritesSettled)
    (absent : Option β) {skipped : β → Bool}
    (given : ∀ value, skipped value = false → codec.write value ≠ .null) :
    (fields.add name get codec absent skipped).WritesSettled := by
  intro record e member
  rcases List.mem_append.mp member with earlier | last
  · exact writes record e earlier
  · split at last
    · cases last
    · rename_i kept
      cases List.mem_singleton.mp last
      exact ⟨given _ (by simpa using kept), codecWrites.settled _⟩

theorem WritesSettled.required {fields : Fields ρ (β → α)} (writes : fields.WritesSettled)
    (name : String) (get : ρ → β) {codec : Codec β} (codecWrites : codec.WritesSettled)
    (refuses : codec.shape.takesNull = false) : (fields.required name get codec).WritesSettled :=
  writes.add name get codecWrites none fun value _ => codecWrites.given refuses value

theorem WritesSettled.defaulted {fields : Fields ρ (β → α)} (writes : fields.WritesSettled)
    (name : String) (get : ρ → β) {codec : Codec β} (codecWrites : codec.WritesSettled)
    (refuses : codec.shape.takesNull = false) (default : β) :
    (fields.defaulted name get codec default).WritesSettled :=
  writes.add name get codecWrites _ fun value _ => codecWrites.given refuses value

theorem WritesSettled.optional {fields : Fields ρ (Option β → α)} (writes : fields.WritesSettled)
    (name : String) (get : ρ → Option β) {codec : Codec β} (codecWrites : codec.WritesSettled)
    (refuses : codec.shape.takesNull = false) : (fields.optional name get codec).WritesSettled := by
  apply writes.add name get (Codec.optional_writesSettled codecWrites)
  intro value kept
  cases value with
  | none => cases kept
  | some value => exact codecWrites.given refuses value

theorem WritesSettled.listed {fields : Fields ρ (List β → α)} (writes : fields.WritesSettled)
    (name : String) (get : ρ → List β) {codec : Codec β} (codecWrites : codec.WritesSettled) :
    (fields.listed name get codec).WritesSettled :=
  writes.add name get (Codec.list_writesSettled codecWrites) _ fun _ _ => by simp [Codec.list]

theorem WritesSettled.tabled {fields : Fields ρ (Dict β → α)} (writes : fields.WritesSettled)
    (name : String) (get : ρ → Dict β) {codec : Codec β} (codecWrites : codec.WritesSettled)
    (refuses : codec.shape.takesNull = false) : (fields.tabled name get codec).WritesSettled :=
  writes.add name get (Codec.table_writesSettled codecWrites refuses) _ fun _ _ => by
    simp [Codec.table, Json.ofDict]

theorem WritesSettled.codec {fields : Fields α α} (writes : fields.WritesSettled) (name : String) :
    (fields.codec name).WritesSettled where
  settled record := settled_object (keysIncrease_sortEntries _) fun e member =>
    writes record e (mem_of_mem_sortEntries member)
  given _ _ := by simp [Fields.codec, Json.ofEntries]

theorem findEntry_written_other {fields : Fields ρ (β → α)} {name key : String} {get : ρ → β}
    {codec : Codec β} {absent : Option β} {skipped : β → Bool} (different : key ≠ name)
    (record : ρ) :
    findEntry key (sortEntries ((fields.add name get codec absent skipped).write record)) =
      findEntry key (sortEntries (fields.write record)) := by
  rw [findEntry_sortEntries, findEntry_sortEntries, Fields.add, List.reverse_append,
    findEntry_append]
  cases skipped (get record) <;> simp [findEntry, different]

theorem findEntry_written_last {fields : Fields ρ (β → α)} {name : String} {get : ρ → β}
    {codec : Codec β} {absent : Option β} {skipped : β → Bool} {record : ρ}
    (kept : skipped (get record) = false) :
    findEntry name (sortEntries ((fields.add name get codec absent skipped).write record)) =
      some (codec.write (get record)) := by
  rw [findEntry_sortEntries, Fields.add, List.reverse_append, findEntry_append]
  simp [findEntry, kept]

theorem kindAt?_written {fields : Fields α α} (name key : String) (rest : List String)
    (record : α) :
    (Tree.ofJson ((fields.codec name).write record)).kindAt? (key :: rest) =
      (findEntry key (sortEntries (fields.write record))).bind
        fun value => (Tree.ofJson value).kindAt? rest := by
  show (findEntry key (ofEntries (sortEntries (fields.write record)))).bind _ = _
  rw [findEntry_ofEntries, Option.bind_map]
  rfl

end Fields

end Stackwright
