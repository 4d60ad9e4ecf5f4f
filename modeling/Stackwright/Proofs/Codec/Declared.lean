import Mathlib.Data.List.Nodup
import Stackwright.Proofs.Codec.RecordNulls

/-!
Records by the list of their fields: what reading a record takes from an object, and what writing it
puts there, told field by field.
-/

namespace Stackwright

structure RecordField (ρ : Type) where
  Value : Type
  name : String
  get : ρ → Value
  codec : Codec Value
  /-- What the field holds where nothing stands for it. -/
  absent : Option Value
  skipped : Value → Bool

namespace RecordField

variable {ρ β : Type}

def required (name : String) (get : ρ → β) (codec : Codec β) : RecordField ρ :=
  ⟨β, name, get, codec, none, fun _ => false⟩

def defaulted (name : String) (get : ρ → β) (codec : Codec β) (default : β) : RecordField ρ :=
  ⟨β, name, get, codec, some default, fun _ => false⟩

def optional (name : String) (get : ρ → Option β) (codec : Codec β) : RecordField ρ :=
  ⟨Option β, name, get, codec.optional, some none, Option.isNone⟩

def listed (name : String) (get : ρ → List β) (codec : Codec β) : RecordField ρ :=
  ⟨List β, name, get, codec.list, some [], List.isEmpty⟩

def tabled (name : String) (get : ρ → Dict β) (codec : Codec β) : RecordField ρ :=
  ⟨Dict β, name, get, codec.table, some .empty, Dict.isEmpty⟩

variable (field : RecordField ρ)

def written (record : ρ) : Option Json :=
  if field.skipped (field.get record) then none else some (field.codec.write (field.get record))

def Takes (found : Option Json) (value : field.Value) : Prop :=
  match found with
  | some json => field.codec.read json = .ok value
  | none => field.absent = some value

variable {field}

theorem Takes.unique {found : Option Json} {a b : field.Value} (takesA : field.Takes found a)
    (takesB : field.Takes found b) : a = b := by
  cases found with
  | none => exact Option.some.inj (takesA.symm.trans takesB)
  | some json => exact Except.ok.inj (takesA.symm.trans takesB)

theorem readAt_eq_ok {index : Nat} {entries : List (String × Json)} {value : field.Value} :
    field.codec.readAt field.name index field.absent (.entries entries) = .ok value ↔
      field.Takes (findEntry field.name entries) value := by
  cases found : findEntry field.name entries with
  | some json => simp only [Codec.readAt, found, mapError_eq_ok, Takes]
  | none =>
      simp only [Codec.readAt, found, Takes]
      cases field.absent <;> simp

end RecordField

/-- What makes a record of the values of these fields, given in their order. -/
def Maker (ρ : Type) : List (RecordField ρ) → Type
  | [] => ρ
  | field :: rest => field.Value → Maker ρ rest

def assembled {ρ : Type} (record : ρ) : (list : List (RecordField ρ)) → Maker ρ list → ρ
  | [], made => made
  | field :: rest, make => assembled record rest (make (field.get record))

/-- Whatever record is made has the values that it is made of. -/
def Recovers {ρ : Type} (told : ρ → Prop) : (list : List (RecordField ρ)) → Maker ρ list → Prop
  | [], made => told made
  | field :: rest, make =>
    ∀ value, Recovers (fun record => told record ∧ field.get record = value) rest (make value)

theorem Recovers.imp {ρ : Type} {told other : ρ → Prop} {list : List (RecordField ρ)}
    {make : Maker ρ list}
    (recovers : Recovers told list make) (implies : ∀ record, told record → other record) :
    Recovers other list make := by
  induction list generalizing told other with
  | nil => exact implies make recovers
  | cons field rest ih =>
      intro value
      apply ih (recovers value)
      rintro record ⟨toldRecord, same⟩
      exact ⟨implies record toldRecord, same⟩

def Fields.declare {ρ : Type} : (list : List (RecordField ρ)) → Fields ρ (Maker ρ list) → Fields ρ ρ
  | [], fields => fields
  | field :: rest, fields =>
    declare rest (fields.add field.name field.get field.codec field.absent field.skipped)

structure Declaration (ρ : Type) where
  list : List (RecordField ρ)
  make : Maker ρ list
  distinct : (list.map RecordField.name).Nodup
  rebuilt : ∀ record, assembled record list make = record
  recovers : Recovers (fun _ => True) list make

namespace Declaration

variable {ρ : Type}

def fields (declaration : Declaration ρ) : Fields ρ ρ :=
  Fields.declare declaration.list (.start declaration.make)

def codec (declaration : Declaration ρ) (name : String) : Codec ρ := declaration.fields.codec name

end Declaration

namespace Fields

variable {ρ : Type}

theorem ofEntriesOutcome_eq_ok {fields : Fields ρ ρ} {outcome : Except Fault ρ} {record : ρ} :
    fields.ofEntriesOutcome outcome = .ok record ↔ outcome = .ok record := by
  rcases outcome with (_ | _) | _ <;> simp [ofEntriesOutcome]

theorem of_ofItemsOutcome_eq_ok {fields : Fields ρ ρ} {name : String} {count : Nat}
    {outcome : Except Fault ρ} {record : ρ}
    (reads : fields.ofItemsOutcome name count outcome = .ok record) : outcome = .ok record := by
  rcases outcome with (_ | _) | read
  · cases reads
  · cases reads
  · rw [ofItemsOutcome] at reads
    split at reads
    · exact congrArg Except.ok (Except.ok.inj reads)
    · cases reads

def entriesOf (record : ρ) (list : List (RecordField ρ)) : List (String × Json) :=
  list.flatMap fun field => ((field.written record).map (field.name, ·)).toList

theorem entriesOf_cons (record : ρ) (field : RecordField ρ) (rest : List (RecordField ρ)) :
    entriesOf record (field :: rest) =
      ((field.written record).map (field.name, ·)).toList ++ entriesOf record rest :=
  List.flatMap_cons

theorem mem_entriesOf {record : ρ} {list : List (RecordField ρ)} {e : String × Json} :
    e ∈ entriesOf record list ↔
      ∃ field ∈ list, field.written record = some e.2 ∧ field.name = e.1 := by
  simp only [entriesOf, List.mem_flatMap, Option.mem_toList, Option.map_eq_some_iff]
  constructor
  · rintro ⟨field, member, json, writes, rfl⟩
    exact ⟨field, member, writes, rfl⟩
  · rintro ⟨field, member, writes, named⟩
    exact ⟨field, member, e.2, writes, Prod.ext named rfl⟩

theorem keys_entriesOf (record : ρ) (list : List (RecordField ρ)) :
    ((entriesOf record list).map Prod.fst).Sublist (list.map RecordField.name) := by
  induction list with
  | nil => exact .slnil
  | cons field rest ih =>
      rw [entriesOf_cons, List.map_append]
      cases field.written record with
      | none => exact ih.cons field.name
      | some json => exact ih.cons_cons field.name

theorem write_declare (list : List (RecordField ρ)) (fields : Fields ρ (Maker ρ list))
    (record : ρ) :
    (declare list fields).write record = fields.write record ++ entriesOf record list := by
  induction list with
  | nil => exact (List.append_nil _).symm
  | cons field rest ih =>
      rw [declare, ih, entriesOf_cons, ← List.append_assoc]
      congr 1
      simp only [add, RecordField.written]
      cases field.skipped (field.get record) <;> rfl

variable {entries : List (String × Json)} {record : ρ}

/-- A record is read where each of its fields is. -/
theorem read_declare {list : List (RecordField ρ)} {fields : Fields ρ (Maker ρ list)}
    {make : Maker ρ list} (reads : fields.read (.entries entries) = .ok make)
    (takes : ∀ field ∈ list, field.Takes (findEntry field.name entries) (field.get record)) :
    (declare list fields).read (.entries entries) = .ok (assembled record list make) := by
  induction list with
  | nil => exact reads
  | cons field rest ih =>
      obtain ⟨first, others⟩ := List.forall_mem_cons.mp takes
      apply ih _ others
      exact both_eq_ok.mpr ⟨make, field.get record, reads, RecordField.readAt_eq_ok.mpr first, rfl⟩

theorem takes_of_read_declare {list : List (RecordField ρ)} {fields : Fields ρ (Maker ρ list)}
    {told : ρ → Prop}
    (recovers : ∀ make, fields.read (.entries entries) = .ok make → Recovers told list make)
    (reads : (declare list fields).read (.entries entries) = .ok record) :
    told record ∧
      ∀ field ∈ list, field.Takes (findEntry field.name entries) (field.get record) := by
  induction list generalizing told with
  | nil => exact ⟨recovers record reads, nofun⟩
  | cons field rest ih =>
      -- what the record is known to hold says now how the first field was read, too
      have restKeeps : ∀ make, (fields.add field.name field.get field.codec field.absent
          field.skipped).read (.entries entries) = .ok make →
          Recovers (fun record => told record ∧
            field.Takes (findEntry field.name entries) (field.get record)) rest make := by
        intro make readsFirst
        obtain ⟨makeAll, value, fieldsRead, takes, rfl⟩ := both_eq_ok.mp readsFirst
        have kept := recovers makeAll fieldsRead value
        refine kept.imp ?_
        rintro record ⟨toldRecord, rfl⟩
        exact ⟨toldRecord, RecordField.readAt_eq_ok.mp takes⟩
      obtain ⟨⟨toldRecord, first⟩, others⟩ := ih restKeeps reads
      exact ⟨toldRecord, List.forall_mem_cons.mpr ⟨first, others⟩⟩

end Fields

namespace Declaration

variable {ρ : Type} (declaration : Declaration ρ) (name : String)

theorem read_eq_ok_iff {entries : List (String × Json)} {record : ρ} :
    (declaration.codec name).read (.object entries) = .ok record ↔
      ∀ field ∈ declaration.list,
        field.Takes (findEntry field.name entries) (field.get record) := by
  have outcome : (declaration.codec name).read (.object entries) = .ok record ↔
      declaration.fields.read (.entries entries) = .ok record := by
    show declaration.fields.readRecord name (.object entries) = .ok record ↔ _
    rw [Fields.readRecord_object, Fields.ofEntriesOutcome_eq_ok]
  rw [outcome]
  constructor
  · intro reads
    have recovers : ∀ make,
        (Fields.start declaration.make : Fields ρ _).read (.entries entries) = .ok make →
          Recovers (fun _ => True) declaration.list make := by
      intro make started
      obtain rfl := Except.ok.inj started
      exact declaration.recovers
    exact (Fields.takes_of_read_declare recovers reads).2
  · intro takes
    have started : (Fields.start declaration.make : Fields ρ _).read (.entries entries) =
        .ok declaration.make := rfl
    have reads := Fields.read_declare started takes
    rw [declaration.rebuilt record] at reads
    exact reads

theorem write_fields (record : ρ) :
    declaration.fields.write record = Fields.entriesOf record declaration.list :=
  Fields.write_declare declaration.list _ record

theorem findEntry_unwritten {key : String} {record : ρ}
    (unwritten : ∀ field ∈ declaration.list, field.name = key → field.written record = none) :
    findEntry key (sortEntries (declaration.fields.write record)) = none := by
  rw [write_fields, findEntry_eq_none_iff]
  intro e present named
  obtain ⟨field, member, written, fieldNamed⟩ :=
    Fields.mem_entriesOf.mp (mem_of_mem_sortEntries present)
  rw [unwritten field member (fieldNamed.trans named)] at written
  cases written

theorem findEntry_written {field : RecordField ρ} (member : field ∈ declaration.list) (record : ρ) :
    findEntry field.name (sortEntries (declaration.fields.write record)) =
      field.written record := by
  cases written : field.written record with
  | some json =>
      rw [write_fields]
      apply findEntry_sortEntries_of_mem
      · exact declaration.distinct.sublist (Fields.keys_entriesOf record declaration.list)
      · exact Fields.mem_entriesOf.mpr ⟨field, member, written, rfl⟩
  | none =>
      apply declaration.findEntry_unwritten
      intro other otherMember named
      rw [List.inj_on_of_nodup_map declaration.distinct otherMember member named, written]

end Declaration

end Stackwright
