import Stackwright.Proofs.Codec.Declared

/-!
Codecs that read what they write as the value that it was written for.
-/

namespace Stackwright

variable {α β ρ : Type}

def Codec.ReadsBack (codec : Codec α) (value : α) : Prop :=
  codec.read (codec.write value) = .ok value

/-- Every value is written as something that is read as that value, and as no null. -/
structure Codec.Faithful (codec : Codec α) : Prop where
  back : ∀ value, codec.ReadsBack value
  given : ∀ value, codec.write value ≠ .null

namespace Codec

theorem text_faithful : text.Faithful := ⟨fun _ => rfl, nofun⟩

theorem boolean_faithful : boolean.Faithful := ⟨fun _ => rfl, nofun⟩

theorem readNatural_natural {bits : Nat} (name : String) {n : UInt64}
    (fits : n.toNat < Nat.pow 2 bits) : readNatural bits name (Json.natural n) = .ok n.toNat := by
  have inRange : (0 : Int) ≤ n.toNat ∧ (n.toNat : Int) < Nat.pow 2 bits :=
    ⟨Int.natCast_nonneg _, Int.ofNat_lt.mpr fits⟩
  simp only [Json.natural, Number.ofUInt64, readNatural, if_pos inRange, Int.toNat_natCast]

theorem word16_readsBack (n : UInt16) : word16.ReadsBack n := by
  have fits : n.toUInt64.toNat < Nat.pow 2 16 := by
    rw [UInt16.toNat_toUInt64]
    exact n.toNat_lt
  have reads : word16.read (word16.write n) =
      (readNatural 16 "u16" (Json.natural n.toUInt64)).map UInt16.ofNat := by rw [word16]
  rw [ReadsBack, reads, readNatural_natural "u16" fits, UInt16.toNat_toUInt64, Except.map,
    UInt16.ofNat_toNat]

theorem word32_readsBack (n : UInt32) : word32.ReadsBack n := by
  have fits : n.toUInt64.toNat < Nat.pow 2 32 := by
    rw [UInt32.toNat_toUInt64]
    exact n.toNat_lt
  have reads : word32.read (word32.write n) =
      (readNatural 32 "u32" (Json.natural n.toUInt64)).map UInt32.ofNat := by rw [word32]
  rw [ReadsBack, reads, readNatural_natural "u32" fits, UInt32.toNat_toUInt64, Except.map,
    UInt32.ofNat_toNat]

theorem word16_faithful : word16.Faithful := ⟨word16_readsBack, nofun⟩

theorem word32_faithful : word32.Faithful := ⟨word32_readsBack, nofun⟩

theorem choice_faithful {first second : String} {value : Bool → α} {isSecond : α → Bool}
    (different : second ≠ first) (back : ∀ chosen, value (isSecond chosen) = chosen) :
    (choice first second value isSecond).Faithful := by
  refine ⟨?_, nofun⟩
  intro chosen
  have chosenBack := back chosen
  cases which : isSecond chosen <;> rw [which] at chosenBack <;>
    simp [ReadsBack, choice, choice.named, which, different, chosenBack]

theorem mapM_write {item : Codec α} {values : List α}
    (back : ∀ value ∈ values, item.ReadsBack value) :
    (values.map item.write).mapM item.read = .ok values := by
  induction values with
  | nil => rfl
  | cons first rest ih =>
      obtain ⟨firstBack, restBack⟩ := List.forall_mem_cons.mp back
      rw [List.map_cons, List.mapM_cons, firstBack, ih restBack]
      rfl

theorem list_faithful {item : Codec α} (faithful : item.Faithful) : item.list.Faithful :=
  ⟨fun _ => mapM_write fun value _ => faithful.back value, nofun⟩

theorem readEntries_write {item : Codec α} {entries : List (String × α)}
    (back : ∀ e ∈ entries, item.ReadsBack e.2) :
    readEntries item.read (entries.map fun e => (e.1, item.write e.2)) = .ok entries := by
  induction entries with
  | nil => rfl
  | cons first rest ih =>
      obtain ⟨firstBack, restBack⟩ := List.forall_mem_cons.mp back
      rw [List.map_cons, readEntries, firstBack, ih restBack]
      rfl

theorem table_readsBack {item : Codec α} {values : Dict α}
    (back : ∀ e ∈ values.entries, item.ReadsBack e.2) : item.table.ReadsBack values := by
  show (readEntries item.read (values.entries.map fun e => (e.1, item.write e.2))).map
    Dict.ofList = .ok values
  rw [readEntries_write back]
  exact congrArg Except.ok values.ofList_entries

end Codec

/-- What stands for the field in a record that was written is read as the field's value; and where
nothing stands for it, null is read as that value or not at all. -/
structure RecordField.KeptIn (field : RecordField ρ) (record : ρ) : Prop where
  back : field.Takes (field.written record) (field.get record)
  null : field.written record = none →
    ∀ value, field.codec.read .null = .ok value → value = field.get record

def RecordField.Kept (field : RecordField ρ) : Prop := ∀ record, field.KeptIn record

namespace RecordField

theorem takes_written {field : RecordField ρ} {record : ρ}
    (back : field.skipped (field.get record) = false → field.codec.ReadsBack (field.get record))
    (left : field.skipped (field.get record) = true → field.absent = some (field.get record)) :
    field.Takes (field.written record) (field.get record) := by
  rw [written]
  cases skips : field.skipped (field.get record) with
  | false => exact back skips
  | true => exact left skips

theorem required_kept (name : String) (get : ρ → β) {codec : Codec β} (faithful : codec.Faithful) :
    (required name get codec).Kept :=
  fun record => ⟨faithful.back (get record), nofun⟩

theorem defaulted_kept (name : String) (get : ρ → β) {codec : Codec β} (faithful : codec.Faithful)
    (default : β) : (defaulted name get codec default).Kept :=
  fun record => ⟨faithful.back (get record), nofun⟩

theorem optional_kept (name : String) (get : ρ → Option β) {codec : Codec β}
    (faithful : codec.Faithful) : (optional name get codec).Kept := by
  intro record
  constructor
  · apply takes_written
    · intro there
      show codec.optional.ReadsBack (get record)
      cases holds : get record with
      | none => simp [optional, holds] at there
      | some value =>
          show codec.optional.read (codec.write value) = .ok (some value)
          rw [Codec.optional_read codec (faithful.given value), faithful.back value]
          rfl
    · intro nothing
      exact congrArg some (Option.isNone_iff_eq_none.mp nothing).symm
  · intro unwritten value reads
    cases reads
    cases holds : get record with
    | none => exact holds.symm
    | some value => simp [written, optional, holds] at unwritten

theorem listed_kept (name : String) (get : ρ → List β) {codec : Codec β}
    (faithful : codec.Faithful) : (listed name get codec).Kept := by
  intro record
  have listFaithful := Codec.list_faithful faithful
  refine ⟨takes_written (fun _ => listFaithful.back (get record)) ?_, nofun⟩
  intro isEmpty
  exact congrArg some (List.isEmpty_iff.mp isEmpty).symm

theorem tabled_keptIn (name : String) (get : ρ → Dict β) {codec : Codec β} {record : ρ}
    (back : ∀ e ∈ (get record).entries, codec.ReadsBack e.2) :
    (tabled name get codec).KeptIn record := by
  refine ⟨takes_written (fun _ => Codec.table_readsBack back) ?_, nofun⟩
  intro isEmpty
  exact congrArg some (Dict.eq_empty isEmpty).symm

theorem tabled_kept (name : String) (get : ρ → Dict β) {codec : Codec β}
    (faithful : codec.Faithful) : (tabled name get codec).Kept :=
  fun _ => tabled_keptIn name get fun e _ => faithful.back e.2

end RecordField

namespace Declaration

variable (declaration : Declaration ρ) (name : String)

theorem codec_readsBack {record : ρ} (kept : ∀ field ∈ declaration.list, field.KeptIn record) :
    (declaration.codec name).ReadsBack record := by
  show (declaration.codec name).read (.object (sortEntries (declaration.fields.write record))) = _
  rw [declaration.read_eq_ok_iff]
  intro field member
  rw [declaration.findEntry_written member]
  exact (kept field member).back

theorem codec_faithful (kept : ∀ field ∈ declaration.list, field.Kept) :
    (declaration.codec name).Faithful :=
  ⟨fun record => declaration.codec_readsBack name fun field member => kept field member record,
    nofun⟩

end Declaration

end Stackwright
