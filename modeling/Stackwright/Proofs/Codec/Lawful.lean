import Stackwright.Proofs.Codec.RecordNulls
import Stackwright.Proofs.Codec.Written

/-!
Codecs that read null entries lawfully and write none, put together field by field.
-/

namespace Stackwright

variable {α β ρ : Type}

structure Codec.Lawful (codec : Codec α) : Prop where
  reads : codec.NullsLawful
  writes : codec.WritesSettled

structure Fields.Lawful (fields : Fields ρ α) : Prop where
  reads : fields.NullsLawful
  writes : fields.WritesSettled

namespace Codec

theorem text_lawful : text.Lawful := ⟨text_nullsLawful, text_writesSettled⟩

theorem boolean_lawful : boolean.Lawful := ⟨boolean_nullsLawful, boolean_writesSettled⟩

theorem word16_lawful : word16.Lawful := ⟨word16_nullsLawful, word16_writesSettled⟩

theorem word32_lawful : word32.Lawful := ⟨word32_nullsLawful, word32_writesSettled⟩

theorem choice_lawful (first second : String) (value : Bool → α) (isSecond : α → Bool) :
    (choice first second value isSecond).Lawful :=
  ⟨choice_nullsLawful first second value isSecond, choice_writesSettled first second value isSecond⟩

theorem list_lawful {item : Codec α} (lawful : item.Lawful) : item.list.Lawful :=
  ⟨list_nullsLawful lawful.reads, list_writesSettled lawful.writes⟩

end Codec

namespace Fields.Lawful

theorem start (make : α) : (Fields.start make : Fields ρ α).Lawful :=
  ⟨NullsLawful.start make, WritesSettled.start make⟩

theorem required {fields : Fields ρ (β → α)} (lawful : fields.Lawful) (name : String) (get : ρ → β)
    {codec : Codec β} (item : codec.Lawful) (refuses : codec.shape.takesNull = false) :
    (fields.required name get codec).Lawful :=
  ⟨lawful.reads.required name get item.reads refuses,
    lawful.writes.required name get item.writes refuses⟩

theorem defaulted {fields : Fields ρ (β → α)} (lawful : fields.Lawful) (name : String)
    (get : ρ → β) {codec : Codec β} (item : codec.Lawful)
    (refuses : codec.shape.takesNull = false) (default : β) :
    (fields.defaulted name get codec default).Lawful :=
  ⟨lawful.reads.defaulted name get item.reads refuses default,
    lawful.writes.defaulted name get item.writes refuses default⟩

theorem optional {fields : Fields ρ (Option β → α)} (lawful : fields.Lawful) (name : String)
    (get : ρ → Option β) {codec : Codec β} (item : codec.Lawful)
    (refuses : codec.shape.takesNull = false) : (fields.optional name get codec).Lawful :=
  ⟨lawful.reads.optional name get item.reads, lawful.writes.optional name get item.writes refuses⟩

theorem listed {fields : Fields ρ (List β → α)} (lawful : fields.Lawful) (name : String)
    (get : ρ → List β) {codec : Codec β} (item : codec.Lawful) :
    (fields.listed name get codec).Lawful :=
  ⟨lawful.reads.listed name get item.reads, lawful.writes.listed name get item.writes⟩

theorem tabled {fields : Fields ρ (Dict β → α)} (lawful : fields.Lawful) (name : String)
    (get : ρ → Dict β) {codec : Codec β} (item : codec.Lawful)
    (refuses : codec.shape.takesNull = false) : (fields.tabled name get codec).Lawful :=
  ⟨lawful.reads.tabled name get item.reads refuses,
    lawful.writes.tabled name get item.writes refuses⟩

theorem codec {fields : Fields α α} (lawful : fields.Lawful) (name : String) :
    (fields.codec name).Lawful :=
  ⟨lawful.reads.codec name, lawful.writes.codec name⟩

end Fields.Lawful

end Stackwright
