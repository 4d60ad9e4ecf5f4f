import Stackwright.Tree

/-!
Trees made from JSON: the JSON is all there in them.
-/

namespace Stackwright

section

variable {value : Int} (bounds : -0x8000000000000000 ≤ value ∧ value < 0x10000000000000000)

theorem toScalar_signed (small : value < 0x8000000000000000) :
    ∃ kept : Int64, kept.toInt = value ∧
      (Number.integer value bounds).toScalar = .integer kept :=
  ⟨Int64.ofInt value, Int64.toInt_ofInt_of_le bounds.1 small, if_pos small⟩

theorem toScalar_unsigned (large : 0x8000000000000000 ≤ value) :
    ∃ kept : UInt64, (kept.toNat : Int) = value ∧
      (Number.integer value bounds).toScalar = .unsigned kept := by
  have tooLarge : ¬ value < 0x8000000000000000 := Int.not_lt.mpr large
  have natural : (value.toNat : Int) = value := Int.toNat_of_nonneg (by omega)
  have fits : value.toNat < UInt64.size := by simp only [UInt64.size]; omega
  refine ⟨UInt64.ofNat value.toNat, ?_, if_neg tooLarge⟩
  rw [UInt64.toNat_ofNat_of_lt' fits, natural]

end

theorem toJson_toScalar (value : Number) : value.toScalar.toJson = .number value := by
  cases value with
  | float value finite => rfl
  | integer value bounds =>
      rcases Int.lt_or_le value 0x8000000000000000 with small | large
      · obtain ⟨kept, keeps, isSigned⟩ := toScalar_signed bounds small
        simp only [isSigned, Scalar.toJson, keeps]
      · obtain ⟨kept, keeps, isUnsigned⟩ := toScalar_unsigned bounds large
        simp only [isUnsigned, Scalar.toJson, Number.ofUInt64, keeps]

mutual
theorem toJson_ofJson (value : Json) : (Tree.ofJson value).toJson = value := by
  cases value with
  | null => rfl
  | boolean value => rfl
  | number value => exact toJson_toScalar value
  | string value => rfl
  | array items => rw [Tree.ofJson, Tree.toJson, itemsToJson_ofItems items]
  | object entries => rw [Tree.ofJson, Tree.toJson, entriesToJson_ofEntries entries]

theorem itemsToJson_ofItems (items : List Json) : itemsToJson (ofItems items) = items := by
  cases items with
  | nil => rfl
  | cons item rest => rw [ofItems, itemsToJson, toJson_ofJson item, itemsToJson_ofItems rest]

theorem entriesToJson_ofEntries (entries : List (String × Json)) :
    entriesToJson (ofEntries entries) = entries := by
  cases entries with
  | nil => rfl
  | cons entry rest =>
      rw [ofEntries, entriesToJson, toJson_ofJson entry.2, entriesToJson_ofEntries rest]
end

end Stackwright
