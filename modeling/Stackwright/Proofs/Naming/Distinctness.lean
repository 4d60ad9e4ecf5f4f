import Stackwright.Proofs.Naming.Shortening

/-!
Names that differ stay different when they are shortened, as far as their digests do. A shortened
name ends in digits of a digest, and the name of no role does.
-/

namespace Stackwright

open String (utf8Len)

variable {first second name : String} {limit : Nat}

/-- Both names are cut, and the digits that take the place of what is lost are the same. -/
structure DigitsAgree (first second : String) (limit : Nat) : Prop where
  firstCut : limit < first.utf8ByteSize
  secondCut : limit < second.utf8ByteSize
  same : nameDigits first limit = nameDigits second limit

theorem shorten_endsInDigits (tooLong : limit < name.utf8ByteSize) :
    ∃ front, (shorten name limit).toList = front ++ nameDigits name limit := by
  generalize shorten name limit = short, shorten_shortened tooLong = form
  cases form with
  | digits => exact ⟨[], by rw [String.toList_ofList, List.nil_append]⟩
  | start head => exact ⟨head ++ ['-'], by rw [String.toList_ofList]; simp⟩

theorem digitsAgree_of_cut (firstCut : limit < first.utf8ByteSize)
    (secondCut : limit < second.utf8ByteSize) (same : shorten first limit = shorten second limit) :
    DigitsAgree first second limit := by
  obtain ⟨firstFront, firstEnds⟩ := shorten_endsInDigits firstCut
  obtain ⟨secondFront, secondEnds⟩ := shorten_endsInDigits secondCut
  have sameEnds : firstFront ++ nameDigits first limit = secondFront ++ nameDigits second limit := by
    rw [← firstEnds, ← secondEnds, same]
  have sameLength : (nameDigits first limit).length = (nameDigits second limit).length := by
    rw [length_nameDigits, length_nameDigits]
  exact ⟨firstCut, secondCut, (List.append_inj' sameEnds sameLength).2⟩

theorem Role.slug_end (role : Role) : 4 ≤ role.slug.toList.length ∧
    ∃ c ∈ role.slug.toList.reverse.take 4, c ∉ hexAlphabet := by
  have computed : 4 ≤ role.slug.toList.length ∧
      (role.slug.toList.reverse.take 4).any (fun c => c ∉ hexAlphabet) = true := by
    cases role <;> simp only [slug, id, String.toList_ofList] <;> decide +kernel
  obtain ⟨c, member, isNoDigit⟩ := List.any_eq_true.mp computed.2
  exact ⟨computed.1, c, member, of_decide_eq_true isNoDigit⟩

theorem StackNames.full_endsInSlug (names : StackNames) (role : Role) :
    ∃ front, (names.full role).toList = front ++ role.slug.toList :=
  ⟨(names.stack ++ "-").toList, String.toList_append⟩

theorem take_reverse_append {front back : List Char} {n : Nat} (within : n ≤ back.length) :
    (front ++ back).reverse.take n = back.reverse.take n := by
  rw [List.reverse_append, List.take_append_of_le_length (by rwa [List.length_reverse])]

/-- The name of a role that fits is not what another name is cut to. A name that fits is as long as
its slug at least, so the other one was cut to four digits or more. -/
theorem full_ne_shortened (names : StackNames) (role : Role)
    (fits : (names.full role).utf8ByteSize ≤ limit) (tooLong : limit < name.utf8ByteSize) :
    names.full role ≠ shorten name limit := by
  intro same
  obtain ⟨front, ends⟩ := names.full_endsInSlug role
  obtain ⟨cutFront, cutEnds⟩ := shorten_endsInDigits tooLong
  obtain ⟨slugLength, c, inSlug, notHex⟩ := role.slug_end
  have digitsLength : 4 ≤ (nameDigits name limit).length := by
    have size : role.slug.toList.length ≤ (names.full role).utf8ByteSize := by
      calc
        role.slug.toList.length ≤ (names.full role).toList.length := by
          rw [ends, List.length_append]
          exact Nat.le_add_left _ _
        _ ≤ utf8Len (names.full role).toList := length_le_utf8Len _
        _ = (names.full role).utf8ByteSize := by
          rw [← String.utf8ByteSize_ofList, String.ofList_toList]
    rw [length_nameDigits]
    omega
  have sameEnd : role.slug.toList.reverse.take 4 = (nameDigits name limit).reverse.take 4 := by
    calc
      role.slug.toList.reverse.take 4 = (names.full role).toList.reverse.take 4 := by
        rw [ends, take_reverse_append slugLength]
      _ = (nameDigits name limit).reverse.take 4 := by
        rw [same, cutEnds, take_reverse_append digitsLength]
  rw [sameEnd] at inSlug
  have isDigit := List.mem_reverse.mp (List.mem_of_mem_take inSlug)
  exact notHex (mem_hexAlphabet_of_nameDigits isDigit)

theorem StackNames.digitsAgree_of_physical {a b : StackNames} {p q : Role}
    (different : a.full p ≠ b.full q) (same : a.physical p limit = b.physical q limit) :
    DigitsAgree (a.full p) (b.full q) limit := by
  have sameShort : shorten (a.full p) limit = shorten (b.full q) limit := same
  by_cases firstFits : (a.full p).utf8ByteSize ≤ limit
  · rw [shorten_of_fits firstFits] at sameShort
    by_cases secondFits : (b.full q).utf8ByteSize ≤ limit
    · rw [shorten_of_fits secondFits] at sameShort
      exact absurd sameShort different
    · exact absurd sameShort (full_ne_shortened a p firstFits (Nat.lt_of_not_le secondFits))
  · by_cases secondFits : (b.full q).utf8ByteSize ≤ limit
    · rw [shorten_of_fits secondFits] at sameShort
      exact absurd sameShort.symm (full_ne_shortened b q secondFits (Nat.lt_of_not_le firstFits))
    · exact digitsAgree_of_cut (Nat.lt_of_not_le firstFits) (Nat.lt_of_not_le secondFits) sameShort

theorem StackNames.full_helpers_ne (names : StackNames) :
    names.full .envControllerFunction ≠ names.full .rulePriorityFunction := by
  intro same
  have slugs : Role.envControllerFunction.slug ≠ Role.rulePriorityFunction.slug := by decide
  apply slugs
  apply String.toList_inj.mp
  have lists := congrArg String.toList same
  simp only [full, String.toList_append] at lists
  exact List.append_cancel_left lists

end Stackwright
