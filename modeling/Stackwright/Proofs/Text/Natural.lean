import Stackwright.Text.Natural

/-!
Numerals: what the readers of decimal numbers accept, and the number that is read.
-/

namespace Stackwright

structure Numeral where
  digits : List Char
  present : digits ≠ []
  areDigits : ∀ c ∈ digits, c.isDigit = true

namespace Numeral

/-- The number that the digits denote, however many there are. -/
def value (numeral : Numeral) : Nat := Nat.ofDigitChars 10 numeral.digits 0

def ofNat (n : Nat) : Numeral where
  digits := Nat.toDigits 10 n
  present := Nat.toDigits_ne_nil
  areDigits _ member := Nat.isDigit_of_mem_toDigits (by decide) (by decide) member

theorem value_ofNat (n : Nat) : (ofNat n).value = n := Nat.ofDigitChars_ten_toDigits

theorem ne_sign {numeral : Numeral} {cs : List Char} : numeral.digits ≠ '+' :: cs := by
  intro same
  have isDigit := numeral.areDigits '+' (by rw [same]; exact List.mem_cons_self)
  cases isDigit

end Numeral

variable {cs : List Char} {n limit : Nat}

theorem readDigits_eq_some_iff :
    readDigits cs = some n ↔ ∃ numeral : Numeral, cs = numeral.digits ∧ numeral.value = n := by
  constructor
  · intro read
    rw [readDigits] at read
    split at read
    · rename_i accepted
      exact ⟨⟨cs, accepted.1, List.all_eq_true.mp accepted.2⟩, rfl, Option.some.inj read⟩
    · cases read
  · rintro ⟨numeral, rfl, rfl⟩
    rw [readDigits, if_pos ⟨numeral.present, List.all_eq_true.mpr numeral.areDigits⟩]
    rfl

theorem readNatural_eq_some_iff :
    readNatural cs = some n ↔
      ∃ numeral : Numeral, (cs = numeral.digits ∨ cs = '+' :: numeral.digits) ∧
        numeral.value = n := by
  by_cases signed : ∃ rest, cs = '+' :: rest
  · obtain ⟨rest, rfl⟩ := signed
    rw [readNatural, readDigits_eq_some_iff]
    constructor
    · rintro ⟨numeral, rfl, valued⟩
      exact ⟨numeral, Or.inr rfl, valued⟩
    · rintro ⟨numeral, unsigned | signed, valued⟩
      · exact absurd unsigned.symm Numeral.ne_sign
      · exact ⟨numeral, (List.cons.inj signed).2, valued⟩
  · have asDigits : readNatural cs = readDigits cs := by
      rw [readNatural]
      intro rest same
      exact signed ⟨rest, same⟩
    rw [asDigits, readDigits_eq_some_iff]
    constructor
    · rintro ⟨numeral, same, valued⟩
      exact ⟨numeral, Or.inl same, valued⟩
    · rintro ⟨numeral, unsigned | signedSo, valued⟩
      · exact ⟨numeral, unsigned, valued⟩
      · exact absurd ⟨_, signedSo⟩ signed

theorem readBelow_eq_some_iff :
    readBelow limit cs = some n ↔ readNatural cs = some n ∧ n < limit := by
  rw [readBelow, Option.filter_eq_some_iff, decide_eq_true_eq]

end Stackwright
