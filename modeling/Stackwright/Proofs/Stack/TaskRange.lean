import Stackwright.Proofs.Stack.Outline
import Stackwright.Proofs.Text.Natural
import Stackwright.Proofs.Text.Trimming

/-!
What texts are ranges of task counts.
-/

namespace Stackwright

/-- A bound of a range as it is written: digits, with a plus sign or not and with blanks around them
or not. -/
def WritesBound (cs : List Char) (bound : UInt32) : Prop :=
  ∃ (written : List Char) (numeral : Numeral), TrimsTo isBlank cs written ∧
    (written = numeral.digits ∨ written = '+' :: numeral.digits) ∧ numeral.value = bound.toNat

/-- A range as it is written: its bounds in their order, and between them the first dash. -/
structure WritesRange (text : String) (least greatest : UInt32) : Prop where
  parted : ∃ first second, text.toList = first ++ '-' :: second ∧ '-' ∉ first ∧
    WritesBound first least ∧ WritesBound second greatest
  ordered : least ≤ greatest

theorem readBound_eq_some_iff {cs : List Char} {bound : UInt32} :
    readBound cs = some bound ↔ WritesBound cs bound := by
  have fits : ∀ {n : Nat}, n < UInt32.size → (UInt32.ofNat n = bound ↔ n = bound.toNat) := by
    intro n small
    rw [← UInt32.toNat_inj, UInt32.toNat_ofNat_of_lt' small]
  rw [readBound, Option.map_eq_some_iff]
  constructor
  · rintro ⟨n, read, isBound⟩
    obtain ⟨natural, small⟩ := readBelow_eq_some_iff.mp read
    obtain ⟨numeral, written, valued⟩ := readNatural_eq_some_iff.mp natural
    exact ⟨_, numeral, dropEnds_trimsTo _ _, written, valued.trans ((fits small).mp isBound)⟩
  · rintro ⟨written, numeral, trims, isWritten, valued⟩
    refine ⟨bound.toNat, readBelow_eq_some_iff.mpr ⟨?_, bound.toNat_lt⟩, (fits bound.toNat_lt).mpr rfl⟩
    rw [dropEnds_eq_iff.mpr trims, readNatural_eq_some_iff]
    exact ⟨numeral, isWritten, valued⟩

theorem parted_iff {cs first second : List Char} :
    cs.takeWhile (· ≠ '-') = first ∧ cs.dropWhile (· ≠ '-') = '-' :: second ↔
      cs = first ++ '-' :: second ∧ '-' ∉ first := by
  constructor
  · rintro ⟨rfl, follows⟩
    refine ⟨?_, ?_⟩
    · rw [← follows, List.takeWhile_append_dropWhile]
    · intro member
      have notDash := List.all_eq_true.mp List.all_takeWhile _ member
      simp at notDash
  · rintro ⟨rfl, noDash⟩
    have ofFirst : ∀ c ∈ first, decide (c ≠ '-') = true := by
      intro c member
      exact decide_eq_true fun isDash => noDash (isDash ▸ member)
    have stops : ∀ c, ('-' :: second).head? = some c → decide (c ≠ '-') = false := by simp
    exact ⟨takeWhile_run ofFirst stops, dropWhile_run ofFirst stops⟩

theorem head_of_dropWhile {cs rest : List Char} {c : Char}
    (follows : cs.dropWhile (· ≠ '-') = c :: rest) : c = '-' := by
  have notDropped := List.head?_dropWhile_not (· ≠ '-') cs
  rw [follows] at notDropped
  simpa using notDropped

theorem readRange_eq_ok_iff {text : String} {least greatest : UInt32} :
    readRange text = .ok (least, greatest) ↔ WritesRange text least greatest := by
  rw [readRange_eq_ok, readRange?]
  constructor
  · intro read
    cases follows : text.toList.dropWhile (· ≠ '-') with
    | nil =>
        simp only [follows] at read
        cases read
    | cons c second =>
        cases head_of_dropWhile follows
        obtain ⟨whole, noDash⟩ := parted_iff.mp ⟨rfl, follows⟩
        simp only [follows, Option.bind_eq_bind, Option.bind_eq_some_iff,
          Option.ite_none_right_eq_some] at read
        obtain ⟨lower, readLower, upper, readUpper, ordered, same⟩ := read
        cases same
        exact ⟨⟨_, second, whole, noDash, readBound_eq_some_iff.mp readLower,
          readBound_eq_some_iff.mp readUpper⟩, ordered⟩
  · rintro ⟨⟨first, second, whole, noDash, lower, upper⟩, ordered⟩
    obtain ⟨isFirst, follows⟩ := parted_iff.mpr ⟨whole, noDash⟩
    simp only [isFirst, follows, readBound_eq_some_iff.mpr lower, readBound_eq_some_iff.mpr upper,
      Option.bind_eq_bind, Option.bind_some, ordered, if_true]

end Stackwright
