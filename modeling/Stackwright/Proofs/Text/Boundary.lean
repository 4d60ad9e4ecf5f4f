import Mathlib.Data.String.Basic
import Stackwright.Text.Boundary

/-!
What is cut off a text: the first bytes are those of its first characters.
-/

namespace Stackwright

open String (utf8Len)

variable {cs front : List Char} {n : Nat}

theorem firstBytes?_zero_iff :
    firstBytes? cs 0 = some front ↔ ∃ rest, cs = front ++ rest ∧ utf8Len front = 0 := by
  rw [firstBytes?]
  constructor
  · intro nothing
    cases nothing
    exact ⟨cs, rfl, rfl⟩
  · rintro ⟨rest, _, size⟩
    rw [String.utf8Len_eq_zero.mp size]

/-- A text is cut at `n` bytes just where its first characters take up `n` bytes. -/
theorem firstBytes?_eq_some_iff :
    firstBytes? cs n = some front ↔ ∃ rest, cs = front ++ rest ∧ utf8Len front = n := by
  induction cs generalizing n front with
  | nil =>
      cases n with
      | zero => exact firstBytes?_zero_iff
      | succ n =>
          rw [firstBytes?]
          constructor
          · intro found
            cases found
          · rintro ⟨rest, whole, size⟩
            obtain ⟨rfl, rfl⟩ := List.append_eq_nil_iff.mp whole.symm
            cases size
  | cons c cs ih =>
      cases n with
      | zero => exact firstBytes?_zero_iff
      | succ n =>
          rw [firstBytes?]
          constructor
          · intro found
            split at found
            · rename_i fits
              obtain ⟨start, foundRest, rfl⟩ := Option.map_eq_some_iff.mp found
              obtain ⟨rest, rfl, size⟩ := ih.mp foundRest
              refine ⟨rest, rfl, ?_⟩
              rw [String.utf8Len_cons, size]
              omega
            · cases found
          · rintro ⟨rest, whole, size⟩
            cases front with
            | nil => cases size
            | cons d start =>
                obtain ⟨rfl, rfl⟩ := List.cons.inj whole
                rw [String.utf8Len_cons] at size
                have fits : c.utf8Size ≤ n + 1 := by omega
                rw [if_pos fits, ih.mpr ⟨rest, rfl, by omega⟩]
                rfl

theorem length_le_utf8Len (cs : List Char) : cs.length ≤ utf8Len cs := by
  induction cs with
  | nil => exact Nat.le_refl 0
  | cons c cs ih =>
      have size := c.utf8Size_pos
      rw [String.utf8Len_cons, List.length_cons]
      omega

theorem utf8Len_of_oneByte (oneByte : ∀ c ∈ cs, c.utf8Size = 1) : utf8Len cs = cs.length := by
  induction cs with
  | nil => rfl
  | cons c cs ih =>
      rw [String.utf8Len_cons, List.length_cons, oneByte c List.mem_cons_self,
        ih fun d member => oneByte d (List.mem_cons_of_mem c member)]

end Stackwright
