/-!
Places in a text, counted in bytes, at which it can be cut.
-/

namespace Stackwright

/-- The characters of the first `n` bytes; none where these would end inside a character, or behind
the text. -/
def firstBytes? : List Char → Nat → Option (List Char)
  | _, 0 => some []
  | [], _ + 1 => none
  | c :: rest, n + 1 =>
    if c.utf8Size ≤ n + 1 then (firstBytes? rest (n + 1 - c.utf8Size)).map (c :: ·) else none

def isBoundary (cs : List Char) (n : Nat) : Bool := (firstBytes? cs n).isSome

/-- Goes back from `n`, byte by byte, to a boundary; none if that led to before the text. -/
def boundaryBefore? (cs : List Char) (n : Nat) : Option Nat :=
  if isBoundary cs n then some n
  else
    match n with
    | 0 => none
    | n + 1 => boundaryBefore? cs n

theorem isBoundary_zero (cs : List Char) : isBoundary cs 0 = true := by
  rw [isBoundary, firstBytes?]
  rfl

theorem exists_boundaryBefore (cs : List Char) (n : Nat) :
    ∃ k, boundaryBefore? cs n = some k ∧ k ≤ n ∧ isBoundary cs k = true := by
  induction n with
  | zero =>
      refine ⟨0, ?_, Nat.le_refl 0, isBoundary_zero cs⟩
      rw [boundaryBefore?, if_pos (isBoundary_zero cs)]
  | succ n ih =>
      by_cases here : isBoundary cs (n + 1) = true
      · refine ⟨n + 1, ?_, Nat.le_refl _, here⟩
        rw [boundaryBefore?, if_pos here]
      · obtain ⟨k, found, before, boundary⟩ := ih
        refine ⟨k, ?_, Nat.le_succ_of_le before, boundary⟩
        rw [boundaryBefore?, if_neg here]
        exact found

theorem firstBytes?_of_oneByte {cs : List Char} (oneByte : ∀ c ∈ cs, c.utf8Size = 1) {n : Nat}
    (within : n ≤ cs.length) : firstBytes? cs n = some (cs.take n) := by
  induction cs generalizing n with
  | nil =>
      cases Nat.le_zero.mp within
      rfl
  | cons c rest ih =>
      cases n with
      | zero => rfl
      | succ n =>
          have fits : c.utf8Size ≤ n + 1 := by
            rw [oneByte c List.mem_cons_self]
            exact Nat.succ_le_succ (Nat.zero_le n)
          have restOneByte : ∀ d ∈ rest, d.utf8Size = 1 :=
            fun d member => oneByte d (List.mem_cons_of_mem c member)
          rw [firstBytes?, if_pos fits, oneByte c List.mem_cons_self, Nat.add_sub_cancel,
            ih restOneByte (Nat.le_of_succ_le_succ within), List.take_succ_cons]
          rfl

end Stackwright
