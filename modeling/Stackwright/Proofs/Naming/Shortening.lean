import Stackwright.Naming
import Stackwright.Proofs.Text.Boundary
import Stackwright.Proofs.Text.Trimming

/-!
Shortened names: every name can be brought below every limit, and what it becomes then ends in digits
of its digest.
-/

namespace Stackwright

open String (utf8Len)

variable {name : String} {limit : Nat}

def nameDigits (name : String) (limit : Nat) : List Char := (nameDigest name).take (min 8 limit)

theorem length_nameDigits (name : String) (limit : Nat) :
    (nameDigits name limit).length = min 8 limit := by
  rw [nameDigits, List.length_take, length_nameDigest]
  omega

theorem utf8Len_nameDigits (name : String) (limit : Nat) :
    utf8Len (nameDigits name limit) = min 8 limit := by
  have oneByte : ∀ c ∈ nameDigits name limit, c.utf8Size = 1 :=
    fun c member => nameDigest_oneByte name c (List.mem_of_mem_take member)
  rw [utf8Len_of_oneByte oneByte, length_nameDigits]

theorem mem_hexAlphabet_of_nameDigits {c : Char} (member : c ∈ nameDigits name limit) :
    c ∈ hexAlphabet :=
  mem_hexAlphabet (List.mem_of_mem_take member)

/-- What becomes of a name that is too long: the digits alone, or a start of the name that ends in no
dash, a dash and the digits. -/
inductive Shortened (name : String) (limit : Nat) : String → Prop where
  | digits : Shortened name limit (String.ofList (nameDigits name limit))
  | start (head rest : List Char) (whole : name.toList = head ++ rest) (present : head ≠ [])
    (noDash : head.getLast? ≠ some '-') :
    Shortened name limit (String.ofList (head ++ '-' :: nameDigits name limit))

theorem shorten?_eq (name : String) (limit : Nat) :
    shorten? name limit = some (shorten name limit) :=
  (Option.some_get _).symm

theorem shorten_of_fits (fits : name.utf8ByteSize ≤ limit) : shorten name limit = name := by
  have short := shorten?_eq name limit
  rw [shorten?, if_pos fits] at short
  exact (Option.some.inj short).symm

theorem exists_head (tooLong : limit < name.utf8ByteSize) :
    ∃ head rest, name.toList = head ++ rest ∧ head.getLast? ≠ some '-' ∧
      utf8Len head ≤ limit - (min 8 limit + 1) ∧
      shorten name limit = String.ofList
        (if head = [] then nameDigits name limit else head ++ '-' :: nameDigits name limit) := by
  have short := shorten?_eq name limit
  have asDigits : (nameDigest name).take (min nameDigestLength limit) = nameDigits name limit := rfl
  rw [shorten?, if_neg (Nat.not_le.mpr tooLong), firstBytes?_nameDigest, asDigits,
    Option.bind_eq_bind, Option.bind_some, length_nameDigits] at short
  obtain ⟨cut, found, before, _⟩ :=
    exists_boundaryBefore name.toList (limit - (min 8 limit + 1))
  rw [found, Option.bind_eq_bind, Option.bind_some, Option.bind_eq_some_iff] at short
  obtain ⟨start, started, shortIs⟩ := short
  obtain ⟨rest, whole, size⟩ := firstBytes?_eq_some_iff.mp started
  obtain ⟨run, startIs, _⟩ := dropEnd_append_run (· == '-') start
  have kept : utf8Len (dropEnd (· == '-') start) ≤ utf8Len start := by
    calc
      utf8Len (dropEnd (· == '-') start) ≤ utf8Len (dropEnd (· == '-') start ++ run) := by
        rw [String.utf8Len_append]
        exact Nat.le_add_right _ _
      _ = utf8Len start := by rw [← startIs]
  refine ⟨dropEnd (· == '-') start, run ++ rest, ?_, ?_, by omega, (Option.some.inj shortIs).symm⟩
  · rw [whole, ← List.append_assoc, ← startIs]
  · intro last
    cases getLast?_dropEnd _ _ last

theorem shorten_shortened (tooLong : limit < name.utf8ByteSize) :
    Shortened name limit (shorten name limit) := by
  obtain ⟨head, rest, whole, noDash, _, short⟩ := exists_head tooLong
  rw [short]
  split
  · exact .digits
  · rename_i present
    exact .start head rest whole present noDash

/-- Nothing of a name is kept in nine bytes or fewer, where the digits leave no room for it. -/
theorem shorten_eq_digits (narrow : limit ≤ 9) (tooLong : limit < name.utf8ByteSize) :
    shorten name limit = String.ofList (nameDigits name limit) := by
  obtain ⟨head, _, _, _, room, short⟩ := exists_head tooLong
  have nothing : head = [] := String.utf8Len_eq_zero.mp (by omega)
  rw [short, if_pos nothing]

theorem shorten_le (name : String) (limit : Nat) : (shorten name limit).utf8ByteSize ≤ limit := by
  by_cases fits : name.utf8ByteSize ≤ limit
  · rw [shorten_of_fits fits]
    exact fits
  · obtain ⟨head, _, _, _, room, short⟩ := exists_head (Nat.lt_of_not_le fits)
    rw [short, String.utf8ByteSize_ofList]
    split
    · rw [utf8Len_nameDigits]
      exact Nat.min_le_right _ _
    · rename_i present
      have kept : 0 < utf8Len head :=
        Nat.lt_of_lt_of_le (List.length_pos_iff.mpr present) (length_le_utf8Len head)
      have dash : '-'.utf8Size = 1 := rfl
      rw [String.utf8Len_append, String.utf8Len_cons, utf8Len_nameDigits, dash]
      omega

end Stackwright
