import Stackwright.Dict
import Stackwright.Digest

/-!
The order of texts, which goes by code points, is the order of their UTF-8 bytes.
-/

namespace Stackwright

theorem toList_loop (bytes : ByteArray) (start : Nat) (read : List UInt8) :
    ByteArray.toList.loop bytes start read = read.reverse ++ bytes.data.toList.drop start := by
  fun_induction ByteArray.toList.loop bytes start read with
  | case1 start read within ih =>
      have listWithin : start < bytes.data.toList.length := by simpa using within
      have next : bytes.get! start = bytes.data.toList[start] := by
        have next! : bytes.get! start = bytes.data[start]! := rfl
        rw [next!, getElem!_pos bytes.data start within, Array.getElem_toList]
      rw [ih, next, List.drop_eq_getElem_cons listWithin, List.reverse_cons, List.append_assoc,
        List.singleton_append]
  | case2 start read beyond =>
      have beyondList : bytes.data.toList.length ≤ start := by simpa using Nat.le_of_not_lt beyond
      rw [List.drop_eq_nil_of_le beyondList, List.append_nil]

theorem textBytes_eq_flatMap (text : String) :
    textBytes text = text.toList.flatMap String.utf8EncodeChar := by
  have encoded : text.toByteArray = text.toList.utf8Encode := by
    rw [← String.toByteArray_ofList, String.ofList_toList]
  calc
    textBytes text = text.toByteArray.data.toList := by
      rw [textBytes, String.toUTF8, ByteArray.toList, toList_loop]
      rfl
    _ = text.toList.flatMap String.utf8EncodeChar := by
      rw [encoded, List.utf8Encode, List.toList_data_toByteArray]

/-- Bytes are compared as numbers, and what comes after them where they are the same. -/
theorem byte_cons_lt_iff {a b : Nat} (aSmall : a < 256) (bSmall : b < 256)
    {after afterToo : List UInt8} :
    UInt8.ofNat a :: after < UInt8.ofNat b :: afterToo ↔ a < b ∨ a = b ∧ after < afterToo := by
  rw [List.cons_lt_cons_iff, UInt8.lt_iff_toNat_lt, ← UInt8.toNat_inj, UInt8.toNat_ofNat',
    UInt8.toNat_ofNat', Nat.mod_eq_of_lt aSmall, Nat.mod_eq_of_lt bSmall]

theorem encodeChar_lt {c d : Char} (less : c < d) (after afterToo : List UInt8) :
    String.utf8EncodeChar c ++ after < String.utf8EncodeChar d ++ afterToo := by
  have lessCode : c.val.toNat < d.val.toNat := UInt32.lt_iff_toNat_lt.mp less
  have bound : d.val.toNat < 1114112 := by
    rcases d.valid with low | ⟨_, high⟩ <;> omega
  simp only [String.utf8EncodeChar]
  generalize c.val.toNat = v at *
  generalize d.val.toNat = w at *
  have digits : ∀ n : Nat, n / 4096 = n / 64 / 64 ∧ n / 262144 = n / 64 / 64 / 64 := by
    intro n
    constructor <;> simp only [Nat.div_div_eq_div_mul]
  -- the first byte tells how many follow, and more follow for greater codes; where as many follow,
  -- the bytes are the digits of the code
  repeat' split
  all_goals
    simp (disch := omega) only [List.cons_append, List.nil_append, byte_cons_lt_iff,
      (digits _).1, (digits _).2]
    omega

theorem flatMap_encodeChar_lt {cs ds : List Char} (less : cs < ds) :
    cs.flatMap String.utf8EncodeChar < ds.flatMap String.utf8EncodeChar := by
  induction less with
  | @nil d ds =>
      obtain ⟨byte, rest, encoded⟩ :=
        List.exists_cons_of_ne_nil (String.utf8EncodeChar_ne_nil (c := d))
      rw [List.flatMap_cons, encoded]
      exact List.nil_lt_cons _ _
  | rel lessHead =>
      rw [List.flatMap_cons, List.flatMap_cons]
      exact encodeChar_lt lessHead _ _
  | cons _ ih =>
      rw [List.flatMap_cons, List.flatMap_cons]
      exact List.append_left_lt ih

theorem textBytes_lt {a b : String} (less : a < b) : textBytes a < textBytes b := by
  rw [textBytes_eq_flatMap, textBytes_eq_flatMap]
  exact flatMap_encodeChar_lt (String.lt_iff.mp less)

theorem textBytes_lt_iff {a b : String} : textBytes a < textBytes b ↔ a < b := by
  refine ⟨?_, textBytes_lt⟩
  intro lessBytes
  apply Decidable.byContradiction
  intro notLess
  rcases Std.le_iff_lt_or_eq.mp (String.not_lt.mp notLess) with greater | rfl
  · exact List.lt_asymm lessBytes (textBytes_lt greater)
  · exact List.lt_irrefl _ lessBytes

end Stackwright
