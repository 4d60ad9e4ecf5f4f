import Stackwright.Duration
import Stackwright.Proofs.Codec.Faithful
import Stackwright.Proofs.Text.Natural
import Stackwright.Proofs.Text.Trimming

/-!
What texts denote durations. A text is read as the exact number of seconds that it denotes, and is
refused if it denotes none or one that does not fit 64 bits.
-/

namespace Stackwright

theorem isBlank_digit {c : Char} (isDigit : c.isDigit = true) : isBlank c = false := by
  have bounds : 48 ≤ c.toNat ∧ c.toNat ≤ 57 := by
    simp only [Char.isDigit, Bool.and_eq_true, decide_eq_true_eq] at isDigit
    exact isDigit
  simp [isBlank]
  omega

namespace Duration

inductive TimeUnit where
  | hours
  | minutes
  | seconds

namespace TimeUnit

def char : TimeUnit → Char
  | hours => 'h'
  | minutes => 'm'
  | seconds => 's'

def length : TimeUnit → Nat
  | hours => 3600
  | minutes => 60
  | seconds => 1

theorem char_notDigit (unit : TimeUnit) : unit.char.isDigit = false := by cases unit <;> rfl

theorem length_pos (unit : TimeUnit) : 0 < unit.length := by cases unit <;> decide

end TimeUnit

structure Group where
  number : Numeral
  unit : TimeUnit

namespace Group

def text (group : Group) : List Char := group.number.digits ++ [group.unit.char]

def seconds (group : Group) : Nat := group.number.value * group.unit.length

end Group

def totalSeconds : List Group → Nat
  | [] => 0
  | group :: rest => group.seconds + totalSeconds rest

/-- A text denotes a number of seconds, however great: bare seconds with or without a plus sign, or
the sum of one or more groups in any order. -/
inductive Denotes : List Char → Nat → Prop where
  | bare (numeral : Numeral) : Denotes numeral.digits numeral.value
  | signed (numeral : Numeral) : Denotes ('+' :: numeral.digits) numeral.value
  | grouped (groups : List Group) (present : groups ≠ []) :
    Denotes (groups.flatMap Group.text) (totalSeconds groups)

variable {c : Char} {cs digits rest : List Char} {a b result sum total : UInt64}

theorem unitSeconds_eq_some_iff :
    unitSeconds c = some result ↔ ∃ unit : TimeUnit, c = unit.char ∧ unit.length = result.toNat := by
  constructor
  · intro isUnit
    unfold unitSeconds at isUnit
    split at isUnit
    · exact ⟨.hours, rfl, congrArg UInt64.toNat (Option.some.inj isUnit)⟩
    · exact ⟨.minutes, rfl, congrArg UInt64.toNat (Option.some.inj isUnit)⟩
    · exact ⟨.seconds, rfl, congrArg UInt64.toNat (Option.some.inj isUnit)⟩
    · cases isUnit
  · rintro ⟨unit, rfl, counts⟩
    cases unit <;> exact congrArg some (UInt64.toNat_inj.mp counts)

theorem readWord_eq_some_iff : readWord cs = some result ↔ readNatural cs = some result.toNat := by
  rw [readWord, Option.map_eq_some_iff]
  constructor
  · rintro ⟨n, read, rfl⟩
    obtain ⟨isNatural, fits⟩ := readBelow_eq_some_iff.mp read
    rw [UInt64.toNat_ofNat_of_lt' fits]
    exact isNatural
  · intro isNatural
    exact ⟨result.toNat, readBelow_eq_some_iff.mpr ⟨isNatural, result.toNat_lt⟩,
      UInt64.ofNat_toNat⟩

theorem guarded_eq_some_iff {word : UInt64} {n : Nat} (wraps : word.toNat = n % UInt64.size) :
    (if n < UInt64.size then some word else none) = some result ↔ n = result.toNat := by
  constructor
  · intro guarded
    split at guarded
    · rename_i fits
      cases guarded
      rw [wraps, Nat.mod_eq_of_lt fits]
    · cases guarded
  · intro equal
    have fits : n < UInt64.size := equal ▸ result.toNat_lt
    rw [if_pos fits, Option.some.injEq, ← UInt64.toNat_inj, wraps, Nat.mod_eq_of_lt fits]
    exact equal

theorem times?_eq_some_iff : times? a b = some result ↔ a.toNat * b.toNat = result.toNat :=
  guarded_eq_some_iff (UInt64.toNat_mul a b)

theorem plus?_eq_some_iff : plus? a b = some result ↔ a.toNat + b.toNat = result.toNat :=
  guarded_eq_some_iff (UInt64.toNat_add a b)

theorem readWord_digits_iff (areDigits : ∀ d ∈ digits, d.isDigit = true) :
    readWord digits = some result ↔
      ∃ numeral : Numeral, digits = numeral.digits ∧ numeral.value = result.toNat := by
  rw [readWord_eq_some_iff, readNatural_eq_some_iff]
  constructor
  · rintro ⟨numeral, unsigned | signed, valued⟩
    · exact ⟨numeral, unsigned, valued⟩
    · have isDigit := areDigits '+' (by rw [signed]; exact List.mem_cons_self)
      cases isDigit
  · rintro ⟨numeral, same, valued⟩
    exact ⟨numeral, Or.inl same, valued⟩

/-- A character behind the digits closes a group, whose seconds are added. If the new sum fits 64
bits, so do the number and its seconds, since neither exceeds it. -/
theorem scan_unit_iff (areDigits : ∀ d ∈ digits, d.isDigit = true) (notDigit : c.isDigit = false) :
    scan sum digits (c :: rest) = some total ↔
      ∃ (group : Group) (next : UInt64), digits ++ [c] = group.text ∧
        sum.toNat + group.seconds = next.toNat ∧ scan next [] rest = some total := by
  rw [scan, notDigit]
  simp only [Bool.false_eq_true, if_false, Option.bind_eq_bind, Option.bind_eq_some_iff,
    unitSeconds_eq_some_iff, readWord_digits_iff areDigits, times?_eq_some_iff, plus?_eq_some_iff]
  constructor
  · rintro ⟨factor, ⟨unit, rfl, counts⟩, number, ⟨numeral, rfl, valued⟩, product, multiplied, next,
      added, scanned⟩
    refine ⟨⟨numeral, unit⟩, next, rfl, ?_, scanned⟩
    rw [Group.seconds, valued, counts, multiplied, added]
  · rintro ⟨⟨numeral, unit⟩, next, written, added, scanned⟩
    obtain ⟨rfl, closing⟩ := List.append_inj' written rfl
    have secondsFit : numeral.value * unit.length < UInt64.size :=
      Nat.lt_of_le_of_lt (added ▸ Nat.le_add_left _ _) next.toNat_lt
    have numberFits : numeral.value < UInt64.size :=
      Nat.lt_of_le_of_lt (Nat.le_mul_of_pos_right _ unit.length_pos) secondsFit
    have lengthFits : unit.length < UInt64.size := by cases unit <;> decide
    refine ⟨UInt64.ofNat unit.length, ⟨unit, List.singleton_inj.mp closing, ?_⟩,
      UInt64.ofNat numeral.value, ⟨numeral, rfl, ?_⟩,
      UInt64.ofNat (numeral.value * unit.length), ?_, next, ?_, scanned⟩
    · rw [UInt64.toNat_ofNat_of_lt' lengthFits]
    · rw [UInt64.toNat_ofNat_of_lt' numberFits]
    · rw [UInt64.toNat_ofNat_of_lt' lengthFits, UInt64.toNat_ofNat_of_lt' numberFits,
        UInt64.toNat_ofNat_of_lt' secondsFit]
    · rw [UInt64.toNat_ofNat_of_lt' secondsFit]
      exact added

theorem takeWhile_digits (areDigits : ∀ d ∈ digits, d.isDigit = true) (notDigit : c.isDigit = false) :
    (digits ++ c :: rest).takeWhile Char.isDigit = digits := by
  rw [List.takeWhile_append_of_pos areDigits, List.takeWhile_cons_of_neg (by simp [notDigit]),
    List.append_nil]

theorem group_of_digits {group : Group} {others : List Char}
    (areDigits : ∀ d ∈ digits, d.isDigit = true) (notDigit : c.isDigit = false)
    (written : digits ++ c :: rest = group.text ++ others) :
    digits ++ [c] = group.text ∧ rest = others := by
  have asGroup : group.text ++ others = group.number.digits ++ group.unit.char :: others := by
    simp [Group.text]
  have sameDigits : digits = group.number.digits := by
    calc
      digits = (digits ++ c :: rest).takeWhile Char.isDigit :=
        (takeWhile_digits areDigits notDigit).symm
      _ = (group.number.digits ++ group.unit.char :: others).takeWhile Char.isDigit := by
        rw [written, asGroup]
      _ = group.number.digits :=
        takeWhile_digits group.number.areDigits group.unit.char_notDigit
  rw [asGroup, ← sameDigits] at written
  obtain ⟨sameUnit, sameRest⟩ := List.cons.inj (List.append_cancel_left written)
  rw [Group.text, ← sameDigits, sameUnit]
  exact ⟨rfl, sameRest⟩

theorem unit_mem_groups {groups : List Group} (present : groups ≠ []) :
    ∃ unit : TimeUnit, unit.char ∈ groups.flatMap Group.text := by
  cases groups with
  | nil => exact absurd rfl present
  | cons group others => exact ⟨group.unit, by simp [Group.text]⟩

theorem unit_notMem_word {unit : TimeUnit} (word : readWord cs = some result) :
    unit.char ∉ cs := by
  obtain ⟨numeral, written, _⟩ := readNatural_eq_some_iff.mp (readWord_eq_some_iff.mp word)
  have notDigit : unit.char ∉ numeral.digits := by
    intro member
    have isDigit := numeral.areDigits _ member
    rw [unit.char_notDigit] at isDigit
    cases isDigit
  rcases written with rfl | rfl
  · exact notDigit
  · intro member
    rcases List.mem_cons.mp member with isSign | inside
    · cases unit <;> cases isSign
    · exact notDigit inside

/-- The scan goes through just the texts of groups, and adds up their seconds exactly. The induction
is on the text, for any sum and any digits that were read before. -/
theorem scan_eq_some_iff (areDigits : ∀ d ∈ digits, d.isDigit = true) :
    scan sum digits cs = some total ↔
      ∃ groups : List Group, digits ++ cs = groups.flatMap Group.text ∧
        sum.toNat + totalSeconds groups = total.toNat := by
  induction cs generalizing sum digits with
  | nil =>
      rw [scan, List.append_nil]
      constructor
      · intro ended
        split at ended
        · rename_i nothing
          cases ended
          exact ⟨[], nothing, rfl⟩
        · cases ended
      · rintro ⟨groups, written, added⟩
        have noGroups : groups = [] := by
          by_contra present
          obtain ⟨unit, member⟩ := unit_mem_groups present
          have isDigit := areDigits unit.char (written ▸ member)
          rw [unit.char_notDigit] at isDigit
          cases isDigit
        subst noGroups
        have nothing : digits = [] := written
        rw [if_pos nothing, Option.some.injEq, ← UInt64.toNat_inj]
        exact added
  | cons c rest ih =>
      cases isDigit : c.isDigit with
      | true =>
          have areDigitsNow : ∀ d ∈ digits ++ [c], d.isDigit = true := by
            intro d member
            rcases List.mem_append.mp member with before | last
            · exact areDigits d before
            · rw [List.mem_singleton.mp last]
              exact isDigit
          rw [scan, if_pos isDigit, ih areDigitsNow, List.append_assoc, List.singleton_append]
      | false =>
          rw [scan_unit_iff areDigits isDigit]
          constructor
          · rintro ⟨group, next, written, added, scanned⟩
            obtain ⟨groups, writtenRest, addedRest⟩ := (ih (by simp)).mp scanned
            refine ⟨group :: groups, ?_, ?_⟩
            · calc
                digits ++ c :: rest = (digits ++ [c]) ++ rest := by simp
                _ = group.text ++ groups.flatMap Group.text := by rw [written, ← writtenRest]; rfl
            · rw [totalSeconds, ← addedRest, ← added]
              omega
          -- what is written comes apart behind `c`, which closes the first of the groups
          · rintro ⟨groups, written, added⟩
            cases groups with
            | nil => simp at written
            | cons group groups =>
                have splits := written.trans (List.flatMap_cons ..)
                obtain ⟨closed, left⟩ := group_of_digits areDigits isDigit splits
                rw [totalSeconds] at added
                have within : sum.toNat + group.seconds ≤ total.toNat := by omega
                have fits : sum.toNat + group.seconds < UInt64.size :=
                  Nat.lt_of_le_of_lt within total.toNat_lt
                have nextIs := UInt64.toNat_ofNat_of_lt' fits
                refine ⟨group, UInt64.ofNat (sum.toNat + group.seconds), closed, nextIs.symm, ?_⟩
                rw [ih (by simp), nextIs]
                exact ⟨groups, left, by omega⟩

theorem scan_zero_iff : scan 0 [] cs = some total ↔
    ∃ groups : List Group, cs = groups.flatMap Group.text ∧ totalSeconds groups = total.toNat := by
  rw [scan_eq_some_iff (by simp)]
  simp

theorem readWord_groups {groups : List Group} (present : groups ≠ []) :
    readWord (groups.flatMap Group.text) = none := by
  obtain ⟨unit, member⟩ := unit_mem_groups present
  cases word : readWord (groups.flatMap Group.text) with
  | none => rfl
  | some bare => exact absurd member (unit_notMem_word word)

theorem seconds?_eq_some_iff : seconds? cs = some total ↔ Denotes cs total.toNat := by
  rw [seconds?]
  constructor
  · intro read
    split at read
    · cases read
    · rename_i present
      cases word : readWord cs with
      | some bare =>
          rw [word] at read
          cases read
          obtain ⟨numeral, written, valued⟩ :=
            readNatural_eq_some_iff.mp (readWord_eq_some_iff.mp word)
          rw [← valued]
          rcases written with rfl | rfl
          · exact .bare numeral
          · exact .signed numeral
      | none =>
          rw [word] at read
          obtain ⟨groups, rfl, added⟩ := scan_zero_iff.mp read
          rw [← added]
          refine .grouped groups ?_
          rintro rfl
          exact present rfl
  · intro denoted
    generalize totalIs : total.toNat = n at denoted
    have readsBare : ∀ {numeral : Numeral}, (cs = numeral.digits ∨ cs = '+' :: numeral.digits) →
        numeral.value = total.toNat → readWord cs = some total := fun written valued =>
      readWord_eq_some_iff.mpr (readNatural_eq_some_iff.mpr ⟨_, written, valued⟩)
    cases denoted with
    | bare numeral =>
        rw [if_neg numeral.present, readsBare (Or.inl rfl) totalIs.symm]
        rfl
    | signed numeral =>
        rw [if_neg (List.cons_ne_nil _ _), readsBare (Or.inr rfl) totalIs.symm]
        rfl
    | grouped groups present =>
        obtain ⟨unit, member⟩ := unit_mem_groups present
        rw [if_neg (List.ne_nil_of_mem member), readWord_groups present]
        exact scan_zero_iff.mpr ⟨groups, rfl, totalIs.symm⟩

theorem parse_eq_ok_iff {text : String} {d : Duration} :
    parse text = .ok d ↔ Denotes (trim text).toList d.seconds.toNat := by
  rw [← seconds?_eq_some_iff, parse]
  cases seconds? (trim text).toList with
  | none => exact ⟨nofun, nofun⟩
  | some seconds =>
      rw [Except.ok.injEq, Option.some.injEq]
      exact ⟨congrArg Duration.seconds, congrArg Duration.mk⟩

theorem parse_eq_error_iff {text : String} {e : InvalidDuration} :
    parse text = .error e ↔
      e = ⟨trim text⟩ ∧ ¬ ∃ n < UInt64.size, Denotes (trim text).toList n := by
  have fitting : (∃ n < UInt64.size, Denotes (trim text).toList n) ↔ ∃ d, parse text = .ok d := by
    constructor
    · rintro ⟨n, fits, denoted⟩
      refine ⟨⟨UInt64.ofNat n⟩, parse_eq_ok_iff.mpr ?_⟩
      rw [UInt64.toNat_ofNat_of_lt' fits]
      exact denoted
    · rintro ⟨d, read⟩
      exact ⟨d.seconds.toNat, d.seconds.toNat_lt, parse_eq_ok_iff.mp read⟩
  rw [fitting, parse]
  cases seconds? (trim text).toList with
  | none => simp [eq_comm]
  | some seconds => simp

theorem parse_display (d : Duration) : parse d.display = .ok d := by
  let group : Group := ⟨.ofNat d.seconds.toNat, .seconds⟩
  have shown : d.display.toList = group.text := by
    rw [display, String.toList_append, Nat.toString_eq_ofList_toDigits, String.toList_ofList]
    rfl
  have noBlank : ∀ c ∈ group.text, isBlank c = false := by
    intro c member
    rcases List.mem_append.mp member with digit | unit
    · exact isBlank_digit (group.number.areDigits c digit)
    · cases List.mem_singleton.mp unit
      rfl
  have trimmed : (trim d.display).toList = [group].flatMap Group.text := by
    rw [trim, String.toList_ofList, shown, dropEnds_of_none noBlank, List.flatMap_singleton]
  have total : totalSeconds [group] = d.seconds.toNat := by
    simp [totalSeconds, group, Group.seconds, Numeral.value_ofNat, TimeUnit.length]
  rw [parse_eq_ok_iff, trimmed, ← total]
  exact .grouped [group] (List.cons_ne_nil _ _)

theorem codec_faithful : Duration.codec.Faithful := by
  refine ⟨?_, nofun⟩
  intro d
  have reads : codec.read (codec.write d) =
      (parse d.display).mapError fun e => .duration e.text := by rw [codec]
  rw [Codec.ReadsBack, reads, parse_display, mapError_ok]

/-- A text is read as the exact number of seconds that it denotes without the blanks around it. One
that denotes none, or none of 64 bits, is refused, and the refusal tells it. What a duration is
displayed as, and what is written for it, is read as the same duration. -/
theorem parse_exact :
    (∀ text d, parse text = .ok d ↔ Denotes (trim text).toList d.seconds.toNat) ∧
    (∀ text e, parse text = .error e ↔
      e = ⟨trim text⟩ ∧ ¬ ∃ n < UInt64.size, Denotes (trim text).toList n) ∧
    ∀ d : Duration, d.display = toString d.seconds.toNat ++ "s" ∧ parse d.display = .ok d ∧
      codec.read (codec.write d) = .ok d :=
  ⟨fun _ _ => parse_eq_ok_iff, fun _ _ => parse_eq_error_iff,
    fun d => ⟨rfl, parse_display d, codec_faithful.back d⟩⟩

end Duration

end Stackwright
