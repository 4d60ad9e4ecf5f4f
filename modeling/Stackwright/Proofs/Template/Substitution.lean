import Stackwright.Proofs.Template.Closed

/-!
What patterns come to: the names in them are replaced by their values. A text that is put into a
pattern keeps its characters just if no part of it is read as a name.
-/

namespace Stackwright

def PatternState.pending : PatternState → List Char
  | .outside => []
  | .dollar => ['$']
  | .inside read => '$' :: '\x7b' :: read

/-- What stands for a name that was read: its value, or behind an exclamation mark the name as it
is written without the mark. -/
def nameText? (value? : String → Option String) : List Char → Option (List Char)
  | '!' :: literal => some ('$' :: '\x7b' :: (literal ++ ['\x7d']))
  | name => (value? (String.ofList name)).map String.toList

def PatternState.closing? : PatternState → Char → Option (List Char)
  | .inside read, c => if c = '\x7d' then some read else none
  | _, _ => none

def PatternState.advance (state : PatternState) (c : Char) : List Char × PatternState :=
  match state with
  | .outside => if c = '$' then ([], .dollar) else ([c], .outside)
  | .dollar =>
    if c = '\x7b' then ([], .inside [])
    else if c = '$' then (['$'], .dollar)
    else (['$', c], .outside)
  | .inside read => ([], .inside (read ++ [c]))

/-- What is put out for the rest of a pattern; nothing if a name has no value. A name that does not
end is text. -/
def fillFrom? (value? : String → Option String) (state : PatternState) :
    List Char → Option (List Char)
  | [] => some state.pending
  | c :: rest =>
    match state.closing? c with
    | some name =>
      (nameText? value? name).bind fun text =>
        (fillFrom? value? .outside rest).map fun filled => text ++ filled
    | none =>
      (fillFrom? value? (state.advance c).2 rest).map fun filled => (state.advance c).1 ++ filled

def patternText? (value? : String → Option String) (pattern : String) : Option String :=
  (fillFrom? value? .outside pattern.toList).map String.ofList

def Expr.filled? (value? : String → Option String) : Expr → Option String
  | .text value => some value
  | .substitute pattern => patternText? value? pattern
  | _ => none

def Expr.comesTo? (value? : String → Option String) : Expr → Option String
  | .substitute pattern => patternText? value? pattern
  | other => other.evaluate? value?

def HoldsPlaceholder (cs : List Char) : Prop :=
  ∃ before name after, cs = before ++ '$' :: '\x7b' :: (name ++ '\x7d' :: after)

def isMark (c : Char) : Bool := c = '$' ∨ c = '!'

def marks (cs : List Char) : Nat := cs.countP isMark

@[simp] theorem marks_nil : marks [] = 0 := rfl

@[simp] theorem marks_append (first second : List Char) :
    marks (first ++ second) = marks first + marks second :=
  List.countP_append

@[simp] theorem marks_cons (c : Char) (cs : List Char) :
    marks (c :: cs) = marks cs + if isMark c then 1 else 0 :=
  List.countP_cons

/-- The values hold no characters that placeholders are told by. -/
def PlainValues (value? : String → Option String) : Prop :=
  ∀ name value, value? name = some value → marks value.toList = 0

section

variable {value? : String → Option String} {state : PatternState} {c : Char}
  {cs rest out filled name : List Char}

theorem holdsPlaceholder_append (before : List Char) (held : HoldsPlaceholder cs) :
    HoldsPlaceholder (before ++ cs) := by
  obtain ⟨start, name, after, rfl⟩ := held
  exact ⟨before ++ start, name, after, (List.append_assoc before start _).symm⟩

theorem holdsPlaceholder_of_cons (held : HoldsPlaceholder (c :: cs))
    (elsewhere : c = '$' → cs.head? ≠ some '\x7b') : HoldsPlaceholder cs := by
  obtain ⟨before, name, after, parted⟩ := held
  cases before with
  | nil =>
      obtain ⟨isDollar, follows⟩ := List.cons_eq_cons.mp parted
      exact absurd (congrArg List.head? follows) (elsewhere isDollar)
  | cons first before =>
      exact ⟨before, name, after, (List.cons_eq_cons.mp parted).2⟩

theorem mem_of_holdsPlaceholder (held : HoldsPlaceholder cs) : '$' ∈ cs ∧ '\x7d' ∈ cs := by
  obtain ⟨before, name, after, rfl⟩ := held
  simp

namespace PatternState

theorem advance_keeps (state : PatternState) (c : Char) :
    (state.advance c).1 ++ (state.advance c).2.pending = state.pending ++ [c] := by
  cases state with
  | outside => by_cases dollar : c = '$' <;> simp [advance, pending, dollar]
  | dollar =>
      by_cases brace : c = '\x7b'
      · simp [advance, pending, brace]
      · by_cases dollar : c = '$' <;> simp [advance, pending, brace, dollar]
  | inside read => simp [advance, pending]

theorem advance_keeps_rest (state : PatternState) (c : Char) (rest : List Char) :
    (state.advance c).1 ++ ((state.advance c).2.pending ++ rest) = state.pending ++ c :: rest := by
  rw [← List.append_assoc, advance_keeps, List.append_assoc, List.singleton_append]

theorem closing?_eq_some_iff : state.closing? c = some name ↔
    state = .inside name ∧ c = '\x7d' := by
  cases state with
  | outside => simp [closing?]
  | dollar => simp [closing?]
  | inside read =>
      simp only [closing?, Option.ite_none_right_eq_some, Option.some.injEq, inside.injEq]
      exact and_comm

theorem advance_unclosed (isOpen : state.closing? c = none) (unclosed : '\x7d' ∉ state.pending) :
    '\x7d' ∉ (state.advance c).2.pending := by
  cases state with
  | outside => by_cases dollar : c = '$' <;> simp [advance, pending, dollar]
  | dollar =>
      by_cases brace : c = '\x7b'
      · simp [advance, pending, brace]
      · by_cases dollar : c = '$' <;> simp [advance, pending, brace, dollar]
  | inside read =>
      have notBrace : c ≠ '\x7d' := by simpa [closing?] using isOpen
      simpa [advance, pending, notBrace.symm] using unclosed

theorem holdsPlaceholder_advance (isOpen : state.closing? c = none)
    (held : HoldsPlaceholder (state.pending ++ c :: rest)) :
    HoldsPlaceholder ((state.advance c).2.pending ++ rest) := by
  cases state with
  | outside =>
      by_cases dollar : c = '$'
      · simpa [advance, pending, dollar] using held
      · simp only [advance, dollar, if_false]
        exact holdsPlaceholder_of_cons held fun isDollar => absurd isDollar dollar
  | dollar =>
      by_cases brace : c = '\x7b'
      · simpa [advance, pending, brace] using held
      · have behind : HoldsPlaceholder (c :: rest) :=
          holdsPlaceholder_of_cons held fun _ follows => brace (Option.some.inj follows)
        by_cases dollar : c = '$'
        · simpa [advance, pending, brace, dollar] using behind
        · simp only [advance, brace, dollar, if_false]
          exact holdsPlaceholder_of_cons behind fun isDollar => absurd isDollar dollar
  | inside read => simpa [advance, pending] using held

end PatternState

theorem nameText?_isSome_iff :
    (nameText? value? name).isSome ↔ ∀ known ∈ nameRead name, (value? known).isSome := by
  unfold nameText? nameRead
  split
  · simp
  · rename_i noMark
    have named : name.head? ≠ some '!' := by
      intro marked
      obtain ⟨literal, rfl⟩ := List.head?_eq_some_iff.mp marked
      exact noMark literal rfl
    simp [named]

theorem PatternState.namesFrom_advance (isOpen : state.closing? c = none) :
    namesFrom state (c :: rest) = namesFrom (state.advance c).2 rest := by
  cases state with
  | outside => by_cases dollar : c = '$' <;> simp [namesFrom, advance, dollar]
  | dollar =>
      by_cases brace : c = '\x7b'
      · simp [namesFrom, advance, brace]
      · by_cases dollar : c = '$' <;> simp [namesFrom, advance, brace, dollar]
  | inside read =>
      have notBrace : c ≠ '\x7d' := by simpa [closing?] using isOpen
      simp [namesFrom, advance, notBrace]

theorem fillFrom?_isSome_iff :
    (fillFrom? value? state cs).isSome ↔ ∀ name ∈ namesFrom state cs, (value? name).isSome := by
  induction cs generalizing state with
  | nil => simp [fillFrom?, namesFrom]
  | cons c rest ih =>
      rw [fillFrom?]
      cases closed : state.closing? c with
      | none => simp only [Option.isSome_map, ih, PatternState.namesFrom_advance closed]
      | some name =>
          obtain ⟨rfl, rfl⟩ := PatternState.closing?_eq_some_iff.mp closed
          have names : namesFrom (.inside name) ('\x7d' :: rest) =
              nameRead name ++ namesFrom .outside rest := by simp [namesFrom]
          rw [names, List.forall_mem_append, ← nameText?_isSome_iff, ← ih]
          dsimp only
          cases nameText? value? name <;> simp

theorem fillFrom?_of_literal (literal : ¬ HoldsPlaceholder (state.pending ++ cs)) :
    fillFrom? value? state cs = some (state.pending ++ cs) := by
  induction cs generalizing state with
  | nil => rw [fillFrom?, List.append_nil]
  | cons c rest ih =>
      rw [fillFrom?]
      cases closed : state.closing? c with
      | some name =>
          obtain ⟨rfl, rfl⟩ := PatternState.closing?_eq_some_iff.mp closed
          exact absurd ⟨[], name, rest, rfl⟩ literal
      | none =>
          have kept := state.advance_keeps_rest c rest
          have ahead : ¬ HoldsPlaceholder ((state.advance c).2.pending ++ rest) := by
            intro held
            exact literal (kept ▸ holdsPlaceholder_append _ held)
          simp only [ih ahead, Option.map_some, kept]

theorem marks_nameText (plain : PlainValues value?) (named : nameText? value? name = some out) :
    marks out < marks ('$' :: '\x7b' :: (name ++ ['\x7d'])) := by
  have dollar : isMark '$' = true := rfl
  unfold nameText? at named
  split at named
  · cases named
    have mark : isMark '!' = true := rfl
    simp [dollar, mark]
  · obtain ⟨value, valued, rfl⟩ := Option.map_eq_some_iff.mp named
    simp [plain _ value valued, dollar]

/-- Filling a pattern with plain values loses a mark where it holds a placeholder, and never gains
one. -/
theorem marks_fillFrom (plain : PlainValues value?) (unclosed : '\x7d' ∉ state.pending)
    (isFilled : fillFrom? value? state cs = some filled) :
    marks filled ≤ marks (state.pending ++ cs) ∧
      (HoldsPlaceholder (state.pending ++ cs) → marks filled < marks (state.pending ++ cs)) := by
  -- on the pattern, from any state: a name that ends loses its dollar sign, all else is kept
  induction cs generalizing state filled with
  | nil =>
      rw [fillFrom?] at isFilled
      cases isFilled
      rw [List.append_nil]
      exact ⟨Nat.le_refl _, fun held => absurd (mem_of_holdsPlaceholder held).2 unclosed⟩
  | cons c rest ih =>
      rw [fillFrom?] at isFilled
      cases closed : state.closing? c with
      | some name =>
          obtain ⟨rfl, rfl⟩ := PatternState.closing?_eq_some_iff.mp closed
          simp only [closed, Option.bind_eq_some_iff, Option.map_eq_some_iff] at isFilled
          obtain ⟨text, named, after, isAfter, rfl⟩ := isFilled
          have fewer := marks_nameText plain named
          have outside : '\x7d' ∉ PatternState.outside.pending := List.not_mem_nil
          have notMore := (ih outside isAfter).1
          simp only [PatternState.pending, List.nil_append, List.cons_append, marks_append,
            marks_cons, marks_nil] at fewer notMore ⊢
          omega
      | none =>
          simp only [closed, Option.map_eq_some_iff] at isFilled
          obtain ⟨ahead, isAhead, rfl⟩ := isFilled
          obtain ⟨notMore, fewer⟩ := ih (PatternState.advance_unclosed closed unclosed) isAhead
          rw [← state.advance_keeps_rest c rest, marks_append, marks_append]
          refine ⟨Nat.add_le_add_left notMore _, ?_⟩
          intro held
          rw [state.advance_keeps_rest] at held
          exact Nat.add_lt_add_left (fewer (PatternState.holdsPlaceholder_advance closed held)) _

/-- With plain values, a text in a pattern stays what it is just if it holds no placeholder. -/
theorem fillFrom?_eq_self_iff (plain : PlainValues value?) :
    fillFrom? value? .outside cs = some cs ↔ ¬ HoldsPlaceholder cs := by
  constructor
  · intro same held
    have fewer := (marks_fillFrom plain List.not_mem_nil same).2 held
    exact Nat.lt_irrefl _ fewer
  · intro literal
    have atStart : ¬ HoldsPlaceholder (PatternState.outside.pending ++ cs) := literal
    exact fillFrom?_of_literal atStart

theorem fillFrom?_text_append {text : List Char} (noDollar : '$' ∉ text) :
    fillFrom? value? .outside (text ++ rest) =
      (fillFrom? value? .outside rest).map fun filled => text ++ filled := by
  induction text with
  | nil => simp
  | cons c text ih =>
      obtain ⟨different, behind⟩ := List.ne_and_not_mem_of_not_mem_cons noDollar
      simp [fillFrom?, PatternState.closing?, PatternState.advance, different.symm, ih behind,
        Function.comp_def]

theorem fillFrom?_inside {read : List Char} (unclosed : '\x7d' ∉ name) :
    fillFrom? value? (.inside read) (name ++ '\x7d' :: rest) =
      (nameText? value? (read ++ name)).bind fun text =>
        (fillFrom? value? .outside rest).map fun filled => text ++ filled := by
  induction name generalizing read with
  | nil => simp [fillFrom?, PatternState.closing?]
  | cons c name ih =>
      obtain ⟨different, behind⟩ := List.ne_and_not_mem_of_not_mem_cons unclosed
      simp [fillFrom?, PatternState.closing?, PatternState.advance, different.symm, ih behind]

theorem fillFrom?_name_append (unclosed : '\x7d' ∉ name) :
    fillFrom? value? .outside ('$' :: '\x7b' :: (name ++ '\x7d' :: rest)) =
      (nameText? value? name).bind fun text =>
        (fillFrom? value? .outside rest).map fun filled => text ++ filled := by
  calc
    _ = fillFrom? value? (.inside []) (name ++ '\x7d' :: rest) := by
      simp [fillFrom?, PatternState.closing?, PatternState.advance]
    _ = _ := fillFrom?_inside unclosed

theorem namesFrom_text_append {text : List Char} (noDollar : '$' ∉ text) :
    namesFrom .outside (text ++ rest) = namesFrom .outside rest := by
  induction text with
  | nil => rfl
  | cons c text ih =>
      obtain ⟨different, behind⟩ := List.ne_and_not_mem_of_not_mem_cons noDollar
      simp only [List.cons_append, namesFrom, different.symm, if_false, ih behind]

theorem namesFrom_inside {read : List Char} (unclosed : '\x7d' ∉ name) :
    namesFrom (.inside read) (name ++ '\x7d' :: rest) =
      nameRead (read ++ name) ++ namesFrom .outside rest := by
  induction name generalizing read with
  | nil => simp [namesFrom]
  | cons c name ih =>
      obtain ⟨different, behind⟩ := List.ne_and_not_mem_of_not_mem_cons unclosed
      simp [namesFrom, different.symm, ih behind]

theorem namesFrom_name_append (unclosed : '\x7d' ∉ name) :
    namesFrom .outside ('$' :: '\x7b' :: (name ++ '\x7d' :: rest)) =
      nameRead name ++ namesFrom .outside rest := by
  calc
    _ = namesFrom (.inside []) (name ++ '\x7d' :: rest) := by simp [namesFrom]
    _ = _ := namesFrom_inside unclosed

/-- A name in a pattern is replaced by its value, which is not read as a pattern itself. -/
theorem patternText?_between (before after : String) {name value : String}
    (noDollar : '$' ∉ before.toList)
    (unclosed : '\x7d' ∉ name.toList) (named : nameText? value? name.toList = some value.toList)
    (literal : ¬ HoldsPlaceholder after.toList) :
    patternText? value? (before ++ "$\x7b" ++ name ++ "\x7d" ++ after) =
      some (before ++ value ++ after) := by
  have pattern : (before ++ "$\x7b" ++ name ++ "\x7d" ++ after).toList =
      before.toList ++ '$' :: '\x7b' :: (name.toList ++ '\x7d' :: after.toList) := by
    simp
  have kept : fillFrom? value? .outside after.toList = some after.toList :=
    fillFrom?_of_literal literal
  rw [patternText?, pattern, fillFrom?_text_append noDollar, fillFrom?_name_append unclosed, named,
    kept]
  simp [← String.append_assoc]

end

end Stackwright
