import Stackwright.Proofs.Codec.Written
import Stackwright.Proofs.Tree.FromJson

/-!
Trees as copies of JSON. A copy holds each value where the JSON holds it, and each integer in the
one form that is meant for it, so that the JSON and its copy tell each other.
-/

namespace Stackwright

inductive PathStep where
  | key (name : String)
  | item (index : Nat)

def Json.within? : List PathStep → Json → Option Json
  | [], value => some value
  | .key name :: rest, .object entries => (findEntry name entries).bind (within? rest)
  | .item index :: rest, .array items => items[index]?.bind (within? rest)
  | _ :: _, _ => none

def Tree.within? : List PathStep → Tree → Option Tree
  | [], tree => some tree
  | .key name :: rest, .map entries => (findEntry name entries).bind (within? rest)
  | .item index :: rest, .sequence items => items[index]?.bind (within? rest)
  | _ :: _, _ => none

/-- The tree holds the numbers of the JSON value in their places: an integer in the signed form if
that can hold it and else in the unsigned one, and a floating-point number as it is. -/
structure HoldsNumbers (value : Json) (tree : Tree) : Prop where
  signed : ∀ path integer bounds,
    value.within? path = some (.number (.integer integer bounds)) → integer < 0x8000000000000000 →
      ∃ kept : Int64, kept.toInt = integer ∧ tree.within? path = some (.scalar (.integer kept))
  unsigned : ∀ path integer bounds,
    value.within? path = some (.number (.integer integer bounds)) → 0x8000000000000000 ≤ integer →
      ∃ kept : UInt64, (kept.toNat : Int) = integer ∧
        tree.within? path = some (.scalar (.unsigned kept))
  float : ∀ path x finite, value.within? path = some (.number (.float x finite)) →
    tree.within? path = some (.scalar (.float x finite))

/-- The unsigned form is for integers that the signed one cannot hold. -/
def Scalar.Canonical : Scalar → Prop
  | .unsigned value => 0x8000000000000000 ≤ value.toNat
  | _ => True

mutual
def Tree.Canonical : Tree → Prop
  | .null => True
  | .scalar value => value.Canonical
  | .sequence items => ItemsCanonical items
  | .map entries => EntriesCanonical entries

def ItemsCanonical : List Tree → Prop
  | [] => True
  | item :: rest => item.Canonical ∧ ItemsCanonical rest

def EntriesCanonical : List (String × Tree) → Prop
  | [] => True
  | entry :: rest => entry.2.Canonical ∧ EntriesCanonical rest
end

/-- How numbers compare: zero and minus zero are equal, but no integer is equal to a floating-point
number. -/
def Number.same : Number → Number → Bool
  | .integer a _, .integer b _ => a == b
  | .float a _, .float b _ => a == b
  | _, _ => false

def Scalar.same : Scalar → Scalar → Bool
  | .boolean a, .boolean b => a == b
  | .integer a, .integer b => a == b
  | .unsigned a, .unsigned b => a == b
  | .float a _, .float b _ => a == b
  | .string a, .string b => a == b
  | _, _ => false

mutual
def Json.same : Json → Json → Bool
  | .null, .null => true
  | .boolean a, .boolean b => a == b
  | .number a, .number b => a.same b
  | .string a, .string b => a == b
  | .array a, .array b => valuesSame a b
  | .object a, .object b => membersSame a b
  | _, _ => false

def valuesSame : List Json → List Json → Bool
  | [], [] => true
  | a :: rest, b :: others => a.same b && valuesSame rest others
  | _, _ => false

def membersSame : List (String × Json) → List (String × Json) → Bool
  | [], [] => true
  | a :: rest, b :: others => a.1 == b.1 && a.2.same b.2 && membersSame rest others
  | _, _ => false
end

mutual
def Tree.same : Tree → Tree → Bool
  | .null, .null => true
  | .scalar a, .scalar b => a.same b
  | .sequence a, .sequence b => itemsSame a b
  | .map a, .map b => entriesSame a b
  | _, _ => false

def itemsSame : List Tree → List Tree → Bool
  | [], [] => true
  | a :: rest, b :: others => a.same b && itemsSame rest others
  | _, _ => false

def entriesSame : List (String × Tree) → List (String × Tree) → Bool
  | [], [] => true
  | a :: rest, b :: others => a.1 == b.1 && a.2.same b.2 && entriesSame rest others
  | _, _ => false
end

theorem ofItems_eq_map (items : List Json) : ofItems items = items.map Tree.ofJson := by
  induction items with
  | nil => rfl
  | cons item rest ih => rw [ofItems, ih, List.map_cons]

theorem within?_ofJson (path : List PathStep) (value : Json) :
    (Tree.ofJson value).within? path = (value.within? path).map Tree.ofJson := by
  induction path generalizing value with
  | nil => rfl
  | cons step rest ih =>
      cases step with
      | key name =>
          cases value with
          | object entries =>
              simp only [Tree.ofJson, Tree.within?, Json.within?, findEntry_ofEntries]
              cases findEntry name entries with
              | none => rfl
              | some inner => exact ih inner
          | _ => rfl
      | item index =>
          cases value with
          | array items =>
              simp only [Tree.ofJson, Tree.within?, Json.within?, ofItems_eq_map,
                List.getElem?_map]
              cases items[index]? with
              | none => rfl
              | some inner => exact ih inner
          | _ => rfl

theorem toScalar_canonical (value : Number) : value.toScalar.Canonical := by
  cases value with
  | float value finite => trivial
  | integer value bounds =>
      rcases Int.lt_or_le value 0x8000000000000000 with small | large
      · obtain ⟨kept, _, isSigned⟩ := toScalar_signed bounds small
        rw [isSigned]
        trivial
      · obtain ⟨kept, same, isUnsigned⟩ := toScalar_unsigned bounds large
        rw [isUnsigned, Scalar.Canonical]
        omega

theorem ofJson_toJson_scalar {value : Scalar} (canonical : value.Canonical) :
    Tree.ofJson value.toJson = .scalar value := by
  cases value with
  | boolean value => rfl
  | string value => rfl
  | float value finite => rfl
  | integer value =>
      have small : value.toInt < 0x8000000000000000 := value.toInt_lt
      obtain ⟨kept, same, isSigned⟩ := toScalar_signed _ small
      rw [Scalar.toJson, Tree.ofJson, isSigned, Int64.toInt_inj.mp same]
  | unsigned value =>
      have large : (0x8000000000000000 : Int) ≤ value.toNat := by
        rw [Scalar.Canonical] at canonical
        omega
      obtain ⟨kept, same, isUnsigned⟩ := toScalar_unsigned _ large
      rw [Scalar.toJson, Number.ofUInt64, Tree.ofJson, isUnsigned,
        UInt64.toNat_inj.mp (Int.ofNat_inj.mp same)]

mutual
theorem ofJson_canonical (value : Json) : (Tree.ofJson value).Canonical := by
  cases value with
  | null => trivial
  | boolean value => trivial
  | number value => exact toScalar_canonical value
  | string value => trivial
  | array items => exact ofItems_canonical items
  | object entries => exact ofEntries_canonical entries

theorem ofItems_canonical (items : List Json) : ItemsCanonical (ofItems items) := by
  cases items with
  | nil => trivial
  | cons item rest => exact ⟨ofJson_canonical item, ofItems_canonical rest⟩

theorem ofEntries_canonical (entries : List (String × Json)) :
    EntriesCanonical (ofEntries entries) := by
  cases entries with
  | nil => trivial
  | cons entry rest => exact ⟨ofJson_canonical entry.2, ofEntries_canonical rest⟩
end

mutual
theorem ofJson_toJson {tree : Tree} (canonical : tree.Canonical) :
    Tree.ofJson tree.toJson = tree := by
  cases tree with
  | null => rfl
  | scalar value => exact ofJson_toJson_scalar canonical
  | sequence items => rw [Tree.toJson, Tree.ofJson, ofItems_toJson canonical]
  | map entries => rw [Tree.toJson, Tree.ofJson, ofEntries_toJson canonical]

theorem ofItems_toJson {items : List Tree} (canonical : ItemsCanonical items) :
    ofItems (itemsToJson items) = items := by
  cases items with
  | nil => rfl
  | cons item rest =>
      rw [itemsToJson, ofItems, ofJson_toJson canonical.1, ofItems_toJson canonical.2]

theorem ofEntries_toJson {entries : List (String × Tree)} (canonical : EntriesCanonical entries) :
    ofEntries (entriesToJson entries) = entries := by
  cases entries with
  | nil => rfl
  | cons entry rest =>
      rw [entriesToJson, ofEntries, ofJson_toJson canonical.1, ofEntries_toJson canonical.2]
end

theorem ofJson_toJson_iff {tree : Tree} : Tree.ofJson tree.toJson = tree ↔ tree.Canonical := by
  constructor
  · intro back
    rw [← back]
    exact ofJson_canonical tree.toJson
  · exact ofJson_toJson

theorem exists_ofJson_iff {tree : Tree} : (∃ value, Tree.ofJson value = tree) ↔ tree.Canonical := by
  constructor
  · rintro ⟨value, rfl⟩
    exact ofJson_canonical value
  · intro canonical
    exact ⟨tree.toJson, ofJson_toJson canonical⟩

theorem ofJson_inj {a b : Json} : Tree.ofJson a = Tree.ofJson b ↔ a = b := by
  constructor
  · intro same
    rw [← toJson_ofJson a, same, toJson_ofJson]
  · exact congrArg Tree.ofJson

theorem same_ofInteger (a b : Int) (bounds : -0x8000000000000000 ≤ a ∧ a < 0x10000000000000000)
    (others : -0x8000000000000000 ≤ b ∧ b < 0x10000000000000000) :
    (Number.integer a bounds).toScalar.same (Number.integer b others).toScalar = (a == b) := by
  rcases Int.lt_or_le a 0x8000000000000000 with small | large
  · obtain ⟨kept, keeps, isSigned⟩ := toScalar_signed bounds small
    rcases Int.lt_or_le b 0x8000000000000000 with smallToo | largeOther
    · obtain ⟨other, keepsOther, isSignedToo⟩ := toScalar_signed others smallToo
      rw [isSigned, isSignedToo, Scalar.same, Bool.eq_iff_iff, beq_iff_eq, beq_iff_eq,
        ← Int64.toInt_inj, keeps, keepsOther]
    · -- integers in different forms are different ones
      obtain ⟨other, _, isUnsigned⟩ := toScalar_unsigned others largeOther
      have apart : a ≠ b := by omega
      rw [isSigned, isUnsigned, beq_false_of_ne apart]
      rfl
  · obtain ⟨kept, keeps, isUnsigned⟩ := toScalar_unsigned bounds large
    rcases Int.lt_or_le b 0x8000000000000000 with smallOther | largeToo
    · obtain ⟨other, _, isSigned⟩ := toScalar_signed others smallOther
      have apart : a ≠ b := by omega
      rw [isUnsigned, isSigned, beq_false_of_ne apart]
      rfl
    · obtain ⟨other, keepsOther, isUnsignedToo⟩ := toScalar_unsigned others largeToo
      rw [isUnsigned, isUnsignedToo, Scalar.same, Bool.eq_iff_iff, beq_iff_eq, beq_iff_eq,
        ← UInt64.toNat_inj, ← Int.ofNat_inj, keeps, keepsOther]

theorem toScalar_same (a b : Number) : a.toScalar.same b.toScalar = a.same b := by
  cases a with
  | integer a bounds =>
      cases b with
      | integer b others => exact same_ofInteger a b bounds others
      | float b finite =>
          rw [Number.toScalar, Number.toScalar]
          split
          · rfl
          · rfl
  | float a finite =>
      cases b with
      | integer b others =>
          rw [Number.toScalar, Number.toScalar]
          split
          · rfl
          · rfl
      | float b finiteToo => rfl

theorem toScalar_apart {other : Scalar} (value : Number)
    (noNumber : (∃ a, other = .boolean a) ∨ ∃ text, other = .string text) :
    other.same value.toScalar = false ∧ value.toScalar.same other = false := by
  cases value with
  | float value finite => rcases noNumber with ⟨a, rfl⟩ | ⟨text, rfl⟩ <;> exact ⟨rfl, rfl⟩
  | integer value bounds =>
      rw [Number.toScalar]
      split
      · rcases noNumber with ⟨a, rfl⟩ | ⟨text, rfl⟩ <;> exact ⟨rfl, rfl⟩
      · rcases noNumber with ⟨a, rfl⟩ | ⟨text, rfl⟩ <;> exact ⟨rfl, rfl⟩

mutual
theorem same_ofJson (a b : Json) : (Tree.ofJson a).same (Tree.ofJson b) = a.same b := by
  cases a with
  | null =>
      cases b with
      | _ => rfl
  | boolean a =>
      cases b with
      | number b => exact (toScalar_apart b (.inl ⟨a, rfl⟩)).1
      | _ => rfl
  | number a =>
      cases b with
      | number b => exact toScalar_same a b
      | boolean b => exact (toScalar_apart a (.inl ⟨b, rfl⟩)).2
      | string b => exact (toScalar_apart a (.inr ⟨b, rfl⟩)).2
      | _ => rfl
  | string a =>
      cases b with
      | number b => exact (toScalar_apart b (.inr ⟨a, rfl⟩)).1
      | _ => rfl
  | array items =>
      cases b with
      | array others => exact itemsSame_ofItems items others
      | _ => rfl
  | object entries =>
      cases b with
      | object others => exact entriesSame_ofEntries entries others
      | _ => rfl

theorem itemsSame_ofItems (items others : List Json) :
    itemsSame (ofItems items) (ofItems others) = valuesSame items others := by
  cases items with
  | nil =>
      cases others with
      | _ => rfl
  | cons a rest =>
      cases others with
      | nil => rfl
      | cons b others =>
          rw [ofItems, ofItems, itemsSame, valuesSame, same_ofJson a b,
            itemsSame_ofItems rest others]

theorem entriesSame_ofEntries (entries others : List (String × Json)) :
    entriesSame (ofEntries entries) (ofEntries others) = membersSame entries others := by
  cases entries with
  | nil =>
      cases others with
      | _ => rfl
  | cons a rest =>
      cases others with
      | nil => rfl
      | cons b others =>
          rw [ofEntries, ofEntries, entriesSame, membersSame, same_ofJson a.2 b.2,
            entriesSame_ofEntries rest others]
end

theorem ofJson_holdsNumbers (value : Json) : HoldsNumbers value (Tree.ofJson value) where
  signed path integer bounds found small := by
    obtain ⟨kept, same, isSigned⟩ := toScalar_signed bounds small
    refine ⟨kept, same, ?_⟩
    rw [within?_ofJson, found, Option.map_some, Tree.ofJson, isSigned]
  unsigned path integer bounds found large := by
    obtain ⟨kept, same, isUnsigned⟩ := toScalar_unsigned bounds large
    refine ⟨kept, same, ?_⟩
    rw [within?_ofJson, found, Option.map_some, Tree.ofJson, isUnsigned]
  float path x finite found := by
    rw [within?_ofJson, found]
    rfl

/-- Trees are faithful copies of JSON values: they give the values back, hold each number in its
form and compare as the values do. The copies are the canonical trees, which are also those that
come back from JSON as they were. -/
theorem ofJson_faithful :
    (∀ value, (Tree.ofJson value).toJson = value) ∧
      (∀ value, HoldsNumbers value (Tree.ofJson value)) ∧
      (∀ tree, (∃ value, Tree.ofJson value = tree) ↔ Tree.ofJson tree.toJson = tree) ∧
      (∀ tree, Tree.ofJson tree.toJson = tree ↔ tree.Canonical) ∧
      (∀ a b, Tree.ofJson a = Tree.ofJson b ↔ a = b) ∧
      ∀ a b, (Tree.ofJson a).same (Tree.ofJson b) = a.same b := by
  refine ⟨toJson_ofJson, ofJson_holdsNumbers, ?image, ?back, ?equal, ?same⟩
  case image =>
    intro tree
    exact exists_ofJson_iff.trans ofJson_toJson_iff.symm
  case back =>
    intro tree
    exact ofJson_toJson_iff
  case equal =>
    intro a b
    exact ofJson_inj
  case same => exact same_ofJson

example :
    (Number.integer 0x7fffffffffffffff (by decide)).toScalar = .integer 0x7fffffffffffffff ∧
      (Number.integer 0x8000000000000000 (by decide)).toScalar = .unsigned 0x8000000000000000 :=
  ⟨rfl, rfl⟩

end Stackwright
