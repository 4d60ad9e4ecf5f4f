import Stackwright.Codec.Record
import Stackwright.Tree

/-!
Which part of a tree is read by which part of a shape, and where a shape refuses a null entry.
-/

namespace Stackwright

/-- Reading the first tree by the first shape comes to reading the second tree by the second. -/
inductive Reads : Shape → Tree → Shape → Tree → Prop where
  | here {shape tree} : Reads shape tree shape tree
  | optional {item tree part partTree} (below : Reads item tree part partTree) :
      Reads (.optional item) tree part partTree
  | field {fields name shape entries tree part partTree} (declared : (name, shape) ∈ fields)
      (found : findEntry name entries = some tree) (below : Reads shape tree part partTree) :
      Reads (.record fields) (.map entries) part partTree
  | position {fields name shape tree part partTree} {index : Nat} {items : List Tree}
      (declared : fields[index]? = some (name, shape)) (found : items[index]? = some tree)
      (below : Reads shape tree part partTree) :
      Reads (.record fields) (.sequence items) part partTree
  | row {item entries key tree part partTree} (present : (key, tree) ∈ entries)
      (below : Reads item tree part partTree) : Reads (.table item) (.map entries) part partTree
  | item {item items tree part partTree} (present : tree ∈ items)
      (below : Reads item tree part partTree) : Reads (.list item) (.sequence items) part partTree

def Shape.takesNull : Shape → Bool
  | .optional _ => true
  | .tree => true
  | _ => false

/-- An entry is null, and the shape it is read by takes no null. -/
inductive RefusesEntry : Shape → Tree → Prop where
  | field {fields name shape entries} (declared : (name, shape) ∈ fields)
      (refuses : shape.takesNull = false) (found : findEntry name entries = some .null) :
      RefusesEntry (.record fields) (.map entries)
  | row {item entries key} (refuses : item.takesNull = false) (present : (key, .null) ∈ entries) :
      RefusesEntry (.table item) (.map entries)

def RefusesNull (shape : Shape) (tree : Tree) : Prop :=
  ∃ part partTree, Reads shape tree part partTree ∧ RefusesEntry part partTree

/-- Somewhere in a tree one of several names is read from a map, in which null is no content. -/
def ReadsVariant (shape : Shape) (tree : Tree) : Prop :=
  ∃ names entries, Reads shape tree (.choice names) (.map entries)

/-- Nulls can be left out of a tree without a change to what is read from it. -/
structure NullsIdle (shape : Shape) (tree : Tree) : Prop where
  taken : ¬ RefusesNull shape tree
  plain : ¬ ReadsVariant shape tree

variable {shape inner part : Shape} {tree partTree : Tree} {fields : List (String × Shape)}
  {entries : List (String × Tree)} {items : List Tree} {name key : String} {index : Nat}

namespace NullsIdle

theorem optional (idle : NullsIdle (.optional inner) tree) : NullsIdle inner tree where
  taken := fun ⟨_, _, reads, refuses⟩ => idle.taken ⟨_, _, .optional reads, refuses⟩
  plain := fun ⟨_, _, reads⟩ => idle.plain ⟨_, _, .optional reads⟩

theorem field (idle : NullsIdle (.record fields) (.map entries)) (declared : (name, shape) ∈ fields)
    (found : findEntry name entries = some tree) : NullsIdle shape tree where
  taken := fun ⟨_, _, reads, refuses⟩ => idle.taken ⟨_, _, .field declared found reads, refuses⟩
  plain := fun ⟨_, _, reads⟩ => idle.plain ⟨_, _, .field declared found reads⟩

theorem position (idle : NullsIdle (.record fields) (.sequence items))
    (declared : fields[index]? = some (name, shape)) (found : items[index]? = some tree) :
    NullsIdle shape tree where
  taken := fun ⟨_, _, reads, refuses⟩ => idle.taken ⟨_, _, .position declared found reads, refuses⟩
  plain := fun ⟨_, _, reads⟩ => idle.plain ⟨_, _, .position declared found reads⟩

theorem row (idle : NullsIdle (.table inner) (.map entries)) (present : (key, tree) ∈ entries) :
    NullsIdle inner tree where
  taken := fun ⟨_, _, reads, refuses⟩ => idle.taken ⟨_, _, .row present reads, refuses⟩
  plain := fun ⟨_, _, reads⟩ => idle.plain ⟨_, _, .row present reads⟩

theorem item (idle : NullsIdle (.list inner) (.sequence items)) (present : tree ∈ items) :
    NullsIdle inner tree where
  taken := fun ⟨_, _, reads, refuses⟩ => idle.taken ⟨_, _, .item present reads, refuses⟩
  plain := fun ⟨_, _, reads⟩ => idle.plain ⟨_, _, .item present reads⟩

theorem takesNull (idle : NullsIdle (.record fields) (.map entries))
    (declared : (name, shape) ∈ fields) (found : findEntry name entries = some .null) :
    shape.takesNull = true := by
  cases takes : shape.takesNull with
  | true => rfl
  | false => exact absurd ⟨_, _, .here, .field declared takes found⟩ idle.taken

end NullsIdle

mutual
def Shape.all (test : Shape → Bool) : Shape → Bool
  | .text => test .text
  | .boolean => test .boolean
  | .natural => test .natural
  | .optional item => test (.optional item) && item.all test
  | .list item => test (.list item) && item.all test
  | .table item => test (.table item) && item.all test
  | .record fields => test (.record fields) && allFields test fields
  | .choice names => test (.choice names)
  | .tree => test .tree
  | .forms fields => test (.forms fields)

def Shape.allFields (test : Shape → Bool) : List (String × Shape) → Bool
  | [] => true
  | field :: rest => field.2.all test && allFields test rest
end

theorem Shape.all_of_field {test : Shape → Bool} {field : String × Shape}
    (passed : allFields test fields = true) (declared : field ∈ fields) :
    field.2.all test = true := by
  induction fields with
  | nil => cases declared
  | cons first rest ih =>
      simp only [allFields, Bool.and_eq_true] at passed
      rcases List.mem_cons.mp declared with rfl | later
      · exact passed.1
      · exact ih passed.2 later

theorem Shape.holds_of_all {test : Shape → Bool} (passed : shape.all test = true) :
    test shape = true := by
  cases shape <;> simp_all [Shape.all]

theorem Reads.all {test : Shape → Bool} (reads : Reads shape tree part partTree)
    (passed : shape.all test = true) :
    part.all test = true := by
  induction reads with
  | here => exact passed
  | optional _ ih =>
      simp only [Shape.all, Bool.and_eq_true] at passed
      exact ih passed.2
  | field declared _ _ ih =>
      simp only [Shape.all, Bool.and_eq_true] at passed
      exact ih (Shape.all_of_field passed.2 declared)
  | position declared _ _ ih =>
      simp only [Shape.all, Bool.and_eq_true] at passed
      exact ih (Shape.all_of_field passed.2 (List.mem_of_getElem? declared))
  | row _ _ ih =>
      simp only [Shape.all, Bool.and_eq_true] at passed
      exact ih passed.2
  | item _ _ ih =>
      simp only [Shape.all, Bool.and_eq_true] at passed
      exact ih passed.2

def Shape.lenient : Shape → Bool
  | .record fields => fields.all fun field => field.2.takesNull
  | .table item => item.takesNull
  | _ => true

theorem not_refusesNull_of_lenient (passed : shape.all Shape.lenient = true)
    (tree : Tree) : ¬ RefusesNull shape tree := by
  rintro ⟨part, partTree, reads, refuses⟩
  have lenient := Shape.holds_of_all (reads.all passed)
  cases refuses with
  | field declared refuses found =>
      have takes := List.all_eq_true.mp lenient _ declared
      simp [refuses] at takes
  | row refuses present => simp [Shape.lenient, refuses] at lenient

def Shape.isChoice : Shape → Bool
  | .choice _ => true
  | _ => false

theorem not_readsVariant (passed : shape.all (fun part => !part.isChoice) = true)
    (tree : Tree) : ¬ ReadsVariant shape tree := by
  rintro ⟨names, entries, reads⟩
  have plain := Shape.holds_of_all (reads.all passed)
  simp [Shape.isChoice] at plain

theorem not_readsVariant_scalar (shape : Shape) (value : Scalar) :
    ¬ ReadsVariant shape (.scalar value) := by
  rintro ⟨names, entries, reads⟩
  generalize isScalar : Tree.scalar value = tree at reads
  generalize isMap : Tree.map entries = partTree at reads
  generalize Shape.choice names = part at reads
  induction reads with
  | here => cases isMap.trans isScalar.symm
  | optional _ ih => exact ih isScalar isMap
  | _ => cases isScalar

theorem ReadsVariant.exists_field (variant : ReadsVariant (.record fields) (.map entries)) :
    ∃ field ∈ fields, ∃ value, findEntry field.1 entries = some value ∧
      ReadsVariant field.2 value := by
  obtain ⟨names, variants, reads⟩ := variant
  cases reads with
  | field declared found below => exact ⟨_, declared, _, found, names, variants, below⟩

end Stackwright
