import Stackwright.Proofs.Tree.Ordered

/-!
Trees without the null entries of their maps. Taking the nulls out of a base and of a fragment takes
them out of what the two merge to, and changes nothing else.
-/

namespace Stackwright

mutual
/-- Leaves out every entry of a map that holds null, at every depth. -/
def Tree.withoutNulls : Tree → Tree
  | .null => .null
  | .scalar value => .scalar value
  | .sequence items => .sequence (itemsWithoutNulls items)
  | .map entries => .map (entriesWithoutNulls entries)

def itemsWithoutNulls : List Tree → List Tree
  | [] => []
  | item :: rest => item.withoutNulls :: itemsWithoutNulls rest

def entriesWithoutNulls : List (String × Tree) → List (String × Tree)
  | [] => []
  | entry :: rest =>
    if entry.2.kind = .null then entriesWithoutNulls rest
    else (entry.1, entry.2.withoutNulls) :: entriesWithoutNulls rest
end

theorem kind_withoutNulls (tree : Tree) : tree.withoutNulls.kind = tree.kind := by
  cases tree <;> simp [Tree.withoutNulls, Tree.kind]

def leftAt (value : Tree) : Option Tree :=
  if value.kind = .null then none else some value.withoutNulls

theorem mem_entriesWithoutNulls {entries : List (String × Tree)} {e : String × Tree} :
    e ∈ entriesWithoutNulls entries ↔ ∃ original ∈ entries,
      original.2.kind ≠ .null ∧ e = (original.1, original.2.withoutNulls) := by
  induction entries with
  | nil => simp [entriesWithoutNulls]
  | cons entry rest ih =>
      by_cases isNull : entry.2.kind = .null <;> simp [entriesWithoutNulls, isNull, ih]

theorem keysIncrease_withoutNulls {entries : List (String × Tree)}
    (increasing : KeysIncrease entries) : KeysIncrease (entriesWithoutNulls entries) := by
  induction entries with
  | nil => exact keysIncrease_nil
  | cons entry rest ih =>
      obtain ⟨above, increasingRest⟩ := List.pairwise_cons.mp increasing
      rw [entriesWithoutNulls]
      split
      · exact ih increasingRest
      · refine List.pairwise_cons.mpr ⟨?_, ih increasingRest⟩
        intro e member
        obtain ⟨original, inside, _, rfl⟩ := mem_entriesWithoutNulls.mp member
        exact above original inside

theorem findEntry_withoutNulls (key : String) {entries : List (String × Tree)}
    (increasing : KeysIncrease entries) :
    findEntry key (entriesWithoutNulls entries) = (findEntry key entries).bind leftAt := by
  induction entries with
  | nil => rfl
  | cons entry rest ih =>
      have increasingRest := (List.pairwise_cons.mp increasing).2
      by_cases same : key = entry.1
      · subst same
        have later : findEntry entry.1 rest = none := findEntry_rest increasing
        by_cases isNull : entry.2.kind = .null
        · simp [entriesWithoutNulls, findEntry, leftAt, isNull, ih increasingRest, later]
        · simp [entriesWithoutNulls, findEntry, leftAt, isNull]
      · by_cases isNull : entry.2.kind = .null <;>
          simp [entriesWithoutNulls, findEntry, same, isNull, ih increasingRest]

/-- Putting a value and leaving out nulls can change places, unless the value is null itself. -/
theorem withoutNulls_putEntry {key : String} {value : Tree} {entries : List (String × Tree)}
    (increasing : KeysIncrease entries) (given : value.kind ≠ .null) :
    entriesWithoutNulls (putEntry key value entries) =
      putEntry key value.withoutNulls (entriesWithoutNulls entries) := by
  have put := keysIncrease_putEntry key value increasing
  apply entries_ext (keysIncrease_withoutNulls put)
    (keysIncrease_putEntry _ _ (keysIncrease_withoutNulls increasing))
  intro k
  rw [findEntry_withoutNulls k put, findEntry_putEntry, findEntry_putEntry,
    findEntry_withoutNulls k increasing]
  by_cases same : k = key <;> simp [same, leftAt, given]

theorem withoutNulls_putEntry_null {key : String} {entries : List (String × Tree)}
    (increasing : KeysIncrease entries) (free : findEntry key entries = none) :
    entriesWithoutNulls (putEntry key .null entries) = entriesWithoutNulls entries := by
  have put := keysIncrease_putEntry key Tree.null increasing
  apply entries_ext (keysIncrease_withoutNulls put) (keysIncrease_withoutNulls increasing)
  intro k
  rw [findEntry_withoutNulls k put, findEntry_putEntry, findEntry_withoutNulls k increasing]
  by_cases same : k = key
  · simp [same, free, leftAt, Tree.kind]
  · simp [same]

theorem meet_null (path : String) (base : Option Tree) :
    meet path base .null = .ok (base.getD .null) := by
  cases base <;> rfl

theorem meet_withoutNulls {path : String} {base : Option Tree} {fragment : Tree}
    (merge : ∀ existing, base = some existing →
      (Tree.merge path existing fragment).map Tree.withoutNulls =
        Tree.merge path existing.withoutNulls fragment.withoutNulls) :
    (meet path base fragment).map Tree.withoutNulls =
      meet path (base.bind leftAt) fragment.withoutNulls := by
  cases base with
  | none => rfl
  | some existing =>
      by_cases isNull : existing.kind = .null
      · rw [eq_null_of_kind isNull]
        simp [meet, leftAt, Tree.kind, merge_null_left, Except.map]
      · simpa [meet, leftAt, isNull] using merge existing rfl

theorem kind_of_meet {path : String} {base : Option Tree} {fragment met : Tree}
    (meets : meet path base fragment = .ok met) (given : fragment.kind ≠ .null) :
    met.kind = fragment.kind := by
  cases base with
  | none => exact congrArg Tree.kind (Except.ok.inj meets).symm
  | some existing => exact kind_of_merge meets given

theorem meet_ordered {path : String} {base : Option Tree} {fragment met : Tree}
    (baseOrdered : ∀ existing, base = some existing → existing.Ordered)
    (fragmentOrdered : fragment.Ordered) (meets : meet path base fragment = .ok met) :
    met.Ordered := by
  cases base with
  | none => exact Except.ok.inj meets ▸ fragmentOrdered
  | some existing => exact merge_ordered (baseOrdered existing rfl) fragmentOrdered meets

mutual
theorem merge_withoutNulls {base fragment : Tree} (path : String) (baseOrdered : base.Ordered)
    (fragmentOrdered : fragment.Ordered) :
    (Tree.merge path base fragment).map Tree.withoutNulls =
      Tree.merge path base.withoutNulls fragment.withoutNulls := by
  cases fragment with
  | null => rfl
  | scalar value => cases base <;> rfl
  | sequence items => cases base <;> rfl
  | map entries =>
      cases base with
      | map base =>
          have entriesAlike :=
            mergeEntries_withoutNulls path baseOrdered.1 baseOrdered.2 fragmentOrdered.2
          simp only [Tree.withoutNulls, Tree.merge, ← entriesAlike]
          cases mergeEntries path base entries <;> rfl
      | null => rfl
      | scalar _ => rfl
      | sequence _ => rfl

theorem mergeEntries_withoutNulls {base fragment : List (String × Tree)} (path : String)
    (increasing : KeysIncrease base) (baseOrdered : EntriesOrdered base)
    (fragmentOrdered : EntriesOrdered fragment) :
    (mergeEntries path base fragment).map entriesWithoutNulls =
      mergeEntries path (entriesWithoutNulls base) (entriesWithoutNulls fragment) := by
  cases fragment with
  | nil => rfl
  | cons entry rest =>
      rw [mergeEntries_cons]
      -- a null puts at most an entry that goes again; any other value meets what is left there
      by_cases isNull : entry.2.kind = .null
      · rw [eq_null_of_kind isNull, meet_null, entriesWithoutNulls, if_pos isNull]
        cases found : findEntry entry.1 base with
        | none =>
            have putOrdered : EntriesOrdered (putEntry entry.1 .null base) :=
              entriesOrdered_putEntry trivial baseOrdered
            rw [← withoutNulls_putEntry_null increasing found]
            exact mergeEntries_withoutNulls path (keysIncrease_putEntry _ _ increasing)
              putOrdered fragmentOrdered.2
        | some existing =>
            simp only [Option.getD_some, Except.bind]
            rw [putEntry_of_findEntry increasing found]
            exact mergeEntries_withoutNulls path increasing baseOrdered fragmentOrdered.2
      · rw [entriesWithoutNulls, if_neg isNull, mergeEntries_cons,
          findEntry_withoutNulls entry.1 increasing,
          ← meet_withoutNulls fun existing found =>
            merge_withoutNulls (childPath path entry.1) (ordered_of_findEntry baseOrdered found)
              fragmentOrdered.1]
        cases meets : meet (childPath path entry.1) (findEntry entry.1 base) entry.2 with
        | error clash => rfl
        | ok met =>
            have metGiven : met.kind ≠ .null := by rw [kind_of_meet meets isNull]; exact isNull
            have metOrdered : met.Ordered :=
              meet_ordered (fun existing found => ordered_of_findEntry baseOrdered found)
                fragmentOrdered.1 meets
            simp only [Except.map, Except.bind]
            rw [← withoutNulls_putEntry increasing metGiven]
            exact mergeEntries_withoutNulls path (keysIncrease_putEntry _ _ increasing)
              (entriesOrdered_putEntry metOrdered baseOrdered) fragmentOrdered.2
end

end Stackwright
