import Stackwright.Proofs.Entries
import Stackwright.Tree

/-!
Trees whose maps are ordered, and what a merge of two of them holds at each key.
-/

namespace Stackwright

theorem eq_null_of_kind {tree : Tree} (isNull : tree.kind = .null) : tree = .null := by
  cases tree <;> simp [Tree.kind] at isNull ⊢

mutual
def Tree.Ordered : Tree → Prop
  | .null => True
  | .scalar _ => True
  | .sequence items => ItemsOrdered items
  | .map entries => KeysIncrease entries ∧ EntriesOrdered entries

def ItemsOrdered : List Tree → Prop
  | [] => True
  | item :: rest => item.Ordered ∧ ItemsOrdered rest

def EntriesOrdered : List (String × Tree) → Prop
  | [] => True
  | entry :: rest => entry.2.Ordered ∧ EntriesOrdered rest
end

theorem itemsOrdered_iff {items : List Tree} :
    ItemsOrdered items ↔ ∀ item ∈ items, item.Ordered := by
  induction items with
  | nil => simp [ItemsOrdered]
  | cons item rest ih => simp [ItemsOrdered, ih]

theorem entriesOrdered_iff {entries : List (String × Tree)} :
    EntriesOrdered entries ↔ ∀ e ∈ entries, e.2.Ordered := by
  induction entries with
  | nil => simp [EntriesOrdered]
  | cons entry rest ih => simp [EntriesOrdered, ih]

theorem entriesOrdered_putEntry {key : String} {value : Tree} {entries : List (String × Tree)}
    (valueOrdered : value.Ordered) (ordered : EntriesOrdered entries) :
    EntriesOrdered (putEntry key value entries) := by
  rw [entriesOrdered_iff] at ordered ⊢
  intro e member
  rcases mem_putEntry member with rfl | member
  · exact valueOrdered
  · exact ordered e member

theorem ordered_singleton {entry : String × Tree} (ordered : entry.2.Ordered) :
    (Tree.map [entry]).Ordered :=
  ⟨List.pairwise_singleton _ _, ordered, trivial⟩

theorem ordered_pair {first second : String × Tree} (increases : first.1 < second.1)
    (firstOrdered : first.2.Ordered) (secondOrdered : second.2.Ordered) :
    (Tree.map [first, second]).Ordered :=
  ⟨List.pairwise_pair.mpr increases, firstOrdered, secondOrdered, trivial⟩

theorem ordered_of_findEntry {key : String} {value : Tree} {entries : List (String × Tree)}
    (ordered : EntriesOrdered entries) (found : findEntry key entries = some value) :
    value.Ordered :=
  entriesOrdered_iff.mp ordered _ (mem_of_findEntry found)

/-- What a base holds at a key, if anything, once a fragment's value is laid over it. -/
def meet (path : String) (base : Option Tree) (fragment : Tree) : Except Clash Tree :=
  match base with
  | some existing => Tree.merge path existing fragment
  | none => .ok fragment

theorem mergeEntries_cons (path : String) (base rest : List (String × Tree))
    (entry : String × Tree) :
    mergeEntries path base (entry :: rest) =
      (meet (childPath path entry.1) (findEntry entry.1 base) entry.2).bind fun merged =>
        mergeEntries path (putEntry entry.1 merged base) rest := by
  rw [mergeEntries]
  cases findEntry entry.1 base <;> rfl

theorem mergeEntries_cons_eq_ok {path : String} {base rest merged : List (String × Tree)}
    {entry : String × Tree} :
    mergeEntries path base (entry :: rest) = .ok merged ↔
      ∃ met, meet (childPath path entry.1) (findEntry entry.1 base) entry.2 = .ok met ∧
        mergeEntries path (putEntry entry.1 met base) rest = .ok merged := by
  rw [mergeEntries_cons]
  cases meet (childPath path entry.1) (findEntry entry.1 base) entry.2 <;> simp [Except.bind]

theorem merge_null_left (path : String) (fragment : Tree) :
    Tree.merge path .null fragment = .ok fragment := by
  cases fragment <;> rfl

/-- A merge that succeeds has null on one side, or replaces a value by one of its kind, or lays the
entries of one map over those of another. -/
theorem merge_cases {path : String} {base fragment merged : Tree}
    (merges : Tree.merge path base fragment = .ok merged) :
    (fragment = .null ∧ merged = base) ∨ (base = .null ∧ merged = fragment) ∨
      (base.kind = fragment.kind ∧ fragment.kind ≠ .map ∧ merged = fragment) ∨
      ∃ entries laid result, base = .map entries ∧ fragment = .map laid ∧
        mergeEntries path entries laid = .ok result ∧ merged = .map result := by
  cases fragment with
  | null => exact .inl ⟨rfl, (Except.ok.inj merges).symm⟩
  | scalar value =>
      cases base with
      | null => exact .inr (.inl ⟨rfl, (Except.ok.inj merges).symm⟩)
      | scalar _ => exact .inr (.inr (.inl ⟨rfl, nofun, (Except.ok.inj merges).symm⟩))
      | sequence _ => cases merges
      | map _ => cases merges
  | sequence items =>
      cases base with
      | null => exact .inr (.inl ⟨rfl, (Except.ok.inj merges).symm⟩)
      | scalar _ => cases merges
      | sequence _ => exact .inr (.inr (.inl ⟨rfl, nofun, (Except.ok.inj merges).symm⟩))
      | map _ => cases merges
  | map laid =>
      cases base with
      | null => exact .inr (.inl ⟨rfl, (Except.ok.inj merges).symm⟩)
      | scalar _ => cases merges
      | sequence _ => cases merges
      | map entries =>
          rw [Tree.merge] at merges
          cases laying : mergeEntries path entries laid with
          | error clash =>
              rw [laying] at merges
              cases merges
          | ok result =>
              rw [laying] at merges
              exact .inr (.inr (.inr
                ⟨entries, laid, result, rfl, rfl, laying, (Except.ok.inj merges).symm⟩))

theorem kind_of_merge {path : String} {base fragment merged : Tree}
    (merges : Tree.merge path base fragment = .ok merged) (given : fragment.kind ≠ .null) :
    merged.kind = fragment.kind := by
  rcases merge_cases merges with
    ⟨rfl, _⟩ | ⟨_, rfl⟩ | ⟨_, _, rfl⟩ | ⟨_, _, _, _, rfl, _, rfl⟩
  · exact absurd rfl given
  · rfl
  · rfl
  · rfl

theorem kind_kept_by_merge {path : String} {base fragment merged : Tree}
    (merges : Tree.merge path base fragment = .ok merged) (given : base.kind ≠ .null) :
    merged.kind = base.kind := by
  rcases merge_cases merges with
    ⟨_, rfl⟩ | ⟨rfl, _⟩ | ⟨same, _, rfl⟩ | ⟨_, _, _, rfl, _, _, rfl⟩
  · rfl
  · exact absurd rfl given
  · exact same.symm
  · rfl

mutual
theorem merge_ordered {path : String} {base fragment merged : Tree} (baseOrdered : base.Ordered)
    (fragmentOrdered : fragment.Ordered) (merges : Tree.merge path base fragment = .ok merged) :
    merged.Ordered := by
  rcases merge_cases merges with
    ⟨_, rfl⟩ | ⟨_, rfl⟩ | ⟨_, _, rfl⟩ | ⟨entries, laid, result, rfl, isMap, laying, rfl⟩
  · exact baseOrdered
  · exact fragmentOrdered
  · exact fragmentOrdered
  · cases fragment with
    | map own =>
        -- the call has to be on the entries that the match on the fragment gives
        rw [← Tree.map.inj isMap] at laying
        exact mergeEntries_ordered baseOrdered.1 baseOrdered.2 fragmentOrdered.2 laying
    | null => cases isMap
    | scalar _ => cases isMap
    | sequence _ => cases isMap

theorem mergeEntries_ordered {path : String} {base fragment merged : List (String × Tree)}
    (increasing : KeysIncrease base) (baseOrdered : EntriesOrdered base)
    (fragmentOrdered : EntriesOrdered fragment)
    (merges : mergeEntries path base fragment = .ok merged) :
    KeysIncrease merged ∧ EntriesOrdered merged := by
  cases fragment with
  | nil =>
      simp only [mergeEntries, Except.ok.injEq] at merges
      subst merges
      exact ⟨increasing, baseOrdered⟩
  | cons entry rest =>
      obtain ⟨met, meets, others⟩ := mergeEntries_cons_eq_ok.mp merges
      have metOrdered : met.Ordered := by
        cases found : findEntry entry.1 base with
        | none =>
            simp only [meet, found, Except.ok.injEq] at meets
            exact meets ▸ fragmentOrdered.1
        | some existing =>
            simp only [meet, found] at meets
            exact merge_ordered (ordered_of_findEntry baseOrdered found) fragmentOrdered.1 meets
      exact mergeEntries_ordered (keysIncrease_putEntry _ _ increasing)
        (entriesOrdered_putEntry metOrdered baseOrdered) fragmentOrdered.2 others
end

theorem findEntry_mergeEntries_none {path key : String}
    {base fragment merged : List (String × Tree)}
    (merges : mergeEntries path base fragment = .ok merged)
    (unmentioned : findEntry key fragment = none) :
    findEntry key merged = findEntry key base := by
  induction fragment generalizing base with
  | nil => simp only [mergeEntries, Except.ok.injEq] at merges; rw [merges]
  | cons entry rest ih =>
      obtain ⟨met, _, others⟩ := mergeEntries_cons_eq_ok.mp merges
      rw [findEntry] at unmentioned
      split at unmentioned
      · cases unmentioned
      · rename_i different
        rw [ih others unmentioned, findEntry_putEntry, if_neg different]

theorem findEntry_mergeEntries_some {path key : String} {value : Tree}
    {base fragment merged : List (String × Tree)} (increasing : KeysIncrease fragment)
    (merges : mergeEntries path base fragment = .ok merged)
    (mentioned : findEntry key fragment = some value) :
    ∃ met, meet (childPath path key) (findEntry key base) value = .ok met ∧
      findEntry key merged = some met := by
  induction fragment generalizing base with
  | nil => cases mentioned
  | cons entry rest ih =>
      have increasingRest := (List.pairwise_cons.mp increasing).2
      obtain ⟨met, meets, others⟩ := mergeEntries_cons_eq_ok.mp merges
      rw [findEntry] at mentioned
      split at mentioned
      · rename_i same
        have valueEq := Option.some.inj mentioned
        subst same
        subst valueEq
        refine ⟨met, meets, ?_⟩
        have later : findEntry entry.1 rest = none := findEntry_rest increasing
        rw [findEntry_mergeEntries_none others later, findEntry_putEntry, if_pos rfl]
      · rename_i different
        obtain ⟨found, meetsThere, foundMerged⟩ := ih increasingRest others mentioned
        rw [findEntry_putEntry, if_neg different] at meetsThere
        exact ⟨found, meetsThere, foundMerged⟩

end Stackwright
