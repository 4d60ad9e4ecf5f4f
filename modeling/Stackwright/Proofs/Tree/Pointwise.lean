import Stackwright.Proofs.Tree.Ordered

/-!
Merges of maps key by key. What a merge holds at a key depends on what the two maps hold there and
on nothing else, and the clash that ends a merge is the one at the first key that has one.
-/

namespace Stackwright

/-- What stands at a key once a fragment, which may hold something there, is laid over a base. -/
def layAt (path : String) (base laid : Option Tree) : Except Clash (Option Tree) :=
  match laid with
  | none => .ok base
  | some value => (meet path base value).map some

variable {path key : String} {base fragment merged : List (String × Tree)}

theorem layAt_nothing (laid : Option Tree) : layAt path none laid = .ok laid := by
  cases laid <;> rfl

theorem layAt_some (base : Option Tree) (value : Tree) :
    layAt path base (some value) = (meet path base value).map some := rfl

theorem layAt_both {existing value : Tree} :
    layAt path (some existing) (some value) = (Tree.merge path existing value).map some := rfl

/-- At each key a merge depends on the two values at that key alone. -/
theorem layAt_mergeEntries (increasing : KeysIncrease fragment)
    (merges : mergeEntries path base fragment = .ok merged) (key : String) :
    layAt (childPath path key) (findEntry key base) (findEntry key fragment) =
      .ok (findEntry key merged) := by
  cases mentioned : findEntry key fragment with
  | none => exact congrArg Except.ok (findEntry_mergeEntries_none merges mentioned).symm
  | some value =>
      obtain ⟨met, meets, found⟩ := findEntry_mergeEntries_some increasing merges mentioned
      rw [layAt, meets, found]
      rfl

theorem mergeEntries_succeeds (increasing : KeysIncrease fragment)
    (meets : ∀ e ∈ fragment,
      ∃ met, meet (childPath path e.1) (findEntry e.1 base) e.2 = .ok met) :
    ∃ merged, mergeEntries path base fragment = .ok merged := by
  induction fragment generalizing base with
  | nil => exact ⟨base, rfl⟩
  | cons entry rest ih =>
      obtain ⟨above, restIncreasing⟩ := List.pairwise_cons.mp increasing
      obtain ⟨⟨met, meetsFirst⟩, meetsRest⟩ := List.forall_mem_cons.mp meets
      -- the entry that is put first is not at the key of a later one
      have meetsLater : ∀ e ∈ rest, ∃ metThere, meet (childPath path e.1)
          (findEntry e.1 (putEntry entry.1 met base)) e.2 = .ok metThere := by
        intro e member
        have different : e.1 ≠ entry.1 := by
          intro same
          exact String.lt_irrefl entry.1 (same ▸ above e member)
        rw [findEntry_putEntry, if_neg different]
        exact meetsRest e member
      obtain ⟨merged, merges⟩ := ih restIncreasing meetsLater
      exact ⟨merged, mergeEntries_cons_eq_ok.mpr ⟨met, meetsFirst, merges⟩⟩

theorem mergeEntries_increasing (increasing : KeysIncrease base)
    (merges : mergeEntries path base fragment = .ok merged) : KeysIncrease merged := by
  induction fragment generalizing base with
  | nil =>
      simp only [mergeEntries, Except.ok.injEq] at merges
      exact merges ▸ increasing
  | cons entry rest ih =>
      obtain ⟨met, _, others⟩ := mergeEntries_cons_eq_ok.mp merges
      exact ih (keysIncrease_putEntry entry.1 met increasing) others

theorem exists_mergeEntries (increasing : KeysIncrease fragment)
    (lays : ∀ key, ∃ laid,
      layAt (childPath path key) (findEntry key base) (findEntry key fragment) = .ok laid) :
    ∃ merged, mergeEntries path base fragment = .ok merged := by
  apply mergeEntries_succeeds increasing
  rintro ⟨key, value⟩ member
  obtain ⟨laid, laying⟩ := lays key
  rw [(findEntry_eq_some_iff increasing).mpr member, layAt_some] at laying
  cases meets : meet (childPath path key) (findEntry key base) value with
  | ok met => exact ⟨met, rfl⟩
  | error clash =>
      rw [meets] at laying
      cases laying

theorem mergeEntries_eq_ok_iff (baseIncreasing : KeysIncrease base)
    (fragmentIncreasing : KeysIncrease fragment) :
    mergeEntries path base fragment = .ok merged ↔ KeysIncrease merged ∧
      ∀ key, layAt (childPath path key) (findEntry key base) (findEntry key fragment) =
        .ok (findEntry key merged) := by
  constructor
  · intro merges
    exact ⟨mergeEntries_increasing baseIncreasing merges,
      layAt_mergeEntries fragmentIncreasing merges⟩
  · rintro ⟨increasing, lays⟩
    obtain ⟨other, merges⟩ := exists_mergeEntries fragmentIncreasing fun key => ⟨_, lays key⟩
    have same : other = merged := by
      apply entries_ext (mergeEntries_increasing baseIncreasing merges) increasing
      intro key
      have laysOther := layAt_mergeEntries fragmentIncreasing merges key
      exact Except.ok.inj (laysOther.symm.trans (lays key))
    exact same ▸ merges

theorem first_of_mergeEntries_eq_error {clash : Clash} (increasing : KeysIncrease fragment)
    (clashes : mergeEntries path base fragment = .error clash) :
    ∃ key existing value, findEntry key base = some existing ∧
      findEntry key fragment = some value ∧
      Tree.merge (childPath path key) existing value = .error clash ∧
      ∀ earlier, earlier < key → ∃ laid, layAt (childPath path earlier) (findEntry earlier base)
        (findEntry earlier fragment) = .ok laid := by
  -- on the fragment: its first entry clashes, or is put and the first clash comes after it
  induction fragment generalizing base with
  | nil => cases clashes
  | cons entry rest ih =>
      obtain ⟨above, restIncreasing⟩ := List.pairwise_cons.mp increasing
      rw [mergeEntries_cons] at clashes
      cases meets : meet (childPath path entry.1) (findEntry entry.1 base) entry.2 with
      | error first =>
          rw [meets] at clashes
          cases clashes
          cases found : findEntry entry.1 base with
          | none =>
              rw [found] at meets
              cases meets
          | some existing =>
              rw [found] at meets
              refine ⟨entry.1, existing, entry.2, found, by simp [findEntry], meets, ?_⟩
              intro earlier less
              have unmentioned : findEntry earlier (entry :: rest) = none := by
                rw [findEntry_eq_none_iff]
                intro e member same
                rcases List.mem_cons.mp member with rfl | later
                · exact String.lt_irrefl e.1 (same ▸ less)
                · exact String.lt_irrefl e.1 (String.lt_trans (same ▸ less) (above e later))
              exact ⟨findEntry earlier base, by rw [unmentioned]; rfl⟩
      | ok met =>
          rw [meets] at clashes
          obtain ⟨key, existing, value, found, mentioned, merges, before⟩ :=
            ih restIncreasing clashes
          have later : entry.1 < key := above _ (mem_of_findEntry mentioned)
          have different : key ≠ entry.1 := by
            rintro rfl
            exact String.lt_irrefl _ later
          rw [findEntry_putEntry, if_neg different] at found
          refine ⟨key, existing, value, found, by simpa [findEntry, different], merges, ?_⟩
          intro earlier less
          by_cases isFirst : earlier = entry.1
          · rw [isFirst, findEntry, if_pos rfl, layAt_some, meets]
            exact ⟨_, rfl⟩
          · have lays := before earlier less
            rw [findEntry_putEntry, if_neg isFirst] at lays
            rw [findEntry, if_neg isFirst]
            exact lays

end Stackwright
