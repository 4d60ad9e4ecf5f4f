import Stackwright.Proofs.Outcome
import Stackwright.Proofs.Tree.Pointwise

/-!
Laws of merging. Null is neutral on both sides, a fragment that is laid twice is laid once, and it
does not matter which of two merges in a row is made first: they clash in either order or in none.
-/

namespace Stackwright

theorem sizeOf_lt_of_findEntry {key : String} {value : Tree} {entries : List (String × Tree)}
    (found : findEntry key entries = some value) : sizeOf value < sizeOf (Tree.map entries) := by
  have entrySize := List.sizeOf_lt_of_mem (mem_of_findEntry found)
  simp only [Prod.mk.sizeOf_spec, Tree.map.sizeOf_spec] at entrySize ⊢
  omega

/-- What holds of a map once it holds of the values at its keys holds of every tree. -/
theorem Tree.byKeys {motive : Tree → Prop} (null : motive .null)
    (scalar : ∀ value, motive (.scalar value)) (sequence : ∀ items, motive (.sequence items))
    (map : ∀ entries, (∀ key value, findEntry key entries = some value → motive value) →
      motive (.map entries)) : ∀ tree, motive tree
  | .null => null
  | .scalar value => scalar value
  | .sequence items => sequence items
  | .map entries => map entries fun _ value _found =>
    Tree.byKeys null scalar sequence map value
termination_by tree => sizeOf tree
decreasing_by exact sizeOf_lt_of_findEntry _found

section

variable {path : String} {base fragment merged : Tree}

theorem merge_null_right (path : String) (base : Tree) :
    Tree.merge path base .null = .ok base := rfl

theorem merge_maps_eq_ok {entries laid : List (String × Tree)} :
    Tree.merge path (.map entries) (.map laid) = .ok merged ↔
      ∃ result, mergeEntries path entries laid = .ok result ∧ Tree.map result = merged :=
  map_eq_ok

theorem kinds_agree_of_merge (merges : Tree.merge path base fragment = .ok merged)
    (baseGiven : base.kind ≠ .null) (fragmentGiven : fragment.kind ≠ .null) :
    base.kind = fragment.kind :=
  (kind_kept_by_merge merges baseGiven).symm.trans (kind_of_merge merges fragmentGiven)

theorem eq_map_of_kind (isMap : fragment.kind = .map) : ∃ entries, fragment = .map entries := by
  cases fragment <;> first | exact ⟨_, rfl⟩ | cases isMap

theorem merge_replaces (path : String) (same : base.kind = fragment.kind)
    (given : fragment.kind ≠ .null) (plain : fragment.kind ≠ .map) :
    Tree.merge path base fragment = .ok fragment := by
  cases fragment with
  | null => exact absurd rfl given
  | map _ => exact absurd rfl plain
  | scalar _ => cases base <;> first | rfl | cases same
  | sequence _ => cases base <;> first | rfl | cases same

mutual
theorem merge_elsewhere {path : String} {base fragment merged : Tree} (other : String)
    (merges : Tree.merge path base fragment = .ok merged) :
    Tree.merge other base fragment = .ok merged := by
  cases fragment with
  | null => exact merges
  | scalar _ => cases base <;> first | exact merges | cases merges
  | sequence _ => cases base <;> first | exact merges | cases merges
  | map laid =>
      cases base with
      | null => exact merges
      | scalar _ => cases merges
      | sequence _ => cases merges
      | map entries =>
          obtain ⟨result, laying, rfl⟩ := map_eq_ok.mp merges
          rw [Tree.merge, mergeEntries_elsewhere other laying]
          rfl

theorem mergeEntries_elsewhere {path : String} {base fragment merged : List (String × Tree)}
    (other : String) (merges : mergeEntries path base fragment = .ok merged) :
    mergeEntries other base fragment = .ok merged := by
  cases fragment with
  | nil => exact merges
  | cons entry rest =>
      obtain ⟨met, meets, others⟩ := mergeEntries_cons_eq_ok.mp merges
      have meetsThere : meet (childPath other entry.1) (findEntry entry.1 base) entry.2 =
          .ok met := by
        cases found : findEntry entry.1 base with
        | none =>
            rw [found] at meets
            exact meets
        | some existing =>
            rw [found] at meets
            exact merge_elsewhere (childPath other entry.1) meets
      exact mergeEntries_cons_eq_ok.mpr ⟨met, meetsThere, mergeEntries_elsewhere other others⟩
end

theorem merge_elsewhere_iff (path other : String) {base fragment merged : Tree} :
    Tree.merge path base fragment = .ok merged ↔ Tree.merge other base fragment = .ok merged :=
  ⟨merge_elsewhere other, merge_elsewhere path⟩

end

theorem layAt_absent {path : String} (base : Option Tree) : layAt path base none = .ok base := rfl

theorem layAt_both_eq_ok {path : String} {existing value : Tree} {result : Option Tree} :
    layAt path (some existing) (some value) = .ok result ↔
      ∃ merged, Tree.merge path existing value = .ok merged ∧ some merged = result :=
  map_eq_ok

theorem layAt_elsewhere_iff (path other : String) {base laid result : Option Tree} :
    layAt path base laid = .ok result ↔ layAt other base laid = .ok result := by
  cases base with
  | none => rw [layAt_nothing, layAt_nothing]
  | some existing =>
      cases laid with
      | none => rfl
      | some value => simp only [layAt_both, map_eq_ok, merge_elsewhere_iff path other]

/-- The two ways to merge three trees come to the same: both end in a clash, or both in one tree. -/
def MergesAlike (p q r s : String) (first second third : Tree) : Prop :=
  ∀ result,
    (∃ early, Tree.merge p first second = .ok early ∧ Tree.merge q early third = .ok result) ↔
      ∃ late, Tree.merge r second third = .ok late ∧ Tree.merge s first late = .ok result

section

variable {p q r s : String}

theorem mergesAlike_of_null {first second third : Tree}
    (null : first = .null ∨ second = .null ∨ third = .null) :
    MergesAlike p q r s first second third := by
  intro result
  rcases null with rfl | rfl | rfl
  · simp [merge_null_left, merge_elsewhere_iff q r]
  · simp [merge_null_left, merge_null_right, merge_elsewhere_iff q s]
  · simp [merge_null_right, merge_elsewhere_iff p s]

theorem mergesAlike_of_kinds {first second third : Tree} (firstGiven : first.kind ≠ .null)
    (secondGiven : second.kind ≠ .null) (thirdGiven : third.kind ≠ .null)
    (apart : ¬ (first.kind = second.kind ∧ second.kind = third.kind)) :
    MergesAlike p q r s first second third := by
  intro result
  constructor
  · rintro ⟨early, merges, mergesLast⟩
    have earlyKind := kind_of_merge merges secondGiven
    have given : early.kind ≠ .null := earlyKind ▸ secondGiven
    have agree := kinds_agree_of_merge mergesLast given thirdGiven
    exact absurd ⟨kinds_agree_of_merge merges firstGiven secondGiven, earlyKind.symm.trans agree⟩
      apart
  · rintro ⟨late, merges, mergesLast⟩
    have lateKind := kind_kept_by_merge merges secondGiven
    have given : late.kind ≠ .null := lateKind ▸ secondGiven
    have agree := kinds_agree_of_merge mergesLast firstGiven given
    exact absurd ⟨agree.trans lateKind, kinds_agree_of_merge merges secondGiven thirdGiven⟩ apart

theorem mergesAlike_of_plain {first second third : Tree} (same : first.kind = second.kind)
    (sameToo : second.kind = third.kind) (given : third.kind ≠ .null) (plain : third.kind ≠ .map) :
    MergesAlike p q r s first second third := by
  intro result
  have early := merge_replaces p same (sameToo ▸ given) (sameToo ▸ plain)
  have late := merge_replaces r sameToo given plain
  simp [early, late, merge_replaces q sameToo given plain,
    merge_replaces s (same.trans sameToo) given plain]

theorem mergesAlike_of_no_map {first second third : Tree}
    (noMap : ¬ (first.kind = .map ∧ second.kind = .map ∧ third.kind = .map)) :
    MergesAlike p q r s first second third := by
  by_cases null : first.kind = .null ∨ second.kind = .null ∨ third.kind = .null
  · exact mergesAlike_of_null
      (null.imp eq_null_of_kind (Or.imp eq_null_of_kind eq_null_of_kind))
  · obtain ⟨firstGiven, others⟩ := not_or.mp null
    obtain ⟨secondGiven, thirdGiven⟩ := not_or.mp others
    by_cases same : first.kind = second.kind ∧ second.kind = third.kind
    · apply mergesAlike_of_plain same.1 same.2 thirdGiven
      intro isMap
      exact noMap ⟨same.1.trans (same.2.trans isMap), same.2.trans isMap, isMap⟩
    · exact mergesAlike_of_kinds firstGiven secondGiven thirdGiven same

/-- What the merge of three maps in a row holds at a key is laid there in the same way. -/
theorem layAt_assoc {first second third : Option Tree} (result : Option Tree)
    (alike : ∀ x y z, first = some x → second = some y → third = some z →
      MergesAlike p q r s x y z) :
    (∃ early, layAt p first second = .ok early ∧ layAt q early third = .ok result) ↔
      ∃ late, layAt r second third = .ok late ∧ layAt s first late = .ok result := by
  cases third with
  | none => simp [layAt_absent, layAt_elsewhere_iff p s]
  | some z =>
      cases second with
      | none => simp [layAt_absent, layAt_nothing, layAt_elsewhere_iff q s]
      | some y =>
          cases first with
          | none => simp [layAt_nothing, layAt_elsewhere_iff q r]
          | some x =>
              have alikeHere := alike x y z rfl rfl rfl
              constructor
              · rintro ⟨_, lays, laysLast⟩
                obtain ⟨early, merges, rfl⟩ := layAt_both_eq_ok.mp lays
                obtain ⟨last, mergesLast, rfl⟩ := layAt_both_eq_ok.mp laysLast
                obtain ⟨late, mergesLate, mergesFirst⟩ :=
                  (alikeHere last).mp ⟨early, merges, mergesLast⟩
                exact ⟨some late, layAt_both_eq_ok.mpr ⟨late, mergesLate, rfl⟩,
                  layAt_both_eq_ok.mpr ⟨last, mergesFirst, rfl⟩⟩
              · rintro ⟨_, lays, laysLast⟩
                obtain ⟨late, merges, rfl⟩ := layAt_both_eq_ok.mp lays
                obtain ⟨last, mergesLast, rfl⟩ := layAt_both_eq_ok.mp laysLast
                obtain ⟨early, mergesEarly, mergesThird⟩ :=
                  (alikeHere last).mpr ⟨late, merges, mergesLast⟩
                exact ⟨some early, layAt_both_eq_ok.mpr ⟨early, mergesEarly, rfl⟩,
                  layAt_both_eq_ok.mpr ⟨last, mergesThird, rfl⟩⟩

section

variable {first second third result : List (String × Tree)}

theorem mergeEntries_early_iff (firstIncreasing : KeysIncrease first)
    (secondIncreasing : KeysIncrease second) (thirdIncreasing : KeysIncrease third) :
    (∃ early, mergeEntries p first second = .ok early ∧
        mergeEntries q early third = .ok result) ↔
      KeysIncrease result ∧ ∀ key, ∃ early,
        layAt (childPath p key) (findEntry key first) (findEntry key second) = .ok early ∧
        layAt (childPath q key) early (findEntry key third) = .ok (findEntry key result) := by
  constructor
  · rintro ⟨early, merges, mergesLast⟩
    have increasing := mergeEntries_increasing firstIncreasing merges
    obtain ⟨resultIncreasing, lays⟩ :=
      (mergeEntries_eq_ok_iff increasing thirdIncreasing).mp mergesLast
    exact ⟨resultIncreasing, fun key =>
      ⟨_, layAt_mergeEntries secondIncreasing merges key, lays key⟩⟩
  · rintro ⟨resultIncreasing, lays⟩
    obtain ⟨early, merges⟩ : ∃ early, mergeEntries p first second = .ok early :=
      exists_mergeEntries secondIncreasing fun key => ⟨_, (lays key).choose_spec.1⟩
    refine ⟨early, merges, ?_⟩
    have increasing := mergeEntries_increasing firstIncreasing merges
    refine (mergeEntries_eq_ok_iff increasing thirdIncreasing).mpr ⟨resultIncreasing, ?_⟩
    intro key
    obtain ⟨there, laysEarly, laysLast⟩ := lays key
    have same := laysEarly.symm.trans (layAt_mergeEntries secondIncreasing merges key)
    rw [← Except.ok.inj same]
    exact laysLast

theorem mergeEntries_late_iff (firstIncreasing : KeysIncrease first)
    (secondIncreasing : KeysIncrease second) (thirdIncreasing : KeysIncrease third) :
    (∃ late, mergeEntries r second third = .ok late ∧
        mergeEntries s first late = .ok result) ↔
      KeysIncrease result ∧ ∀ key, ∃ late,
        layAt (childPath r key) (findEntry key second) (findEntry key third) = .ok late ∧
        layAt (childPath s key) (findEntry key first) late = .ok (findEntry key result) := by
  constructor
  · rintro ⟨late, merges, mergesLast⟩
    have increasing := mergeEntries_increasing secondIncreasing merges
    obtain ⟨resultIncreasing, lays⟩ :=
      (mergeEntries_eq_ok_iff firstIncreasing increasing).mp mergesLast
    exact ⟨resultIncreasing, fun key =>
      ⟨_, layAt_mergeEntries thirdIncreasing merges key, lays key⟩⟩
  · rintro ⟨resultIncreasing, lays⟩
    obtain ⟨late, merges⟩ : ∃ late, mergeEntries r second third = .ok late :=
      exists_mergeEntries thirdIncreasing fun key => ⟨_, (lays key).choose_spec.1⟩
    refine ⟨late, merges, ?_⟩
    have increasing := mergeEntries_increasing secondIncreasing merges
    refine (mergeEntries_eq_ok_iff firstIncreasing increasing).mpr ⟨resultIncreasing, ?_⟩
    intro key
    obtain ⟨there, laysLate, laysLast⟩ := lays key
    have same := laysLate.symm.trans (layAt_mergeEntries thirdIncreasing merges key)
    rw [← Except.ok.inj same]
    exact laysLast

end

theorem mergesAlike_map {first second third : List (String × Tree)}
    (firstIncreasing : KeysIncrease first) (secondIncreasing : KeysIncrease second)
    (thirdIncreasing : KeysIncrease third)
    (alike : ∀ key x y z, findEntry key first = some x → findEntry key second = some y →
      findEntry key third = some z → MergesAlike (childPath p key) (childPath q key)
        (childPath r key) (childPath s key) x y z) :
    MergesAlike p q r s (.map first) (.map second) (.map third) := by
  have entriesAlike : ∀ result,
      (∃ early, mergeEntries p first second = .ok early ∧
        mergeEntries q early third = .ok result) ↔
      ∃ late, mergeEntries r second third = .ok late ∧ mergeEntries s first late = .ok result := by
    intro result
    rw [mergeEntries_early_iff firstIncreasing secondIncreasing thirdIncreasing,
      mergeEntries_late_iff firstIncreasing secondIncreasing thirdIncreasing]
    simp only [fun key => layAt_assoc (findEntry key result) (alike key)]
  intro result
  constructor
  · rintro ⟨_, merges, mergesLast⟩
    obtain ⟨early, laysEarly, rfl⟩ := merge_maps_eq_ok.mp merges
    obtain ⟨entries, laysLast, rfl⟩ := merge_maps_eq_ok.mp mergesLast
    obtain ⟨late, laysLate, laysFirst⟩ := (entriesAlike entries).mp ⟨early, laysEarly, laysLast⟩
    exact ⟨.map late, merge_maps_eq_ok.mpr ⟨late, laysLate, rfl⟩,
      merge_maps_eq_ok.mpr ⟨entries, laysFirst, rfl⟩⟩
  · rintro ⟨_, merges, mergesLast⟩
    obtain ⟨late, laysLate, rfl⟩ := merge_maps_eq_ok.mp merges
    obtain ⟨entries, laysLast, rfl⟩ := merge_maps_eq_ok.mp mergesLast
    obtain ⟨early, laysEarly, laysThird⟩ := (entriesAlike entries).mpr ⟨late, laysLate, laysLast⟩
    exact ⟨.map early, merge_maps_eq_ok.mpr ⟨early, laysEarly, rfl⟩,
      merge_maps_eq_ok.mpr ⟨entries, laysThird, rfl⟩⟩

end

theorem merge_assoc {first second third : Tree} (p q r s : String) (firstOrdered : first.Ordered)
    (secondOrdered : second.Ordered) (thirdOrdered : third.Ordered) :
    MergesAlike p q r s first second third := by
  -- on the first tree; a merge of maps comes down to merges of the values at their keys
  induction first using Tree.byKeys generalizing p q r s second third with
  | null => exact mergesAlike_of_null (.inl rfl)
  | scalar value => exact mergesAlike_of_no_map nofun
  | sequence items => exact mergesAlike_of_no_map nofun
  | map entries ih =>
      by_cases mapsAll : second.kind = .map ∧ third.kind = .map
      · obtain ⟨secondEntries, rfl⟩ := eq_map_of_kind mapsAll.1
        obtain ⟨thirdEntries, rfl⟩ := eq_map_of_kind mapsAll.2
        apply mergesAlike_map firstOrdered.1 secondOrdered.1 thirdOrdered.1
        intro key x y z foundFirst foundSecond foundThird
        exact ih key x foundFirst _ _ _ _ (ordered_of_findEntry firstOrdered.2 foundFirst)
          (ordered_of_findEntry secondOrdered.2 foundSecond)
          (ordered_of_findEntry thirdOrdered.2 foundThird)
      · exact mergesAlike_of_no_map fun ⟨_, others⟩ => mapsAll others

theorem merge_self {tree : Tree} (path : String) (ordered : tree.Ordered) :
    Tree.merge path tree tree = .ok tree := by
  induction tree using Tree.byKeys generalizing path with
  | null => rfl
  | scalar value => rfl
  | sequence items => rfl
  | map entries ih =>
      apply merge_maps_eq_ok.mpr
      refine ⟨entries, (mergeEntries_eq_ok_iff ordered.1 ordered.1).mpr ⟨ordered.1, ?_⟩, rfl⟩
      intro key
      cases found : findEntry key entries with
      | none => rfl
      | some value =>
          rw [layAt_both, ih key value found _ (ordered_of_findEntry ordered.2 found)]
          rfl

theorem merge_again {base fragment once : Tree} {path : String} (other : String)
    (baseOrdered : base.Ordered) (fragmentOrdered : fragment.Ordered)
    (merges : Tree.merge path base fragment = .ok once) :
    Tree.merge other once fragment = .ok once := by
  have alike := merge_assoc path other path path baseOrdered fragmentOrdered fragmentOrdered once
  obtain ⟨early, mergesFirst, mergesAgain⟩ :=
    alike.mpr ⟨fragment, merge_self path fragmentOrdered, merges⟩
  cases merges.symm.trans mergesFirst
  exact mergesAgain

/-- Null is neutral on both sides; a tree laid over itself, or a fragment laid twice, adds nothing;
and three trees merge in either order or in none, to the same tree. Where the trees stand matters
for none of this. -/
theorem merge_monoid {first second third : Tree} (p q r s : String) (firstOrdered : first.Ordered)
    (secondOrdered : second.Ordered) (thirdOrdered : third.Ordered) :
    Tree.merge p first .null = .ok first ∧ Tree.merge p .null first = .ok first ∧
    Tree.merge p first first = .ok first ∧
    (∀ once, Tree.merge p first second = .ok once → Tree.merge q once second = .ok once) ∧
    ∀ result,
      (Tree.merge p first second >>= fun early => Tree.merge q early third) = .ok result ↔
        (Tree.merge r second third >>= fun late => Tree.merge s first late) = .ok result := by
  refine ⟨merge_null_right p first, merge_null_left p first, merge_self p firstOrdered, ?_, ?_⟩
  · exact fun _ => merge_again q firstOrdered secondOrdered
  · intro result
    rw [bind_eq_ok, bind_eq_ok]
    exact merge_assoc p q r s firstOrdered secondOrdered thirdOrdered result

namespace Tree

def checkedByPath : Tree := .map [("cpu", .scalar (.integer 256)),
  ("http", .map [("healthcheck", .scalar (.string "/"))])]

def nulled : Tree := .map [("cpu", .null), ("http", .map [("alias", .null)])]

def checkedInFull : Tree := .map [("http", .map [("healthcheck", .map [])])]

end Tree

/-- Nulls that are laid in between neither settle the clash of the two checks nor bring it about. -/
theorem merge_monoid_nulled :
    Tree.checkedByPath.Ordered ∧ Tree.nulled.Ordered ∧ Tree.checkedInFull.Ordered ∧
    (∃ once, Tree.merge "" .checkedByPath .nulled = .ok once ∧
      Tree.merge "again" once .nulled = .ok once) ∧
    (∃ late, Tree.merge "late" .nulled .checkedInFull = .ok late ∧
      ∀ result, Tree.merge "first" .checkedByPath late ≠ .ok result) ∧
    ∀ result, (Tree.merge "" .checkedByPath .nulled >>= fun early =>
      Tree.merge "again" early .checkedInFull) ≠ .ok result := by
  have increases : "cpu" < "http" := by decide +kernel
  have byPath : Tree.checkedByPath.Ordered :=
    ordered_pair increases trivial (ordered_singleton trivial)
  have nulled : Tree.nulled.Ordered := ordered_pair increases trivial (ordered_singleton trivial)
  have inFull : Tree.checkedInFull.Ordered :=
    ordered_singleton (ordered_singleton ⟨List.Pairwise.nil, trivial⟩)
  obtain ⟨once, merges⟩ : ∃ once, Tree.merge "" .checkedByPath .nulled = .ok once := ⟨_, rfl⟩
  obtain ⟨late, mergesLate, clashes⟩ : ∃ late,
      Tree.merge "late" .nulled .checkedInFull = .ok late ∧
        ∀ result, Tree.merge "first" .checkedByPath late ≠ .ok result := ⟨_, rfl, nofun⟩
  obtain ⟨-, -, -, again, alike⟩ := merge_monoid "" "again" "late" "first" byPath nulled inFull
  refine ⟨byPath, nulled, inFull, ⟨once, merges, again once merges⟩,
    ⟨late, mergesLate, clashes⟩, ?_⟩
  intro result mergesAll
  obtain ⟨other, mergesThere, mergesLast⟩ := bind_eq_ok.mp ((alike result).mp mergesAll)
  cases mergesLate.symm.trans mergesThere
  exact clashes result mergesLast

end Stackwright
