import Stackwright.Overlay
import Stackwright.Proofs.ByteOrder
import Stackwright.Proofs.Tree.Laws

/-!
Merges place by place. A place is a path of keys; two trees clash where both hold something, of
different kinds. A merge fails just if there is such a place and tells of the first, and where it
succeeds it holds at each place what the two trees hold there.
-/

namespace Stackwright

namespace Tree

/-- The value at a path of keys, all of whose steps lead through maps. -/
def at? : List String → Tree → Option Tree
  | [], tree => some tree
  | key :: rest, .map entries => (findEntry key entries).bind (at? rest)
  | _ :: _, _ => none

/-- Both trees hold a value at a path of keys, neither is null, and their kinds differ. -/
def ClashAt (base fragment : Tree) (keys : List String) (existing value : Tree) : Prop :=
  base.at? keys = some existing ∧ fragment.at? keys = some value ∧
    existing.kind ≠ .null ∧ value.kind ≠ .null ∧ existing.kind ≠ value.kind

/-- The order in which a walk through maps meets places: outer before inner ones, and the keys of a
map by their bytes. -/
def Before (keys others : List String) : Prop := keys.map textBytes < others.map textBytes

def FirstClash (base fragment : Tree) (keys : List String) (existing value : Tree) : Prop :=
  base.ClashAt fragment keys existing value ∧
    ∀ others x y, base.ClashAt fragment others x y → others ≠ keys → Before keys others

/-- What stands at a place once a fragment is laid over a base. Each may hold something there. A
null that is laid over nothing is kept. -/
def LaidOver (base fragment merged : Option Tree) : Prop :=
  match base, fragment with
  | base, none => merged = base
  | none, some value => merged = some value
  | some existing, some .null => merged = some existing
  | some .null, some value => merged = some value
  | some (.map entries), some (.map laid) => ∃ result, merged = some (.map result) ∧
      ∀ key, key ∈ result.map Prod.fst ↔ key ∈ entries.map Prod.fst ∨ key ∈ laid.map Prod.fst
  | some existing, some value => existing.kind = value.kind ∧ merged = some value

end Tree

def placeText (path : String) (keys : List String) : String := keys.foldl childPath path

section

variable {base fragment existing value : Tree} {keys others : List String} {key : String}

theorem at?_map {entries : List (String × Tree)} (key : String) (rest : List String) :
    (Tree.map entries).at? (key :: rest) = (findEntry key entries).bind (Tree.at? rest) := rfl

theorem at?_cons_eq_some {tree : Tree} :
    tree.at? (key :: keys) = some value ↔ ∃ entries inner, tree = .map entries ∧
      findEntry key entries = some inner ∧ inner.at? keys = some value := by
  cases tree with
  | map entries => simp [at?_map, Option.bind_eq_some_iff]
  | _ => simp [Tree.at?]

theorem at?_append (keys others : List String) (tree : Tree) :
    tree.at? (keys ++ others) = (tree.at? keys).bind (Tree.at? others) := by
  induction keys generalizing tree with
  | nil => rfl
  | cons key rest ih =>
      cases tree with
      | map entries =>
          rw [List.cons_append, at?_map, at?_map, Option.bind_assoc]
          exact Option.bind_congr fun inner _ => ih inner
      | _ => rfl

theorem before_iff : Tree.Before keys others ↔ keys < others := by
  have byBytes : ∀ a b : String, a < b → textBytes a < textBytes b := fun _ _ => textBytes_lt
  constructor
  · intro before
    rcases Std.lt_trichotomy keys others with less | rfl | greater
    · exact less
    · exact absurd before (List.lt_irrefl _)
    · exact absurd before (List.lt_asymm (List.map_lt byBytes greater))
  · exact List.map_lt byBytes

theorem clashAt_map {entries laid : List (String × Tree)} :
    (Tree.map entries).ClashAt (.map laid) keys existing value ↔
      ∃ key rest x y, keys = key :: rest ∧ findEntry key entries = some x ∧
        findEntry key laid = some y ∧ x.ClashAt y rest existing value := by
  constructor
  · rintro ⟨baseThere, fragmentThere, given⟩
    cases keys with
    | nil =>
        cases baseThere
        cases fragmentThere
        exact absurd rfl given.2.2
    | cons key rest =>
        obtain ⟨x, foundBase, xThere⟩ := Option.bind_eq_some_iff.mp baseThere
        obtain ⟨y, foundFragment, yThere⟩ := Option.bind_eq_some_iff.mp fragmentThere
        exact ⟨key, rest, x, y, rfl, foundBase, foundFragment, xThere, yThere, given⟩
  · rintro ⟨key, rest, x, y, rfl, foundBase, foundFragment, xThere, yThere, given⟩
    refine ⟨?_, ?_, given⟩
    · rw [at?_map, foundBase]
      exact xThere
    · rw [at?_map, foundFragment]
      exact yThere

theorem keys_of_clashAt_kinds (apart : base.kind ≠ fragment.kind)
    (clash : base.ClashAt fragment keys existing value) : keys = [] := by
  obtain ⟨baseThere, fragmentThere, _⟩ := clash
  cases keys with
  | nil => rfl
  | cons key rest =>
      obtain ⟨_, _, rfl, _⟩ := at?_cons_eq_some.mp baseThere
      obtain ⟨_, _, rfl, _⟩ := at?_cons_eq_some.mp fragmentThere
      exact absurd rfl apart

theorem merge_at {path : String} {merged : Tree} (ordered : fragment.Ordered)
    (merges : Tree.merge path base fragment = .ok merged)
    (baseThere : base.at? keys = some existing) (fragmentThere : fragment.at? keys = some value) :
    ∃ met, merged.at? keys = some met ∧
      Tree.merge (placeText path keys) existing value = .ok met := by
  induction keys generalizing base fragment merged path with
  | nil =>
      cases baseThere
      cases fragmentThere
      exact ⟨merged, rfl, merges⟩
  | cons key rest ih =>
      obtain ⟨entries, x, rfl, foundBase, xThere⟩ := at?_cons_eq_some.mp baseThere
      obtain ⟨laid, y, rfl, foundFragment, yThere⟩ := at?_cons_eq_some.mp fragmentThere
      obtain ⟨result, laying, rfl⟩ := merge_maps_eq_ok.mp merges
      have lays := layAt_mergeEntries ordered.1 laying key
      rw [foundBase, foundFragment] at lays
      obtain ⟨inner, mergesInner, foundMerged⟩ := layAt_both_eq_ok.mp lays
      obtain ⟨met, there, mergesThere⟩ :=
        ih (ordered_of_findEntry ordered.2 foundFragment) mergesInner xThere yThere
      refine ⟨met, ?_, mergesThere⟩
      rw [at?_map, ← foundMerged]
      exact there

theorem no_clash_of_merge {path : String} {merged : Tree} (ordered : fragment.Ordered)
    (merges : Tree.merge path base fragment = .ok merged) :
    ¬ base.ClashAt fragment keys existing value := by
  rintro ⟨baseThere, fragmentThere, baseGiven, fragmentGiven, apart⟩
  obtain ⟨_, _, mergesThere⟩ := merge_at ordered merges baseThere fragmentThere
  exact apart (kinds_agree_of_merge mergesThere baseGiven fragmentGiven)

theorem merge_error_cases {path : String} {clash : Clash}
    (clashes : Tree.merge path base fragment = .error clash) :
    (base.ClashAt fragment [] base fragment ∧ clash = ⟨path, base.kind, fragment.kind⟩) ∨
      ∃ entries laid, base = .map entries ∧ fragment = .map laid ∧
        mergeEntries path entries laid = .error clash := by
  cases fragment with
  | null => cases clashes
  | scalar _ =>
      cases base <;> first
        | cases clashes; exact .inl ⟨⟨rfl, rfl, nofun, nofun, nofun⟩, rfl⟩
        | cases clashes
  | sequence _ =>
      cases base <;> first
        | cases clashes; exact .inl ⟨⟨rfl, rfl, nofun, nofun, nofun⟩, rfl⟩
        | cases clashes
  | map laid =>
      cases base with
      | null => cases clashes
      | scalar _ =>
          cases clashes
          exact .inl ⟨⟨rfl, rfl, nofun, nofun, nofun⟩, rfl⟩
      | sequence _ =>
          cases clashes
          exact .inl ⟨⟨rfl, rfl, nofun, nofun, nofun⟩, rfl⟩
      | map entries => exact .inr ⟨entries, laid, rfl, rfl, map_eq_error.mp clashes⟩

theorem firstClash_root (here : base.ClashAt fragment [] base fragment) :
    base.FirstClash fragment [] base fragment := by
  refine ⟨here, ?_⟩
  intro others _ _ other different
  exact absurd (keys_of_clashAt_kinds here.2.2.2.2 other) different

theorem first_clash_of_merge {path : String} {clash : Clash} (ordered : fragment.Ordered)
    (clashes : Tree.merge path base fragment = .error clash) :
    ∃ keys existing value, base.FirstClash fragment keys existing value ∧
      clash = ⟨placeText path keys, existing.kind, value.kind⟩ := by
  -- on the fragment; the first clash of two maps is within the first key that has one
  induction fragment using Tree.byKeys generalizing base path with
  | null => cases clashes
  | scalar value =>
      rcases merge_error_cases clashes with ⟨here, told⟩ | ⟨_, _, _, isMap, _⟩
      · exact ⟨[], base, .scalar value, firstClash_root here, told⟩
      · cases isMap
  | sequence items =>
      rcases merge_error_cases clashes with ⟨here, told⟩ | ⟨_, _, _, isMap, _⟩
      · exact ⟨[], base, .sequence items, firstClash_root here, told⟩
      · cases isMap
  | map laid ih =>
      rcases merge_error_cases clashes with ⟨here, told⟩ | ⟨entries, _, rfl, same, failing⟩
      · exact ⟨[], base, .map laid, firstClash_root here, told⟩
      · cases same
        obtain ⟨key, x, y, foundBase, foundFragment, clashesThere, before⟩ :=
          first_of_mergeEntries_eq_error ordered.1 failing
        obtain ⟨rest, existing, value, ⟨first, earliest⟩, told⟩ :=
          ih key y foundFragment (ordered_of_findEntry ordered.2 foundFragment) clashesThere
        refine ⟨key :: rest, existing, value,
          ⟨clashAt_map.mpr ⟨key, rest, x, y, rfl, foundBase, foundFragment, first⟩, ?_⟩, told⟩
        intro others a b other different
        obtain ⟨otherKey, otherRest, x', y', rfl, foundThere, foundLaid, inner⟩ :=
          clashAt_map.mp other
        rw [before_iff]
        rcases Std.lt_trichotomy otherKey key with less | rfl | greater
        · obtain ⟨_, lays⟩ := before otherKey less
          rw [foundThere, foundLaid] at lays
          obtain ⟨_, merges, _⟩ := layAt_both_eq_ok.mp lays
          exact absurd inner (no_clash_of_merge (ordered_of_findEntry ordered.2 foundLaid) merges)
        · cases foundBase.symm.trans foundThere
          cases foundFragment.symm.trans foundLaid
          have later := earliest otherRest a b inner fun same => different (same ▸ rfl)
          exact List.cons_lt_cons_iff.mpr (.inr ⟨rfl, before_iff.mp later⟩)
        · exact List.cons_lt_cons_iff.mpr (.inl greater)

theorem merge_fails_iff (path : String) (ordered : fragment.Ordered) :
    (∃ clash, Tree.merge path base fragment = .error clash) ↔
      ∃ keys existing value, base.ClashAt fragment keys existing value := by
  constructor
  · rintro ⟨clash, clashes⟩
    obtain ⟨keys, existing, value, first, _⟩ := first_clash_of_merge ordered clashes
    exact ⟨keys, existing, value, first.1⟩
  · rintro ⟨keys, existing, value, there⟩
    cases outcome : Tree.merge path base fragment with
    | error clash => exact ⟨clash, rfl⟩
    | ok merged => exact absurd there (no_clash_of_merge ordered outcome)

end

theorem keys_of_mergeEntries {path : String} {base fragment merged : List (String × Tree)}
    (increasing : KeysIncrease fragment)
    (merges : mergeEntries path base fragment = .ok merged) (key : String) :
    key ∈ merged.map Prod.fst ↔ key ∈ base.map Prod.fst ∨ key ∈ fragment.map Prod.fst := by
  have lays := layAt_mergeEntries increasing merges key
  rw [mem_keys_iff, mem_keys_iff, mem_keys_iff]
  cases mentioned : findEntry key fragment with
  | none =>
      rw [mentioned] at lays
      simp [← Except.ok.inj lays]
  | some value =>
      rw [mentioned] at lays
      obtain ⟨met, _, found⟩ := map_eq_ok.mp lays
      simp [← found]

theorem laidOver_of_merge {path : String} {base fragment merged : Tree} (ordered : fragment.Ordered)
    (merges : Tree.merge path base fragment = .ok merged) :
    Tree.LaidOver (some base) (some fragment) (some merged) := by
  rcases merge_cases merges with
    ⟨rfl, rfl⟩ | ⟨rfl, rfl⟩ | ⟨same, plain, rfl⟩ | ⟨entries, laid, result, rfl, rfl, laying, rfl⟩
  · cases merged <;> rfl
  · cases merged <;> rfl
  · cases merged with
    | null => cases base <;> first | rfl | cases same
    | scalar _ => cases base <;> first | exact ⟨rfl, rfl⟩ | cases same
    | sequence _ => cases base <;> first | exact ⟨rfl, rfl⟩ | cases same
    | map _ => exact absurd rfl plain
  · exact ⟨result, rfl, keys_of_mergeEntries ordered.1 laying⟩

theorem laidOver_of_layAt {path : String} {base laid merged : Option Tree}
    (ordered : ∀ value, laid = some value → value.Ordered)
    (lays : layAt path base laid = .ok merged) : Tree.LaidOver base laid merged := by
  cases laid with
  | none => exact (Except.ok.inj lays).symm
  | some value =>
      cases base with
      | none =>
          rw [layAt_nothing] at lays
          exact (Except.ok.inj lays).symm
      | some existing =>
          obtain ⟨met, merges, rfl⟩ := layAt_both_eq_ok.mp lays
          exact laidOver_of_merge (ordered value rfl) merges

section

variable {base fragment merged : Tree} {path : String}

theorem at?_ordered {keys : List String} {tree value : Tree} (ordered : tree.Ordered)
    (there : tree.at? keys = some value) : value.Ordered := by
  induction keys generalizing tree with
  | nil => exact Option.some.inj there ▸ ordered
  | cons key rest ih =>
      obtain ⟨entries, inner, rfl, found, innerThere⟩ := at?_cons_eq_some.mp there
      exact ih (ordered_of_findEntry ordered.2 found) innerThere

theorem laidOver_below {keys : List String} {entries laid : List (String × Tree)}
    (ordered : fragment.Ordered) (merges : Tree.merge path base fragment = .ok merged)
    (baseThere : base.at? keys = some (.map entries))
    (fragmentThere : fragment.at? keys = some (.map laid)) (key : String) :
    Tree.LaidOver (base.at? (keys ++ [key])) (fragment.at? (keys ++ [key]))
      (merged.at? (keys ++ [key])) := by
  have laidOrdered : (Tree.map laid).Ordered := at?_ordered ordered fragmentThere
  obtain ⟨met, there, mergesThere⟩ := merge_at ordered merges baseThere fragmentThere
  obtain ⟨result, laying, rfl⟩ := merge_maps_eq_ok.mp mergesThere
  have lays := layAt_mergeEntries laidOrdered.1 laying key
  have valueAt : ∀ {tree : Tree} {inside : List (String × Tree)},
      tree.at? keys = some (.map inside) → tree.at? (keys ++ [key]) = findEntry key inside := by
    intro tree inside isMap
    rw [at?_append, isMap, Option.bind_some, at?_map]
    cases findEntry key inside <;> rfl
  rw [valueAt baseThere, valueAt fragmentThere, valueAt there]
  exact laidOver_of_layAt (fun value found => ordered_of_findEntry laidOrdered.2 found) lays

theorem clash_message (clash : Clash) : (OverlayError.clash clash).message =
    "invalid override at " ++ (if clash.path = "" then "<root>" else clash.path) ++ ": "
      ++ ("cannot override a " ++ clash.base.name ++ " with a " ++ clash.fragment.name) := rfl

/-- A merge fails just where the two trees clash, and tells of the first place in a walk through
their maps, which goes by the bytes of the keys. Where it succeeds, what it holds at the root, and
at each key below maps of both trees, is what the two trees hold there, laid one over the other. -/
theorem merge_place_by_place (path : String) (ordered : fragment.Ordered) :
    ((∃ clash, Tree.merge path base fragment = .error clash) ↔
      ∃ keys existing value, base.ClashAt fragment keys existing value) ∧
    (∀ clash, Tree.merge path base fragment = .error clash → ∃ keys existing value,
      base.FirstClash fragment keys existing value ∧
      clash = ⟨placeText path keys, existing.kind, value.kind⟩ ∧
      (OverlayError.clash clash).message =
        "invalid override at "
          ++ (if placeText path keys = "" then "<root>" else placeText path keys) ++ ": "
          ++ ("cannot override a " ++ existing.kind.name ++ " with a " ++ value.kind.name)) ∧
    ∀ merged, Tree.merge path base fragment = .ok merged →
      Tree.LaidOver (some base) (some fragment) (some merged) ∧
      (∀ keys entries laid, base.at? keys = some (.map entries) →
        fragment.at? keys = some (.map laid) → ∀ key,
          Tree.LaidOver (base.at? (keys ++ [key])) (fragment.at? (keys ++ [key]))
            (merged.at? (keys ++ [key]))) ∧
      ∀ keys existing value, base.at? keys = some existing → fragment.at? keys = some value →
        ∃ met, merged.at? keys = some met ∧
          Tree.merge (placeText path keys) existing value = .ok met := by
  refine ⟨merge_fails_iff path ordered, ?_, ?_⟩
  · intro clash clashes
    obtain ⟨keys, existing, value, first, rfl⟩ := first_clash_of_merge ordered clashes
    exact ⟨keys, existing, value, first, rfl, clash_message _⟩
  · intro merged merges
    refine ⟨laidOver_of_merge ordered merges, ?_, ?_⟩
    · intro keys entries laid baseThere fragmentThere
      exact laidOver_below ordered merges baseThere fragmentThere
    · intro keys existing value
      exact merge_at ordered merges

end

namespace Tree

def twiceOfAnotherKind : Tree := .map [("cpu", .sequence []),
  ("http", .map [("healthcheck", .map [])])]

end Tree

theorem merge_place_by_place_checked :
    Tree.twiceOfAnotherKind.Ordered ∧ Tree.nulled.Ordered ∧
    (∃ clash keys existing value,
      Tree.merge "" .checkedByPath .twiceOfAnotherKind = .error clash ∧
      Tree.checkedByPath.FirstClash .twiceOfAnotherKind keys existing value ∧
      placeText "" keys = "cpu" ∧ existing.kind = .scalar ∧ value.kind = .sequence) ∧
    ∃ merged, Tree.merge "" .checkedByPath .nulled = .ok merged ∧
      merged.at? ["http", "alias"] = some .null := by
  have increases : "cpu" < "http" := by decide +kernel
  have ordered : Tree.twiceOfAnotherKind.Ordered :=
    ordered_pair increases trivial (ordered_singleton ⟨List.Pairwise.nil, trivial⟩)
  have nulledOrdered : Tree.nulled.Ordered :=
    ordered_pair increases trivial (ordered_singleton trivial)
  have clashes : Tree.merge "" .checkedByPath .twiceOfAnotherKind =
      .error ⟨"cpu", .scalar, .sequence⟩ := rfl
  obtain ⟨merged, merges⟩ : ∃ merged, Tree.merge "" .checkedByPath .nulled = .ok merged := ⟨_, rfl⟩
  obtain ⟨keys, existing, value, first, clash, -⟩ :=
    (merge_place_by_place "" ordered).2.1 _ clashes
  obtain ⟨placed, existingKind, valueKind⟩ := Clash.mk.inj clash
  obtain ⟨-, holds, -⟩ := (merge_place_by_place "" nulledOrdered).2.2 merged merges
  have aliases := holds ["http"] _ _ rfl rfl "alias"
  exact ⟨ordered, nulledOrdered, ⟨_, keys, existing, value, clashes, first, placed.symm,
    existingKind.symm, valueKind.symm⟩, merged, merges, aliases⟩

end Stackwright
