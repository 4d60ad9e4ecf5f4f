import Stackwright.Proofs.Tree.Ordered

/-!
The kinds of values along a path of keys, which a merge keeps.
-/

namespace Stackwright

def Tree.kindAt? : List String → Tree → Option TreeKind
  | [], tree => some tree.kind
  | key :: rest, .map entries => (findEntry key entries).bind (Tree.kindAt? rest)
  | _ :: _, _ => none

theorem kindAt?_map {key : String} {rest : List String} {entries : List (String × Tree)}
    {value : Tree} (found : findEntry key entries = some value) :
    (Tree.map entries).kindAt? (key :: rest) = value.kindAt? rest := by
  rw [Tree.kindAt?, found]
  rfl

theorem kindAt?_cons_eq_some {key : String} {rest : List String} {tree : Tree} {kind : TreeKind} :
    tree.kindAt? (key :: rest) = some kind ↔ ∃ entries value, tree = .map entries ∧
      findEntry key entries = some value ∧ value.kindAt? rest = some kind := by
  cases tree with
  | map entries => simp [Tree.kindAt?, Option.bind_eq_some_iff]
  | _ => simp [Tree.kindAt?]

/-- Where a base holds a value other than null, a merge leaves a value of that kind. -/
theorem kindAt?_kept_by_merge {keys : List String} {path : String} {base fragment merged : Tree}
    {kind : TreeKind} (ordered : fragment.Ordered)
    (merges : Tree.merge path base fragment = .ok merged) (there : base.kindAt? keys = some kind)
    (given : kind ≠ .null) : merged.kindAt? keys = some kind := by
  induction keys generalizing path base fragment merged with
  | nil =>
      have kindIs := Option.some.inj there
      subst kindIs
      exact congrArg some (kind_kept_by_merge merges given)
  | cons key rest ih =>
      obtain ⟨entries, value, rfl, found, thereValue⟩ := kindAt?_cons_eq_some.mp there
      rcases merge_cases merges with
        ⟨_, rfl⟩ | ⟨isNull, _⟩ | ⟨sameKind, notMap, _⟩ | ⟨_, laid, result, same, rfl, laying, rfl⟩
      · exact there
      · cases isNull
      · exact absurd sameKind.symm notMap
      · cases same
        cases mentioned : findEntry key laid with
        | none =>
            have kept := findEntry_mergeEntries_none laying mentioned
            rw [found] at kept
            rw [kindAt?_map kept]
            exact thereValue
        | some other =>
            obtain ⟨met, meets, foundMet⟩ := findEntry_mergeEntries_some ordered.1 laying mentioned
            rw [found] at meets
            rw [kindAt?_map foundMet]
            exact ih (ordered_of_findEntry ordered.2 mentioned) meets thereValue

end Stackwright
