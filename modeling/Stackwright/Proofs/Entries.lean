import Stackwright.Dict

/-!
Looking up entries: in lists whose keys increase, the entry found for a key is the one there is.
-/

namespace Stackwright

variable {α β : Type} {key : String} {value : α} {entries : List (String × α)}

theorem mem_of_findEntry (found : findEntry key entries = some value) : (key, value) ∈ entries := by
  induction entries with
  | nil => simp [findEntry] at found
  | cons entry rest ih =>
      rw [findEntry] at found
      split at found
      · rename_i same
        have valueEq := Option.some.inj found
        subst same
        subst valueEq
        exact List.mem_cons_self
      · exact List.mem_cons_of_mem _ (ih found)

theorem findEntry_eq_none_iff : findEntry key entries = none ↔ ∀ e ∈ entries, e.1 ≠ key := by
  induction entries with
  | nil => simp [findEntry]
  | cons entry rest ih =>
      by_cases same : key = entry.1
      · simp [findEntry, same]
      · have different : entry.1 ≠ key := fun h => same h.symm
        simp [findEntry, same, different, ih]

theorem mem_keys_iff : key ∈ entries.map Prod.fst ↔ findEntry key entries ≠ none := by
  rw [Ne, findEntry_eq_none_iff]
  simp

theorem findEntry_append (first second : List (String × α)) :
    findEntry key (first ++ second) = (findEntry key first).or (findEntry key second) := by
  induction first with
  | nil => simp [findEntry]
  | cons entry rest ih => by_cases same : key = entry.1 <;> simp [findEntry, same, ih]

theorem findEntry_map (f : α → β) :
    findEntry key (entries.map fun e => (e.1, f e.2)) = (findEntry key entries).map f := by
  induction entries with
  | nil => rfl
  | cons entry rest ih => by_cases same : key = entry.1 <;> simp [findEntry, same, ih]

theorem findEntry_rest {entry : String × α} {rest : List (String × α)}
    (increasing : KeysIncrease (entry :: rest)) : findEntry entry.1 rest = none := by
  rw [findEntry_eq_none_iff]
  intro e member same
  have less := (List.pairwise_cons.mp increasing).1 e member
  rw [same] at less
  exact String.lt_irrefl _ less

theorem keys_nodup (increasing : KeysIncrease entries) : (entries.map Prod.fst).Nodup := by
  rw [List.Nodup, List.pairwise_map]
  apply increasing.imp
  intro a b less same
  rw [same] at less
  exact String.lt_irrefl b.1 less

theorem nodup_of_keys (distinct : (entries.map Prod.fst).Nodup) : entries.Nodup := by
  rw [List.Nodup, List.pairwise_map] at distinct
  apply distinct.imp
  rintro a _ different rfl
  exact different rfl

theorem findEntry_of_mem (distinct : (entries.map Prod.fst).Nodup)
    (member : (key, value) ∈ entries) :
    findEntry key entries = some value := by
  induction entries with
  | nil => cases member
  | cons entry rest ih =>
      obtain ⟨outside, distinctRest⟩ := List.nodup_cons.mp distinct
      rcases List.mem_cons.mp member with rfl | inside
      · simp [findEntry]
      · have different : key ≠ entry.1 := by
          intro same
          exact outside (same ▸ List.mem_map_of_mem inside)
        simp [findEntry, different, ih distinctRest inside]

theorem findEntry_eq_some_iff (increasing : KeysIncrease entries) :
    findEntry key entries = some value ↔ (key, value) ∈ entries :=
  ⟨mem_of_findEntry, findEntry_of_mem (keys_nodup increasing)⟩

/-- Entries with increasing keys are told apart by what is found in them. -/
theorem entries_ext {first second : List (String × α)} (firstIncreasing : KeysIncrease first)
    (secondIncreasing : KeysIncrease second)
    (alike : ∀ key, findEntry key first = findEntry key second) : first = second := by
  have nodup : ∀ {entries : List (String × α)}, KeysIncrease entries → entries.Nodup :=
    fun increasing => nodup_of_keys (keys_nodup increasing)
  have members : ∀ e, e ∈ first ↔ e ∈ second := by
    intro e
    rw [← findEntry_eq_some_iff firstIncreasing, ← findEntry_eq_some_iff secondIncreasing, alike]
  apply List.Perm.eq_of_pairwise _ firstIncreasing secondIncreasing
  · exact (List.perm_ext_iff_of_nodup (nodup firstIncreasing) (nodup secondIncreasing)).mpr members
  · intro a b _ _ less greater
    exact absurd (String.lt_trans less greater) (String.lt_irrefl _)

theorem putEntry_of_findEntry (increasing : KeysIncrease entries)
    (found : findEntry key entries = some value) : putEntry key value entries = entries := by
  apply entries_ext (keysIncrease_putEntry key value increasing) increasing
  intro k
  rw [findEntry_putEntry]
  split
  · rename_i same
    rw [same, found]
  · rfl

/-- Of several entries with a key, sorting keeps the last. -/
theorem findEntry_sortEntries (key : String) (entries : List (String × α)) :
    findEntry key (sortEntries entries) = findEntry key entries.reverse := by
  suffices step : ∀ (entries sorted : List (String × α)),
      findEntry key (entries.foldl (fun sorted e => putEntry e.1 e.2 sorted) sorted) =
        (findEntry key entries.reverse).or (findEntry key sorted) by
    simpa [sortEntries, findEntry] using step entries []
  intro entries
  induction entries with
  | nil => simp [findEntry]
  | cons entry rest ih =>
      intro sorted
      rw [List.foldl_cons, ih, findEntry_putEntry, List.reverse_cons, findEntry_append]
      by_cases same : key = entry.1 <;> simp [findEntry, same]

theorem findEntry_sortEntries_of_mem (distinct : (entries.map Prod.fst).Nodup)
    (member : (key, value) ∈ entries) : findEntry key (sortEntries entries) = some value := by
  rw [findEntry_sortEntries]
  apply findEntry_of_mem
  · simpa [List.Nodup, List.pairwise_reverse, ne_comm] using distinct
  · exact List.mem_reverse.mpr member

theorem mem_of_mem_sortEntries {e : String × α} (member : e ∈ sortEntries entries) :
    e ∈ entries := by
  have found : findEntry e.1 (sortEntries entries) = some e.2 :=
    findEntry_of_mem (keys_nodup (keysIncrease_sortEntries entries)) member
  rw [findEntry_sortEntries] at found
  exact List.mem_reverse.mp (mem_of_findEntry found)

/-- Of entries with distinct keys sorting loses none. -/
theorem perm_sortEntries (distinct : (entries.map Prod.fst).Nodup) :
    (sortEntries entries).Perm entries := by
  have sortedDistinct := keys_nodup (keysIncrease_sortEntries entries)
  apply (List.perm_ext_iff_of_nodup (nodup_of_keys sortedDistinct) (nodup_of_keys distinct)).mpr
  rintro ⟨key, value⟩
  constructor
  · exact mem_of_mem_sortEntries
  · intro member
    exact mem_of_findEntry (findEntry_sortEntries_of_mem distinct member)

theorem putEntry_ne_nil (key : String) (value : α) (entries : List (String × α)) :
    putEntry key value entries ≠ [] := by
  cases entries with
  | nil => exact List.cons_ne_nil _ _
  | cons entry rest =>
      rw [putEntry]
      split
      · exact List.cons_ne_nil _ _
      · split <;> exact List.cons_ne_nil _ _

theorem sortEntries_ne_nil (present : entries ≠ []) : sortEntries entries ≠ [] := by
  rw [← List.dropLast_concat_getLast present, sortEntries, List.foldl_append]
  exact putEntry_ne_nil _ _ _

theorem sortEntries_of_increasing (increasing : KeysIncrease entries) :
    sortEntries entries = entries := by
  apply entries_ext (keysIncrease_sortEntries entries) increasing
  intro key
  cases found : findEntry key entries with
  | none =>
      rw [findEntry_eq_none_iff] at found ⊢
      exact fun e member => found e (mem_of_mem_sortEntries member)
  | some value =>
      exact findEntry_sortEntries_of_mem (keys_nodup increasing) (mem_of_findEntry found)

theorem map_putEntry (f : String → α → β) (key : String) (value : α)
    (entries : List (String × α)) :
    (putEntry key value entries).map (fun e => (e.1, f e.1 e.2)) =
      putEntry key (f key value) (entries.map fun e => (e.1, f e.1 e.2)) := by
  induction entries with
  | nil => rfl
  | cons entry rest ih =>
      rw [List.map_cons, putEntry, putEntry]
      split
      · rfl
      · split
        · rfl
        · rw [List.map_cons, ih]

theorem map_sortEntries (f : String → α → β) (entries : List (String × α)) :
    (sortEntries entries).map (fun e => (e.1, f e.1 e.2)) =
      sortEntries (entries.map fun e => (e.1, f e.1 e.2)) := by
  suffices step : ∀ (entries sorted : List (String × α)),
      (entries.foldl (fun sorted e => putEntry e.1 e.2 sorted) sorted).map
          (fun e => (e.1, f e.1 e.2)) =
        (entries.map fun e => (e.1, f e.1 e.2)).foldl
          (fun sorted e => putEntry e.1 e.2 sorted) (sorted.map fun e => (e.1, f e.1 e.2)) from
    step entries []
  intro entries
  induction entries with
  | nil => exact fun _ => rfl
  | cons entry rest ih =>
      intro sorted
      rw [List.map_cons, List.foldl_cons, List.foldl_cons, ih, map_putEntry]

namespace Dict

theorem ofList_entries (d : Dict α) : ofList d.entries = d :=
  Dict.ext (sortEntries_of_increasing d.increasing)

theorem eq_empty {d : Dict α} (isEmpty : d.isEmpty = true) : d = empty :=
  Dict.ext (List.isEmpty_iff.mp isEmpty)

theorem mapEntries_ofList (f : String → α → β) (entries : List (String × α)) :
    (ofList entries).mapEntries f = ofList (entries.map fun e => (e.1, f e.1 e.2)) :=
  Dict.ext (map_sortEntries f entries)

theorem map_ofList (f : α → β) (entries : List (String × α)) :
    (ofList entries).map f = ofList (entries.map fun e => (e.1, f e.2)) :=
  mapEntries_ofList (fun _ => f) entries

theorem map_insert (f : α → β) (d : Dict α) (key : String) (value : α) :
    (d.insert key value).map f = (d.map f).insert key (f value) :=
  Dict.ext (map_putEntry (fun _ => f) key value d.entries)

theorem mem_entries_iff {d : Dict α} {key : String} {value : α} :
    (key, value) ∈ d.entries ↔ d.get? key = some value :=
  ⟨findEntry_of_mem (keys_nodup d.increasing), mem_of_findEntry⟩

theorem mem_keys_iff {d : Dict α} {key : String} : key ∈ d.keys ↔ (d.get? key).isSome := by
  rw [keys, Stackwright.mem_keys_iff, Option.isSome_iff_ne_none]
  rfl

theorem keys_nodup (d : Dict α) : d.keys.Nodup := Stackwright.keys_nodup d.increasing

theorem get?_map (f : α → β) (d : Dict α) (key : String) :
    (d.map f).get? key = (d.get? key).map f :=
  findEntry_map f

theorem get?_erase (d : Dict α) (key k : String) :
    (d.erase key).get? k = if k = key then none else d.get? k := by
  suffices step : ∀ entries : List (String × α),
      findEntry k (entries.filter fun e => e.1 ≠ key) =
        if k = key then none else findEntry k entries from step d.entries
  intro entries
  induction entries with
  | nil => simp [findEntry]
  | cons entry rest ih =>
      by_cases erased : entry.1 = key
      · by_cases same : k = key
        · simpa [List.filter_cons, erased, same] using ih
        · simpa [List.filter_cons, erased, same, findEntry] using ih
      · by_cases same : k = entry.1
        · subst same
          simp [erased, findEntry]
        · simpa [List.filter_cons, erased, same, findEntry] using ih

end Dict

end Stackwright
