/-!
Dictionaries with text keys: lists of entries whose keys strictly increase. The order of texts is
that of their code points, which is also the order of their UTF-8 bytes.
-/

namespace Stackwright

variable {α β : Type}

/-- Puts an entry before the first greater key, over the entry of the same key if there is one. -/
def putEntry (key : String) (value : α) : List (String × α) → List (String × α)
  | [] => [(key, value)]
  | entry :: rest =>
    if key < entry.1 then (key, value) :: entry :: rest
    else if key = entry.1 then (key, value) :: rest
    else entry :: putEntry key value rest

def findEntry (key : String) : List (String × α) → Option α
  | [] => none
  | entry :: rest => if key = entry.1 then some entry.2 else findEntry key rest

def sortEntries (entries : List (String × α)) : List (String × α) :=
  entries.foldl (fun sorted entry => putEntry entry.1 entry.2 sorted) []

def KeysIncrease (entries : List (String × α)) : Prop :=
  entries.Pairwise (fun a b => a.1 < b.1)

theorem keysIncrease_nil : KeysIncrease ([] : List (String × α)) := List.Pairwise.nil

theorem mem_putEntry {key : String} {value : α} {entries : List (String × α)} {e : String × α}
    (h : e ∈ putEntry key value entries) : e = (key, value) ∨ e ∈ entries := by
  induction entries with
  | nil => simpa [putEntry] using h
  | cons entry rest ih =>
    rw [putEntry] at h
    split at h
    · simpa using h
    · split at h
      · rcases List.mem_cons.mp h with h | h
        · exact Or.inl h
        · exact Or.inr (List.mem_cons_of_mem _ h)
      · rcases List.mem_cons.mp h with h | h
        · exact Or.inr (h ▸ List.mem_cons_self)
        · exact (ih h).imp id (List.mem_cons_of_mem _)

theorem keysIncrease_putEntry {entries : List (String × α)} (key : String) (value : α)
    (h : KeysIncrease entries) : KeysIncrease (putEntry key value entries) := by
  induction entries with
  | nil => exact List.pairwise_singleton _ _
  | cons entry rest ih =>
    have tail := List.pairwise_cons.mp h
    rw [putEntry]
    split
    · rename_i lower
      refine List.pairwise_cons.mpr ⟨fun e member => ?_, h⟩
      rcases List.mem_cons.mp member with rfl | member
      · exact lower
      · exact String.lt_trans lower (tail.1 e member)
    · rename_i notLower
      split
      · rename_i same
        exact List.pairwise_cons.mpr ⟨fun e member => same ▸ tail.1 e member, tail.2⟩
      · rename_i different
        refine List.pairwise_cons.mpr ⟨fun e member => ?_, ih tail.2⟩
        rcases mem_putEntry member with rfl | member
        · rcases String.le_total entry.1 key with le | le
          · refine Decidable.byContradiction fun notLess => different ?_
            exact String.le_antisymm (String.not_lt.mp notLess) (String.not_lt.mp notLower)
          · refine Decidable.byContradiction fun notLess => different ?_
            exact String.le_antisymm (String.not_lt.mp notLess) (String.not_lt.mp notLower)
        · exact tail.1 e member

theorem keysIncrease_sortEntries (entries : List (String × α)) :
    KeysIncrease (sortEntries entries) := by
  suffices step : ∀ (entries sorted : List (String × α)), KeysIncrease sorted →
      KeysIncrease (entries.foldl (fun sorted entry => putEntry entry.1 entry.2 sorted) sorted) from
    step entries [] keysIncrease_nil
  intro entries
  induction entries with
  | nil => exact fun _ h => h
  | cons entry rest ih => exact fun _ h => ih _ (keysIncrease_putEntry _ _ h)

structure Dict (α : Type) where
  entries : List (String × α)
  increasing : KeysIncrease entries

namespace Dict

def empty : Dict α := ⟨[], keysIncrease_nil⟩

instance : Inhabited (Dict α) := ⟨empty⟩

@[ext] theorem ext {a b : Dict α} (h : a.entries = b.entries) : a = b := by
  cases a; cases b; cases h; rfl

instance [DecidableEq α] : DecidableEq (Dict α) := fun a b =>
  decidable_of_iff (a.entries = b.entries) ⟨ext, fun h => h ▸ rfl⟩

/-- A later entry replaces an earlier one of the same key. -/
def ofList (entries : List (String × α)) : Dict α :=
  ⟨sortEntries entries, keysIncrease_sortEntries entries⟩

def get? (d : Dict α) (key : String) : Option α := findEntry key d.entries

def isEmpty (d : Dict α) : Bool := d.entries.isEmpty

def keys (d : Dict α) : List String := d.entries.map Prod.fst

def values (d : Dict α) : List α := d.entries.map Prod.snd

def insert (d : Dict α) (key : String) (value : α) : Dict α :=
  ⟨putEntry key value d.entries, keysIncrease_putEntry key value d.increasing⟩

def erase (d : Dict α) (key : String) : Dict α :=
  ⟨d.entries.filter (fun e => e.1 ≠ key), d.increasing.filter _⟩

def mapEntries (f : String → α → β) (d : Dict α) : Dict β where
  entries := d.entries.map (fun e => (e.1, f e.1 e.2))
  increasing := by
    rw [KeysIncrease, List.pairwise_map]
    exact d.increasing

def map (f : α → β) (d : Dict α) : Dict β := d.mapEntries (fun _ => f)

end Dict

theorem findEntry_putEntry (key k : String) (value : α) (entries : List (String × α)) :
    findEntry k (putEntry key value entries) =
      if k = key then some value else findEntry k entries := by
  induction entries with
  | nil => by_cases h : k = key <;> simp [putEntry, findEntry, h]
  | cons entry rest ih =>
    rw [putEntry]
    by_cases h : k = key
    · subst h
      split
      · simp [findEntry]
      · split
        · simp [findEntry]
        · rename_i different
          simp [findEntry, different, ih]
    · split
      · simp [findEntry, h]
      · split
        · rename_i same
          subst same
          simp [findEntry, h]
        · by_cases found : k = entry.1 <;> simp [findEntry, found, ih, h]

namespace Dict

theorem get?_empty (key : String) : (empty : Dict α).get? key = none := rfl

theorem get?_insert (d : Dict α) (key k : String) (value : α) :
    (d.insert key value).get? k = if k = key then some value else d.get? k :=
  findEntry_putEntry key k value d.entries

end Dict

end Stackwright
