import Stackwright.Manifest
import Stackwright.Proofs.Tree.FromJson
import Stackwright.Proofs.Workload.Declared
import Stackwright.Proofs.Workload.NullOverride

/-!
Workloads that are written and read again. A workload that was read once comes back as it was, and
so does what a fragment without entries is laid over.
-/

namespace Stackwright

section

variable {α : Type} {codec : Codec α}

theorem elim_eq_ok {absent : Option α} {fault : Fault} {value : α} :
    absent.elim (.error fault : Except Fault α) .ok = .ok value ↔ absent = some value := by
  cases absent <;> simp

theorem Codec.read_of_readAt {name : String} {index : Nat} {absent : Option α} {source : Source}
    {value : α} (reads : codec.readAt name index absent source = .ok value) :
    (∃ json, codec.read json = .ok value) ∨ absent = some value := by
  cases source with
  | entries entries =>
      rw [Codec.readAt] at reads
      split at reads
      · exact .inl ⟨_, mapError_eq_ok.mp reads⟩
      · exact .inr (elim_eq_ok.mp reads)
  | items items =>
      rw [Codec.readAt] at reads
      split at reads
      · exact .inl ⟨_, mapError_eq_ok.mp reads⟩
      · exact .inr (elim_eq_ok.mp reads)

theorem Codec.read_of_readEntries {entries : List (String × Json)} {values : List (String × α)}
    (reads : readEntries codec.read entries = .ok values) :
    ∀ e ∈ values, ∃ json, codec.read json = .ok e.2 := by
  induction entries generalizing values with
  | nil =>
      cases reads
      exact nofun
  | cons entry rest ih =>
      obtain ⟨first, firstReads, reads⟩ := bind_eq_ok.mp reads
      obtain ⟨others, othersRead, reads⟩ := bind_eq_ok.mp reads
      cases reads
      exact List.forall_mem_cons.mpr ⟨⟨entry.2, firstReads⟩, ih othersRead⟩

theorem Codec.read_of_table {json : Json} {values : Dict α}
    (reads : codec.table.read json = .ok values) :
    ∀ e ∈ values.entries, ∃ json, codec.read json = .ok e.2 := by
  cases json with
  | object entries =>
      have reads : (readEntries codec.read entries).map Dict.ofList = .ok values := reads
      cases list : readEntries codec.read entries with
      | error mismatch =>
          rw [list] at reads
          cases reads
      | ok read =>
          rw [list] at reads
          cases reads
          intro e member
          exact read_of_readEntries list e (mem_of_mem_sortEntries member)
  | _ => cases reads

theorem Fields.exists_source {fields : Fields α α} {name : String} {value : Json} {record : α}
    (reads : (fields.codec name).read value = .ok record) :
    ∃ source, fields.read source = .ok record := by
  cases value with
  | object entries =>
      have outcome := fields.readRecord_object name entries
      exact ⟨.entries entries, ofEntriesOutcome_eq_ok.mp (outcome.symm.trans reads)⟩
  | array items =>
      have outcome := fields.readRecord_array name items
      exact ⟨.items items, of_ofItemsOutcome_eq_ok (outcome.symm.trans reads)⟩
  | _ => cases reads

end

namespace Workload

variable {workload : Workload}

/-- The workload was read from JSON or from a manifest. -/
inductive Deserialized : Workload → Prop where
  | json {value : Json} {workload : Workload} (reads : Workload.codec.read value = .ok workload) :
      Deserialized workload
  | manifest {text : String} {workload : Workload} (reads : ofManifest text = .ok workload) :
      Deserialized workload

theorem Deserialized.exists_json (deserialized : workload.Deserialized) :
    ∃ value, Workload.codec.read value = .ok workload := by
  cases deserialized with
  | json reads => exact ⟨_, reads⟩
  | manifest reads =>
      obtain ⟨document, _, reads⟩ := bind_eq_ok.mp reads
      obtain ⟨value, _, reads⟩ := bind_eq_ok.mp reads
      exact ⟨value, mapError_eq_ok.mp reads⟩

def FragmentsFromJson (workload : Workload) : Prop :=
  ∀ e ∈ workload.environments.entries, ∃ value, e.2 = Tree.ofJson value

theorem fragmentsFromJson_of_reads {value : Json}
    (reads : Workload.codec.read value = .ok workload) : workload.FragmentsFromJson := by
  rw [codec_eq] at reads
  obtain ⟨source, reads⟩ := Fields.exists_source reads
  obtain ⟨make, fragments, ownRead, fragmentsRead, rfl⟩ := both_eq_ok.mp reads
  rw [FragmentsFromJson, ownFields_yields source make ownRead fragments]
  rcases Codec.read_of_readAt fragmentsRead with ⟨json, tableReads⟩ | absent
  · intro e member
    obtain ⟨value, treeReads⟩ := Codec.read_of_table tableReads e member
    exact ⟨value, (Except.ok.inj treeReads).symm⟩
  · cases absent
    exact nofun

/-- Only a number that JSON would give in another form could be lost. -/
theorem readsBack_of_fragments (fragments : workload.FragmentsFromJson) :
    Workload.codec.ReadsBack workload := by
  rw [codec_eq_declared]
  apply declaration.codec_readsBack
  intro field member
  rcases List.mem_append.mp member with own | last
  · exact ownFieldList_kept field own workload
  · cases List.mem_singleton.mp last
    apply RecordField.tabled_keptIn
    intro e present
    obtain ⟨value, fromJson⟩ := fragments e present
    show Except.ok (Tree.ofJson e.2.toJson) = .ok e.2
    rw [fromJson, toJson_ofJson]

theorem plain_readsBack (workload : Workload) : Workload.codec.ReadsBack workload.plain :=
  readsBack_of_fragments nofun

theorem merge_empty (workload : Workload) {fragment : Tree}
    (empty : fragment = .null ∨ fragment = .map []) :
    Tree.merge "" workload.baseTree fragment = .ok workload.baseTree := by
  rcases empty with rfl | rfl
  · rfl
  · rfl

theorem resolve_stored {environment : String} {fragment : Tree}
    (stored : workload.environments.get? environment = some fragment) :
    workload.resolve environment =
      (workload.withFragment environment fragment).resolve environment := by
  have storedAlone :
      (workload.withFragment environment fragment).environments.get? environment =
        some fragment := by
    rw [withFragment, Dict.get?_insert, if_pos rfl]
  exact resolve_congr rfl (stored.trans storedAlone.symm)

theorem resolve_empty {environment : String} {fragment : Tree}
    (stored : workload.environments.get? environment = some fragment)
    (empty : fragment = .null ∨ fragment = .map []) :
    workload.resolve environment = .ok workload.plain := by
  have merges := workload.merge_empty empty
  have written : workload.baseTree.toJson = Workload.codec.write workload.plain :=
    toJson_ofJson _
  rw [resolve_stored stored, resolve_merged environment merges, written, ← read_plain,
    workload.plain_readsBack]
  rfl

/-- What a workload that was read is written as is read as the same workload. So a fragment that is
null or has no entries does as little as none: the workload is resolved as it is, without its
fragments. -/
theorem read_write (deserialized : workload.Deserialized) :
    Workload.codec.read (Workload.codec.write workload) = .ok workload ∧
    ∀ environment, workload.environments.get? environment = none ∨
        workload.environments.get? environment = some .null ∨
        workload.environments.get? environment = some (.map []) →
      workload.resolve environment = .ok { workload with environments := .empty } := by
  obtain ⟨value, reads⟩ := deserialized.exists_json
  refine ⟨readsBack_of_fragments (fragmentsFromJson_of_reads reads), ?_⟩
  rintro environment (unstored | stored | stored)
  · rw [resolve, unstored]
    rfl
  · exact resolve_empty stored (.inl rfl)
  · exact resolve_empty stored (.inr rfl)

def allForms : Json := .object [
  ("count", .object [("range", .string "1-10")]),
  ("environments", .object [
    ("prod", .object [("cpu", .natural 1024), ("sidecars", .array [.boolean true, .null])]),
    ("test", .null)]),
  ("http", .object [
    ("deregistration_delay", .natural 0xFFFFFFFFFFFFFFFF),
    ("healthcheck", .string "/health"),
    ("path", .string "/")]),
  ("name", .string "api"),
  ("sidecars", .object [("envoy", .object [("image", .string "envoyproxy/envoy")])]),
  ("type", .string "Load Balanced Web Service"),
  ("variables", .object [("MODE", .string "fast")])]

theorem read_write_allForms : ∃ workload, Workload.codec.read allForms = .ok workload ∧
    Workload.codec.read (Workload.codec.write workload) = .ok workload ∧
    workload.resolve "test" = .ok { workload with environments := .empty } := by
  obtain ⟨workload, reads, stored⟩ : ∃ workload, Workload.codec.read allForms = .ok workload ∧
      workload.environments.get? "test" = some .null := ⟨_, rfl, rfl⟩
  obtain ⟨back, unchanged⟩ := read_write (.json reads)
  exact ⟨workload, reads, back, unchanged "test" (.inr (.inl stored))⟩

end Workload

end Stackwright
