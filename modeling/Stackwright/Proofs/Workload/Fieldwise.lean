import Stackwright.Proofs.Tree.Pointwise
import Stackwright.Proofs.Workload.RoundTrip

/-!
Resolving a workload field by field. Each field of the outcome is made of the field of the workload
and of the fragment's entry for it, and of nothing else.
-/

namespace Stackwright

namespace Workload

variable {workload resolved : Workload} {environment : String}
  {fragment : List (String × Tree)}

/-- What a field of the outcome is, by the field of the workload and what the fragment holds for
it. -/
def Overlays (workload resolved : Workload) (laid : Option Tree) (field : RecordField Workload) :
    Prop :=
  match laid with
  | none | some .null => field.get resolved = field.get workload
  | some value => ∃ merged,
      meet field.name ((field.written workload).map Tree.ofJson) value = .ok merged ∧
      field.codec.read merged.toJson = .ok (field.get resolved)

def baseEntries (workload : Workload) : List (String × Tree) :=
  ofEntries (sortEntries (declaration.fields.write workload.plain))

theorem get_ownField (workload : Workload) (fragments : Dict Tree) :
    ∀ field ∈ ownFieldList, field.get { workload with environments := fragments } =
      field.get workload := by
  simp only [ownFieldList, List.forall_mem_cons]
  exact ⟨rfl, rfl, rfl, rfl, rfl, rfl, rfl, rfl, rfl, rfl, rfl, rfl, rfl, rfl, rfl,
    List.forall_mem_nil _⟩

theorem findEntry_baseEntries {field : RecordField Workload} (own : field ∈ ownFieldList)
    (workload : Workload) : findEntry field.name workload.baseEntries =
      (field.written workload).map Tree.ofJson := by
  have member : field ∈ declaration.list := List.mem_append_left _ own
  have sameWritten : field.written workload.plain = field.written workload := by
    rw [RecordField.written, RecordField.written, plain, get_ownField workload .empty field own]
  rw [baseEntries, findEntry_ofEntries, declaration.findEntry_written member, sameWritten]

theorem findEntry_baseEntries_other {key : String} (other : key ∉ ownFieldList.map RecordField.name)
    (workload : Workload) : findEntry key workload.baseEntries = none := by
  have unwritten :
      findEntry key (sortEntries (declaration.fields.write workload.plain)) = none := by
    apply declaration.findEntry_unwritten
    rintro field member rfl
    rcases List.mem_append.mp member with own | last
    · exact absurd (List.mem_map_of_mem own) other
    · cases List.mem_singleton.mp last
      rfl
  rw [baseEntries, findEntry_ofEntries, unwritten]
  rfl

theorem resolve_map_eq_ok_iff
    (stored : workload.environments.get? environment = some (.map fragment)) :
    workload.resolve environment = .ok resolved ↔ ∃ merged read,
      mergeEntries "" workload.baseEntries fragment = .ok merged ∧
      Workload.codec.read (.object (entriesToJson merged)) = .ok read ∧
      resolved = read.plain := by
  have merge : Tree.merge "" workload.baseTree (.map fragment) =
      (mergeEntries "" workload.baseEntries fragment).map .map := rfl
  rw [resolve_stored stored]
  constructor
  · intro resolves
    rw [resolve_withFragment, merge] at resolves
    cases merges : mergeEntries "" workload.baseEntries fragment with
    | error clash =>
        rw [merges] at resolves
        cases resolves
    | ok merged =>
        rw [merges] at resolves
        have reads := mapError_eq_ok.mp resolves
        rw [← read_plain] at reads
        obtain ⟨read, workloadReads, same⟩ := map_eq_ok.mp reads
        exact ⟨merged, read, rfl, workloadReads, same.symm⟩
  · rintro ⟨merged, read, merges, reads, rfl⟩
    rw [merges] at merge
    rw [resolve_merged environment merge, ← read_plain]
    show ((Workload.codec.read (.object (entriesToJson merged))).map plain).mapError _ = _
    rw [reads]
    rfl

theorem read_entriesToJson_iff {merged : List (String × Tree)} {read : Workload} :
    Workload.codec.read (.object (entriesToJson merged)) = .ok read ↔
      ∀ field ∈ declaration.list,
        field.Takes ((findEntry field.name merged).map Tree.toJson) (field.get read) := by
  rw [codec_eq_declared, declaration.read_eq_ok_iff]
  simp only [findEntry_toJson]

theorem overlays_of_takes {merged : List (String × Tree)} {field : RecordField Workload}
    {read : Workload} (own : field ∈ ownFieldList) {laid : Option Tree}
    (laying : layAt field.name (findEntry field.name workload.baseEntries) laid =
      .ok (findEntry field.name merged))
    (takes : field.Takes ((findEntry field.name merged).map Tree.toJson) (field.get read)) :
    workload.Overlays read laid field := by
  have kept := ownFieldList_kept field own workload
  have keeps : findEntry field.name merged = (field.written workload).map Tree.ofJson →
      field.get read = field.get workload := by
    intro same
    rw [same, Option.map_map] at takes
    have unchanged : Tree.toJson ∘ Tree.ofJson = id := funext toJson_ofJson
    rw [unchanged, Option.map_id] at takes
    exact takes.unique kept.back
  rw [findEntry_baseEntries own] at laying
  cases laid with
  | none => exact keeps (Except.ok.inj laying).symm
  | some value =>
      obtain ⟨met, meets, found⟩ := map_eq_ok.mp laying
      rw [← found] at takes
      cases value with
      | null =>
          rw [meet_null] at meets
          cases written : field.written workload with
          | some json =>
              apply keeps
              rw [written] at meets
              rw [← found, written, ← Except.ok.inj meets]
              rfl
          -- a null that is laid over nothing stays, and is read as the value that is not written
          | none =>
              rw [written] at meets
              rw [← Except.ok.inj meets] at takes
              exact kept.null written _ takes
      | _ => exact ⟨met, meets, takes⟩

theorem mergeEntries_alike {other merged : List (String × Tree)}
    (increasing : KeysIncrease fragment) (otherIncreasing : KeysIncrease other)
    (alike : ∀ field ∈ ownFieldList, findEntry field.name other = findEntry field.name fragment)
    (merges : mergeEntries "" workload.baseEntries fragment = .ok merged) :
    ∃ otherMerged, mergeEntries "" workload.baseEntries other = .ok otherMerged ∧
      (∀ field ∈ ownFieldList,
        findEntry field.name otherMerged = findEntry field.name merged) ∧
      findEntry "environments" otherMerged = findEntry "environments" other := by
  have meets : ∀ e ∈ other, ∃ met,
      meet (childPath "" e.1) (findEntry e.1 workload.baseEntries) e.2 = .ok met := by
    rintro ⟨key, value⟩ member
    by_cases own : key ∈ ownFieldList.map RecordField.name
    · obtain ⟨field, fieldOwn, rfl⟩ := List.mem_map.mp own
      have laying := layAt_mergeEntries increasing merges field.name
      rw [← alike field fieldOwn, (findEntry_eq_some_iff otherIncreasing).mpr member,
        layAt_some] at laying
      obtain ⟨met, meetsThere, _⟩ := map_eq_ok.mp laying
      exact ⟨met, meetsThere⟩
    · rw [findEntry_baseEntries_other own]
      exact ⟨value, rfl⟩
  obtain ⟨otherMerged, otherMerges⟩ := mergeEntries_succeeds otherIncreasing meets
  refine ⟨otherMerged, otherMerges, ?_, ?_⟩
  · intro field own
    have laying := layAt_mergeEntries increasing merges field.name
    have otherLaying := layAt_mergeEntries otherIncreasing otherMerges field.name
    rw [alike field own] at otherLaying
    exact Except.ok.inj (otherLaying.symm.trans laying)
  · have laying := layAt_mergeEntries otherIncreasing otherMerges "environments"
    rw [findEntry_baseEntries_other (by decide), layAt_nothing] at laying
    exact (Except.ok.inj laying).symm

theorem fragmentsField_takes {laid : Option Tree}
    (isTable : laid = none ∨ ∃ entries, laid = some (.map entries)) :
    ∃ fragments, fragmentsField.Takes (laid.map Tree.toJson) fragments := by
  rcases isTable with rfl | ⟨entries, rfl⟩
  · exact ⟨.empty, rfl⟩
  · obtain ⟨trees, reads⟩ := readEntries_treeCodec (entriesToJson entries)
    refine ⟨.ofList trees, ?_⟩
    show (Codec.readEntries Tree.codec.read (entriesToJson entries)).map Dict.ofList = _
    rw [reads]
    rfl

/-- A fragment resolves field by field. A field that it holds nothing for, or null, is kept; any
other field is read from the merge of what is written for it and what the fragment holds for it.
Fragments that hold the same for the fields resolve alike, whatever else they hold. -/
theorem resolve_fieldwise (increasing : KeysIncrease fragment)
    (stored : workload.environments.get? environment = some (.map fragment))
    (resolves : workload.resolve environment = .ok resolved) :
    (∀ field ∈ ownFieldList, workload.Overlays resolved (findEntry field.name fragment) field) ∧
    resolved.environments = .empty ∧
    ∀ other, KeysIncrease other →
      (∀ field ∈ ownFieldList,
        findEntry field.name other = findEntry field.name fragment) →
      (findEntry "environments" other = none ∨
        ∃ entries, findEntry "environments" other = some (.map entries)) →
      (workload.withFragment environment (.map other)).resolve environment = .ok resolved := by
  obtain ⟨merged, read, merges, reads, rfl⟩ := (resolve_map_eq_ok_iff stored).mp resolves
  have takes := read_entriesToJson_iff.mp reads
  refine ⟨?_, rfl, ?_⟩
  · intro field own
    have laying := layAt_mergeEntries increasing merges field.name
    have fieldTakes := takes field (List.mem_append_left _ own)
    rw [← get_ownField read .empty field own] at fieldTakes
    exact overlays_of_takes own laying fieldTakes
  · intro other otherIncreasing alike fragments
    obtain ⟨otherMerged, otherMerges, sameFields, sameFragments⟩ :=
      mergeEntries_alike increasing otherIncreasing alike merges
    obtain ⟨left, fragmentsTaken⟩ := fragmentsField_takes fragments
    rw [← sameFragments] at fragmentsTaken
    have otherReads : Workload.codec.read (.object (entriesToJson otherMerged)) =
        .ok { read with environments := left } := by
      rw [read_entriesToJson_iff]
      intro field member
      rcases List.mem_append.mp member with own | last
      · rw [sameFields field own, get_ownField read left field own]
        exact takes field member
      · cases List.mem_singleton.mp last
        exact fragmentsTaken
    have storedOther : (workload.withFragment environment (.map other)).environments.get?
        environment = some (.map other) := by
      rw [withFragment, Dict.get?_insert, if_pos rfl]
    exact (resolve_map_eq_ok_iff storedOther).mpr ⟨otherMerged, _, otherMerges, otherReads, rfl⟩

def enlarged : List (String × Tree) :=
  [("cpu", .null), ("memory", .scalar (.integer 1024)), ("owner", .scalar (.string "shop"))]

def enlargedInTest : Workload :=
  (runnable "api" .backend).withFragment "test" (.map enlarged)

theorem resolve_enlarged : KeysIncrease enlarged ∧
    enlargedInTest.environments.get? "test" = some (.map enlarged) ∧
    ∃ resolved, enlargedInTest.resolve "test" = .ok resolved ∧ resolved.memory = some 1024 ∧
      ∀ field ∈ ownFieldList,
        enlargedInTest.Overlays resolved (findEntry field.name enlarged) field := by
  have increasing : KeysIncrease enlarged := by
    rw [KeysIncrease, enlarged]
    decide
  have stored : enlargedInTest.environments.get? "test" = some (.map enlarged) := rfl
  obtain ⟨resolved, resolves, enlarges⟩ : ∃ resolved,
      enlargedInTest.resolve "test" = .ok resolved ∧ resolved.memory = some 1024 := ⟨_, rfl, rfl⟩
  exact ⟨increasing, stored, resolved, resolves, enlarges,
    (resolve_fieldwise increasing stored resolves).1⟩

end Workload

end Stackwright
