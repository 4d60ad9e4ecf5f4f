import Stackwright.Overlay
import Stackwright.Proofs.Tree.Kinds
import Stackwright.Proofs.Workload.Codecs

/-!
Reading and writing a workload without its fragments.
-/

namespace Stackwright

open Codec

def Workload.ownFields : Fields Workload (Dict Tree → Workload) :=
  Fields.start Workload.mk
    |>.defaulted "name" name .text ""
    |>.required "type" kind Kind.codec
    |>.defaulted "image" image Image.codec ⟨none, none⟩
    |>.optional "cpu" cpu .word32
    |>.optional "memory" memory .word32
    |>.optional "count" count Count.codec
    |>.defaulted "exec" exec .boolean false
    |>.optional "entrypoint" entryPoint (.list .text)
    |>.optional "command" command (.list .text)
    |>.tabled "variables" processVariables .text
    |>.tabled "secrets" secrets .text
    |>.optional "http" http Http.codec
    |>.optional "healthcheck" healthCheck ContainerCheck.codec
    |>.defaulted "network" network Network.codec ⟨⟨.publicSubnets, []⟩⟩
    |>.tabled "sidecars" sidecars Sidecar.codec

theorem Workload.codec_eq : Workload.codec =
    (ownFields.tabled "environments" environments Tree.codec).codec "Workload" := rfl

theorem Workload.ownFields_lawful : ownFields.Lawful :=
  Fields.Lawful.start Workload.mk
    |>.defaulted "name" name text_lawful rfl ""
    |>.required "type" kind Kind.codec_lawful rfl
    |>.defaulted "image" image Image.codec_lawful rfl ⟨none, none⟩
    |>.optional "cpu" cpu word32_lawful rfl
    |>.optional "memory" memory word32_lawful rfl
    |>.optional "count" count Count.codec_lawful rfl
    |>.defaulted "exec" exec boolean_lawful rfl false
    |>.optional "entrypoint" entryPoint (list_lawful text_lawful) rfl
    |>.optional "command" command (list_lawful text_lawful) rfl
    |>.tabled "variables" processVariables text_lawful rfl
    |>.tabled "secrets" secrets text_lawful rfl
    |>.optional "http" http Http.codec_lawful rfl
    |>.optional "healthcheck" healthCheck ContainerCheck.codec_lawful rfl
    |>.defaulted "network" network Network.codec_lawful rfl ⟨⟨.publicSubnets, []⟩⟩
    |>.tabled "sidecars" sidecars Sidecar.codec_lawful rfl

def Fields.Yields {ρ α : Type} (fields : Fields ρ α) (holds : α → Prop) : Prop :=
  ∀ source value, fields.read source = .ok value → holds value

theorem Fields.Yields.start {ρ α : Type} {make : α} {holds : α → Prop} (made : holds make) :
    (Fields.start make : Fields ρ α).Yields holds := by
  intro source value reads
  cases reads
  exact made

theorem Fields.Yields.add {ρ α β : Type} {fields : Fields ρ (β → α)} {holds : α → Prop}
    {name : String} {get : ρ → β} {codec : Codec β} {absent : Option β} {skipped : β → Bool}
    (yields : fields.Yields fun f => ∀ b, holds (f b)) :
    (fields.add name get codec absent skipped).Yields holds := by
  intro source value reads
  obtain ⟨f, b, fieldsRead, _, rfl⟩ := both_eq_ok.mp reads
  exact yields source f fieldsRead b

/-- The fragments that a workload is made with are its fragments, and no matter of anything else. -/
theorem Workload.ownFields_yields : ownFields.Yields fun make =>
    ∀ fragments, make fragments = { make .empty with environments := fragments } := by
  have made : ∀ name kind image cpu memory count exec entryPoint command processVariables secrets
      http healthCheck network sidecars fragments,
      Workload.mk name kind image cpu memory count exec entryPoint command processVariables secrets
        http healthCheck network sidecars fragments =
      { Workload.mk name kind image cpu memory count exec entryPoint command processVariables
          secrets http healthCheck network sidecars .empty with environments := fragments } := by
    intros
    rfl
  exact Fields.Yields.start made |>.add |>.add |>.add |>.add |>.add |>.add |>.add |>.add |>.add
    |>.add |>.add |>.add |>.add |>.add |>.add

def ignoredFragments : Codec (Dict Tree) where
  shape := Tree.codec.table.shape
  read value := (Tree.codec.table.read value).map fun _ => .empty
  write := Tree.codec.table.write

/-- The codec of a workload whose fragments are ignored. -/
def Workload.plainCodec : Codec Workload :=
  (ownFields.add "environments" environments ignoredFragments (some .empty) Dict.isEmpty).codec
    "Workload"

theorem readEntries_treeCodec (entries : List (String × Json)) :
    ∃ trees, readEntries Tree.codec.read entries = .ok trees := by
  induction entries with
  | nil => exact ⟨[], rfl⟩
  | cons entry rest ih =>
      obtain ⟨trees, reads⟩ := ih
      exact ⟨(entry.1, Tree.ofJson entry.2) :: trees, by rw [readEntries, reads]; rfl⟩

theorem ignoredFragments_read_object (entries : List (String × Json)) :
    ignoredFragments.read (.object entries) = .ok .empty := by
  obtain ⟨trees, reads⟩ := readEntries_treeCodec entries
  simp only [ignoredFragments, table, reads, Except.map]

theorem ignoredFragments_nullsLawful : ignoredFragments.NullsLawful where
  null_fails _ := ⟨_, rfl⟩
  refused_fails tree refused := absurd refused (not_refusesNull_of_lenient rfl tree)
  idle_alike tree _ _ := by
    cases tree with
    | null => simp only [Tree.withoutNulls]
    | scalar value => simp only [Tree.withoutNulls]
    | sequence items => exact congrArg Except.error (message_kind_withoutNulls (.sequence items) _)
    | map entries =>
        simp only [Tree.withoutNulls, Tree.toJson, ignoredFragments_read_object]

theorem Workload.plainCodec_nullsLawful : plainCodec.NullsLawful :=
  (ownFields_lawful.reads.add "environments" environments ignoredFragments_nullsLawful
    (fun taken => by cases taken) Dict.isEmpty).codec "Workload"

theorem Workload.fields_read_plain (source : Source) :
    ((ownFields.tabled "environments" environments Tree.codec).read source).map plain =
      (ownFields.add "environments" environments ignoredFragments (some .empty) Dict.isEmpty).read
        source := by
  have fragmentsAlike : ignoredFragments.readAt "environments" ownFields.shapes.length
      (some .empty) source = (Tree.codec.table.readAt "environments" ownFields.shapes.length
      (some .empty) source).map fun _ => .empty := by
    cases source with
    | entries entries =>
        simp only [readAt]
        cases findEntry "environments" entries with
        | none => rfl
        | some value => simp only [ignoredFragments]; cases Tree.codec.table.read value <;> rfl
    | items items =>
        simp only [readAt]
        cases items[ownFields.shapes.length]? with
        | none => rfl
        | some value => simp only [ignoredFragments]; cases Tree.codec.table.read value <;> rfl
  simp only [Fields.tabled, Fields.add, fragmentsAlike]
  cases own : ownFields.read source with
  | error fault =>
      cases Tree.codec.table.readAt "environments" ownFields.shapes.length (some .empty) source <;>
        rfl
  | ok make =>
      cases Tree.codec.table.readAt "environments" ownFields.shapes.length (some .empty) source with
      | error fault => rfl
      | ok fragments =>
          have made := ownFields_yields source make own
          show Except.ok (make fragments).plain = .ok (make .empty)
          rw [made fragments]
          exact congrArg Except.ok (made .empty).symm

theorem Workload.read_plain (value : Json) :
    (Workload.codec.read value).map plain = plainCodec.read value := by
  rw [codec_eq, plainCodec]
  simp only [Fields.codec]
  cases value with
  | object entries =>
      rw [Fields.readRecord_object, Fields.readRecord_object, ← fields_read_plain]
      exact Fields.ofEntriesOutcome_map rfl plain _
  | array items =>
      rw [Fields.readRecord_array, Fields.readRecord_array, ← fields_read_plain]
      exact Fields.ofItemsOutcome_map rfl _ _ plain _
  | _ => rfl

end Stackwright
