import Stackwright.Proofs.Workload.Minimal
import Stackwright.Proofs.Workload.Reading

/-!
Null entries of override fragments. Where the base holds a value, null keeps it. Where the base
holds nothing, null is put into the merged tree, and a field or table that takes no null refuses it.
-/

namespace Stackwright

def shown {α : Type} (outcome : Except OverlayError α) : Except (String × String) α :=
  outcome.mapError fun e => (e.path, e.reason)

theorem shown_unreadable {α : Type} (environment : String) {a b : Except Mismatch α}
    (alike : told a = told b) :
    shown (a.mapError (.unreadable environment)) =
      shown (b.mapError (.unreadable environment)) := by
  cases a <;> cases b <;>
    simp_all [told, shown, OverlayError.path, OverlayError.reason]

namespace Workload

def baseTree (workload : Workload) : Tree := Tree.ofJson (Workload.codec.write workload.plain)

def withFragment (workload : Workload) (environment : String) (fragment : Tree) : Workload :=
  { workload with environments := workload.environments.insert environment fragment }

/-- Laid over the workload, the fragment leaves a null that a field or a table refuses. -/
def RefusesNullOf (workload : Workload) (fragment : Tree) : Prop :=
  ∃ merged, Tree.merge "" workload.baseTree fragment = .ok merged ∧
    RefusesNull Workload.codec.shape merged

theorem baseTree_settled (workload : Workload) : workload.baseTree.Settled := by
  have written : (ownFields.tabled "environments" environments Tree.codec).write workload.plain =
      ownFields.write workload.plain := List.append_nil _
  rw [baseTree, codec_eq]
  apply settled_object (keysIncrease_sortEntries _)
  intro e member
  have ownMember := mem_of_mem_sortEntries member
  rw [written] at ownMember
  exact ownFields_lawful.writes workload.plain e ownMember

theorem baseTree_kindAt_type (workload : Workload) :
    workload.baseTree.kindAt? ["type"] = some .scalar := by
  rw [baseTree, codec_eq, Fields.kindAt?_written]
  simp (disch := decide) only [ownFields, Fields.tabled, Fields.defaulted, Fields.optional,
    Fields.required, Fields.findEntry_written_other]
  rw [Fields.findEntry_written_last rfl]
  rfl

theorem baseTree_kindAt_placement (workload : Workload) :
    workload.baseTree.kindAt? ["network", "vpc", "placement"] = some .scalar := by
  rw [baseTree, codec_eq, Fields.kindAt?_written]
  simp (disch := decide) only [ownFields, Fields.tabled, Fields.defaulted, Fields.optional,
    Fields.required, Fields.findEntry_written_other]
  rw [Fields.findEntry_written_last rfl, Option.bind_some, Network.codec, Fields.kindAt?_written,
    Fields.defaulted, Fields.findEntry_written_last rfl, Option.bind_some, Vpc.codec,
    Fields.kindAt?_written, Fields.listed, Fields.findEntry_written_other (by decide),
    Fields.defaulted, Fields.findEntry_written_last rfl]
  rfl

theorem not_readsVariant_network {tree : Tree}
    (placementIs : tree.kindAt? ["vpc", "placement"] = some .scalar) :
    ¬ ReadsVariant Network.codec.shape tree := by
  intro variant
  obtain ⟨entries, vpcTree, rfl, foundVpc, vpcIs⟩ := kindAt?_cons_eq_some.mp placementIs
  obtain ⟨vpcEntries, placementTree, rfl, foundPlacement, placementTreeIs⟩ :=
    kindAt?_cons_eq_some.mp vpcIs
  obtain ⟨field, declared, value, found, fieldVariant⟩ := variant.exists_field
  cases List.mem_singleton.mp declared
  cases foundVpc.symm.trans found
  obtain ⟨field, declared, value, found, fieldVariant⟩ := fieldVariant.exists_field
  rcases List.mem_cons.mp declared with rfl | last
  · cases foundPlacement.symm.trans found
    cases placementTree with
    | scalar chosen => exact not_readsVariant_scalar _ _ fieldVariant
    | _ => cases placementTreeIs
  · cases List.mem_singleton.mp last
    exact not_readsVariant rfl value fieldVariant

theorem shapes_distinct : (((ownFields.tabled "environments" environments Tree.codec).shapes).map
    Prod.fst).Nodup := by
  decide

theorem not_readsVariant_of_kinds {tree : Tree} (kindIs : tree.kindAt? ["type"] = some .scalar)
    (placementIs : tree.kindAt? ["network", "vpc", "placement"] = some .scalar) :
    ¬ ReadsVariant Workload.codec.shape tree := by
  intro variant
  obtain ⟨entries, kindTree, rfl, foundKind, kindTreeIs⟩ := kindAt?_cons_eq_some.mp kindIs
  obtain ⟨_, networkTree, sameEntries, foundNetwork, networkIs⟩ :=
    kindAt?_cons_eq_some.mp placementIs
  cases sameEntries
  obtain ⟨field, declared, value, found, fieldVariant⟩ := variant.exists_field
  have placed : ∀ field ∈ (ownFields.tabled "environments" environments Tree.codec).shapes,
      field.2.all (fun part => !part.isChoice) = true ∨ field.1 = "type" ∨ field.1 = "network" := by
    decide
  rcases placed field declared with choiceFree | isKind | isNetwork
  · exact not_readsVariant choiceFree value fieldVariant
  · rw [isKind, foundKind] at found
    cases found
    cases kindTree with
    | scalar chosen => exact not_readsVariant_scalar _ _ fieldVariant
    | _ => cases kindTreeIs
  · have shapeIs : field.2 = Network.codec.shape := by
      have foundShape := findEntry_of_mem shapes_distinct declared
      rw [isNetwork] at foundShape
      exact (Option.some.inj foundShape).symm
    rw [isNetwork, foundNetwork] at found
    cases found
    rw [shapeIs] at fieldVariant
    exact not_readsVariant_network networkIs fieldVariant

theorem not_readsVariant_merged {workload : Workload} {fragment merged : Tree}
    (ordered : fragment.Ordered)
    (merges : Tree.merge "" workload.baseTree fragment = .ok merged) :
    ¬ ReadsVariant Workload.codec.shape merged := by
  apply not_readsVariant_of_kinds
  · exact kindAt?_kept_by_merge ordered merges workload.baseTree_kindAt_type (by decide)
  · exact kindAt?_kept_by_merge ordered merges workload.baseTree_kindAt_placement (by decide)

theorem merge_fragment_withoutNulls (workload : Workload) {fragment : Tree}
    (ordered : fragment.Ordered) :
    Tree.merge "" workload.baseTree fragment.withoutNulls =
      (Tree.merge "" workload.baseTree fragment).map Tree.withoutNulls := by
  have settled := workload.baseTree_settled
  rw [merge_withoutNulls "" settled.ordered ordered, settled.nullFree]

theorem resolve_congr {workload other : Workload} {environment : String}
    (samePlain : other.plain = workload.plain)
    (sameFragment : other.environments.get? environment =
      workload.environments.get? environment) :
    other.resolve environment = workload.resolve environment := by
  rw [resolve, resolve, sameFragment, samePlain]

theorem resolve_withFragment (workload : Workload) (environment : String) (fragment : Tree) :
    (workload.withFragment environment fragment).resolve environment =
      ((Tree.merge "" workload.baseTree fragment).mapError .clash).bind fun merged =>
        (plainCodec.read merged.toJson).mapError (.unreadable environment) := by
  have stored : (workload.withFragment environment fragment).environments.get? environment =
      some fragment := by
    rw [withFragment, Dict.get?_insert, if_pos rfl]
  have samePlain : (workload.withFragment environment fragment).plain = workload.plain := rfl
  rw [resolve, stored]
  simp only [samePlain, ← read_plain]
  show ((Tree.merge "" workload.baseTree fragment).mapError OverlayError.clash).bind _ = _
  cases Tree.merge "" workload.baseTree fragment with
  | error clash => rfl
  | ok merged =>
      show ((Workload.codec.read merged.toJson).mapError _).bind _ =
        ((Workload.codec.read merged.toJson).map plain).mapError _
      cases Workload.codec.read merged.toJson with
      | error mismatch => rfl
      | ok resolved => rfl

theorem resolve_clash {workload : Workload} {fragment : Tree} {clash : Clash} (environment : String)
    (clashes : Tree.merge "" workload.baseTree fragment = .error clash) :
    (workload.withFragment environment fragment).resolve environment = .error (.clash clash) := by
  rw [resolve_withFragment, clashes]
  rfl

theorem resolve_merged {workload : Workload} {fragment merged : Tree} (environment : String)
    (merges : Tree.merge "" workload.baseTree fragment = .ok merged) :
    (workload.withFragment environment fragment).resolve environment =
      (plainCodec.read merged.toJson).mapError (.unreadable environment) := by
  rw [resolve_withFragment, merges]
  rfl

theorem resolve_idle_nulls {workload : Workload} {fragment : Tree} (environment : String)
    (ordered : fragment.Ordered) (taken : ¬ workload.RefusesNullOf fragment) :
    shown ((workload.withFragment environment fragment).resolve environment) =
      shown ((workload.withFragment environment fragment.withoutNulls).resolve environment) := by
  have bareMerges := workload.merge_fragment_withoutNulls ordered
  cases merges : Tree.merge "" workload.baseTree fragment with
  | error clash =>
      rw [merges] at bareMerges
      rw [resolve_clash environment merges, resolve_clash environment bareMerges]
  | ok merged =>
      rw [merges] at bareMerges
      have idle : NullsIdle Workload.codec.shape merged :=
        ⟨fun refused => taken ⟨merged, merges, refused⟩, not_readsVariant_merged ordered merges⟩
      have mergedOrdered := merge_ordered workload.baseTree_settled.ordered ordered merges
      have alike := plainCodec_nullsLawful.idle_alike merged mergedOrdered idle
      rw [resolve_merged environment merges, resolve_merged environment bareMerges]
      exact shown_unreadable environment alike.symm

theorem resolve_refused_null {workload : Workload} {fragment : Tree} (environment : String)
    (refused : workload.RefusesNullOf fragment) :
    ∃ mismatch, (workload.withFragment environment fragment).resolve environment =
      .error (.unreadable environment mismatch) := by
  obtain ⟨merged, merges, refusedMerged⟩ := refused
  obtain ⟨mismatch, fails⟩ := plainCodec_nullsLawful.refused_fails merged refusedMerged
  exact ⟨mismatch, by rw [resolve_merged environment merges, fails]; rfl⟩

/-- A fragment resolves as it does without its nulls, unless one of them is refused. A refused
null fails the resolution, which then agrees only with the very same failure. -/
theorem resolve_withoutNulls (workload : Workload) (environment : String) {fragment : Tree}
    (ordered : fragment.Ordered) :
    let full := shown ((workload.withFragment environment fragment).resolve environment)
    let bare :=
      shown ((workload.withFragment environment fragment.withoutNulls).resolve environment)
    (workload.RefusesNullOf fragment → ∃ mismatch : Mismatch,
        full = .error ("environments." ++ environment, mismatch.message)) ∧
      (full = bare ↔ (workload.RefusesNullOf fragment → ∃ failure, bare = .error failure ∧
        full = .error failure)) := by
  intro full bare
  have fails : workload.RefusesNullOf fragment → ∃ mismatch : Mismatch,
      full = .error ("environments." ++ environment, mismatch.message) := by
    intro refused
    obtain ⟨mismatch, unreadable⟩ := resolve_refused_null environment refused
    exact ⟨mismatch, congrArg shown unreadable⟩
  refine ⟨fails, ?_⟩
  constructor
  · intro alike refused
    obtain ⟨mismatch, failed⟩ := fails refused
    exact ⟨_, alike ▸ failed, failed⟩
  · intro sameFailure
    by_cases refused : workload.RefusesNullOf fragment
    · obtain ⟨failure, bareFails, fullFails⟩ := sameFailure refused
      rw [fullFails, bareFails]
    · exact resolve_idle_nulls environment ordered refused

/-- Null for variables that the workload does not have is refused. -/
theorem resolve_null_variables : (Tree.map [("variables", .null)]).Ordered ∧
    (minimal "api" .backend).RefusesNullOf (.map [("variables", .null)]) ∧
    ∃ mismatch : Mismatch,
      shown (((minimal "api" .backend).withFragment "test"
        (.map [("variables", .null)])).resolve "test") =
          .error ("environments.test", mismatch.message) := by
  have ordered : (Tree.map [("variables", .null)]).Ordered :=
    ⟨List.pairwise_singleton _ _, trivial, trivial⟩
  have refused : (minimal "api" .backend).RefusesNullOf (.map [("variables", .null)]) := by
    refine ⟨_, rfl, _, _, .here, ?_⟩
    exact RefusesEntry.field (List.mem_of_getElem? (i := 9) rfl) rfl rfl
  exact ⟨ordered, refused, (resolve_withoutNulls (minimal "api" .backend) "test" ordered).1 refused⟩

theorem resolve_null_variables_differs :
    shown (((minimal "api" .backend).withFragment "test"
        (.map [("variables", .null)])).resolve "test") ≠
      shown (((minimal "api" .backend).withFragment "test"
        (Tree.map [("variables", .null)]).withoutNulls).resolve "test") := by
  intro same
  have sameSuccess := congrArg (fun outcome => outcome.toOption.isSome) same
  have differs : (false = true) := sameSuccess
  cases differs

end Workload

end Stackwright
