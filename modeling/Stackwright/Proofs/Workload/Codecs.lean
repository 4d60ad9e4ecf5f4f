import Stackwright.Proofs.Codec.Lawful
import Stackwright.Workload

/-!
The codecs of a workload's parts: what they make of null entries, and that they write none.
-/

namespace Stackwright

theorem Kind.codec_lawful : Kind.codec.Lawful := Codec.choice_lawful _ _ _ _

theorem Placement.codec_lawful : Placement.codec.Lawful := Codec.choice_lawful _ _ _ _

theorem Duration.codec_lawful : Duration.codec.Lawful where
  reads :=
    { null_fails := fun _ => ⟨_, rfl⟩
      refused_fails := fun tree refused => absurd refused (not_refusesNull_of_lenient rfl tree)
      idle_alike := by
        intro tree _ _
        cases tree with
        | null => simp only [Tree.withoutNulls]
        | scalar value => simp only [Tree.withoutNulls]
        | sequence items => rfl
        | map entries => rfl }
  writes := ⟨fun _ => Tree.settled_scalar _, fun _ _ => by simp [Duration.codec]⟩

theorem Image.codec_lawful : Image.codec.Lawful :=
  (Fields.Lawful.start Image.mk
    |>.optional "location" location Codec.text_lawful rfl
    |>.optional "port" port Codec.word16_lawful rfl).codec "ImageConfig"

theorem AutoScaling.codec_lawful : AutoScaling.codec.Lawful :=
  (Fields.Lawful.start AutoScaling.mk
    |>.required "range" range Codec.text_lawful rfl
    |>.optional "cpu_percentage" cpuPercentage Codec.word32_lawful rfl
    |>.optional "memory_percentage" memoryPercentage Codec.word32_lawful rfl).codec
      "AutoscalingConfig"

theorem HealthCheck.codec_lawful : HealthCheck.codec.Lawful :=
  (Fields.Lawful.start HealthCheck.mk
    |>.optional "path" path Codec.text_lawful rfl
    |>.optional "success_codes" successCodes Codec.text_lawful rfl
    |>.optional "healthy_threshold" healthyThreshold Codec.word32_lawful rfl
    |>.optional "unhealthy_threshold" unhealthyThreshold Codec.word32_lawful rfl
    |>.optional "interval" interval Duration.codec_lawful rfl
    |>.optional "timeout" timeout Duration.codec_lawful rfl
    |>.optional "grace_period" gracePeriod Duration.codec_lawful rfl).codec
      "HealthCheckConfig"

theorem readForms_pair_congr {α : Type} (type : String) {first second : Json → Except Mismatch α}
    {a b : Json} (firstAlike : (first a).toOption = (first b).toOption)
    (secondAlike : (second a).toOption = (second b).toOption) :
    Codec.readForms type [first, second] a = Codec.readForms type [first, second] b := by
  simp only [Codec.readForms, List.findSome?, firstAlike, secondAlike]

theorem toOption_map {α β : Type} (f : α → β) (outcome : Except Mismatch α) :
    (outcome.map f).toOption = outcome.toOption.map f := by
  cases outcome <;> rfl

theorem toOption_alike {α : Type} {a b : Except Mismatch α} (alike : told a = told b) :
    a.toOption = b.toOption := by
  rw [← toOption_told a, alike, toOption_told b]

/-- A codec of two forms refuses no null, and nulls make no difference to it where they make none to
what its forms read. -/
theorem nullsLawful_of_forms {α : Type} {codec : Codec α} {type : String}
    {first second : Json → Except Mismatch α}
    (isForms : ∀ value, codec.read value = Codec.readForms type [first, second] value)
    (lenient : codec.shape.all Shape.lenient = true)
    (nullFails : ∃ mismatch, codec.read .null = .error mismatch)
    (firstAlike : ∀ {tree : Tree}, tree.Ordered →
      (first tree.withoutNulls.toJson).toOption = (first tree.toJson).toOption)
    (secondAlike : ∀ {tree : Tree}, tree.Ordered →
      (second tree.withoutNulls.toJson).toOption = (second tree.toJson).toOption) :
    codec.NullsLawful where
  null_fails _ := nullFails
  refused_fails tree refused := absurd refused (not_refusesNull_of_lenient lenient tree)
  idle_alike tree ordered _ := by
    rw [isForms, isForms]
    exact congrArg told (readForms_pair_congr type (firstAlike ordered) (secondAlike ordered))

theorem toOption_withoutNulls {α : Type} {codec : Codec α} (lawful : codec.NullsLawful)
    (lenient : codec.shape.all Shape.lenient = true)
    (choiceFree : codec.shape.all (fun part => !part.isChoice) = true) {tree : Tree}
    (ordered : tree.Ordered) :
    (codec.read tree.withoutNulls.toJson).toOption = (codec.read tree.toJson).toOption := by
  have idle : NullsIdle codec.shape tree :=
    ⟨not_refusesNull_of_lenient lenient tree, not_readsVariant choiceFree tree⟩
  exact toOption_alike (lawful.idle_alike tree ordered idle)

theorem HealthCheckSetting.codec_nullsLawful : HealthCheckSetting.codec.NullsLawful := by
  apply nullsLawful_of_forms (fun _ => rfl) rfl ⟨_, rfl⟩
  · intro tree ordered
    rw [toOption_map, toOption_map, toOption_withoutNulls Codec.text_nullsLawful rfl rfl ordered]
  · intro tree ordered
    have fullAlike := toOption_withoutNulls HealthCheck.codec_lawful.reads rfl rfl ordered
    rw [toOption_map, toOption_map, fullAlike]

theorem HealthCheckSetting.codec_lawful : HealthCheckSetting.codec.Lawful where
  reads := HealthCheckSetting.codec_nullsLawful
  writes :=
    { settled := fun
        | .path _ => Tree.settled_scalar _
        | .full settings => HealthCheck.codec_lawful.writes.settled settings
      given := fun _ => fun
        | .path _ => by simp [HealthCheckSetting.codec, Codec.text]
        | .full settings => HealthCheck.codec_lawful.writes.given rfl settings }

theorem AutoScaling.read_without_range {entries : List (String × Json)}
    (missing : findEntry "range" entries = none) :
    ∃ mismatch, AutoScaling.codec.read (.object entries) = .error mismatch := by
  have rangeFails :
      ∃ fault, Codec.text.readAt "range" 0 none (.entries entries) = .error fault := by
    simp [Codec.readAt, missing]
  have ownFails := both_fails_right (.ok AutoScaling.mk) rangeFails
  have cpuFails := both_fails_left
    (Codec.word32.optional.readAt "cpu_percentage" 1 (some none) (.entries entries)) ownFails
  have memoryFails := both_fails_left
    (Codec.word32.optional.readAt "memory_percentage" 2 (some none) (.entries entries)) cpuFails
  exact Fields.readRecord_object_fails "AutoscalingConfig" memoryFails

theorem AutoScaling.range_of_refusesNull {tree : Tree}
    (refused : RefusesNull AutoScaling.codec.shape tree) :
    ∃ entries, tree = .map entries ∧ findEntry "range" entries = some .null := by
  have lenientFields : ∀ field ∈ [("range", Shape.text), ("cpu_percentage", .optional .natural),
      ("memory_percentage", .optional .natural)], field.2.all Shape.lenient = true := by decide
  obtain ⟨part, partTree, reads, refuses⟩ := refused
  cases reads with
  | here => cases refuses with
    | field declared refuses found =>
        have isRange : ∀ field ∈ [("range", Shape.text), ("cpu_percentage", .optional .natural),
            ("memory_percentage", .optional .natural)], field.2.takesNull = false →
            field.1 = "range" := by decide
        have nameIs := isRange _ declared refuses
        exact ⟨_, rfl, nameIs ▸ found⟩
  | field declared _ below =>
      have lenient := lenientFields _ declared
      exact absurd ⟨part, partTree, below, refuses⟩ (not_refusesNull_of_lenient lenient _)
  | position declared _ below =>
      have lenient := lenientFields _ (List.mem_of_getElem? declared)
      exact absurd ⟨part, partTree, below, refuses⟩ (not_refusesNull_of_lenient lenient _)

/-- A null range is as good as none: either way the settings cannot be read. -/
theorem AutoScaling.read_withoutNulls {tree : Tree} (ordered : tree.Ordered) :
    (AutoScaling.codec.read tree.withoutNulls.toJson).toOption =
      (AutoScaling.codec.read tree.toJson).toOption := by
  by_cases refused : RefusesNull AutoScaling.codec.shape tree
  · obtain ⟨mismatch, fails⟩ := AutoScaling.codec_lawful.reads.refused_fails tree refused
    obtain ⟨entries, rfl, found⟩ := AutoScaling.range_of_refusesNull refused
    have missing : findEntry "range" (entriesToJson (entriesWithoutNulls entries)) = none := by
      rw [findEntry_toJson, findEntry_withoutNulls _ ordered.1, found]
      rfl
    obtain ⟨other, stillFails⟩ := AutoScaling.read_without_range missing
    have bareFails : AutoScaling.codec.read (Tree.map entries).withoutNulls.toJson = .error other :=
      stillFails
    rw [fails, bareFails]
    rfl
  · exact toOption_alike
      (AutoScaling.codec_lawful.reads.idle_alike tree ordered ⟨refused, not_readsVariant rfl tree⟩)

theorem Count.codec_nullsLawful : Count.codec.NullsLawful := by
  apply nullsLawful_of_forms (fun _ => rfl) rfl ⟨_, rfl⟩
  · intro tree ordered
    rw [toOption_map, toOption_map, toOption_withoutNulls Codec.word32_nullsLawful rfl rfl ordered]
  · intro tree ordered
    rw [toOption_map, toOption_map, AutoScaling.read_withoutNulls ordered]

theorem Count.codec_lawful : Count.codec.Lawful where
  reads := Count.codec_nullsLawful
  writes :=
    { settled := fun
        | .fixed tasks => Codec.word32_writesSettled.settled tasks
        | .scaled settings => AutoScaling.codec_lawful.writes.settled settings
      given := fun _ => fun
        | .fixed tasks => Codec.word32_writesSettled.given rfl tasks
        | .scaled settings => AutoScaling.codec_lawful.writes.given rfl settings }

theorem Http.codec_lawful : Http.codec.Lawful :=
  (Fields.Lawful.start Http.mk
    |>.optional "path" path Codec.text_lawful rfl
    |>.optional "healthcheck" healthCheck HealthCheckSetting.codec_lawful rfl
    |>.optional "deregistration_delay" deregistrationDelay Duration.codec_lawful rfl
    |>.optional "stickiness" stickiness Codec.boolean_lawful rfl
    |>.optional "target_container" targetContainer Codec.text_lawful rfl
    |>.optional "target_port" targetPort Codec.word16_lawful rfl
    |>.optional "alias" aliases (Codec.list_lawful Codec.text_lawful) rfl).codec
      "HttpConfig"

theorem ContainerCheck.codec_lawful : ContainerCheck.codec.Lawful :=
  (Fields.Lawful.start ContainerCheck.mk
    |>.required "command" command (Codec.list_lawful Codec.text_lawful) rfl
    |>.optional "interval" interval Duration.codec_lawful rfl
    |>.optional "retries" retries Codec.word32_lawful rfl
    |>.optional "timeout" timeout Duration.codec_lawful rfl
    |>.optional "start_period" startPeriod Duration.codec_lawful rfl).codec
      "ContainerHealthCheck"

theorem Vpc.codec_lawful : Vpc.codec.Lawful :=
  (Fields.Lawful.start Vpc.mk
    |>.defaulted "placement" placement Placement.codec_lawful rfl .publicSubnets
    |>.listed "security_groups" securityGroups Codec.text_lawful).codec "VpcConfig"

theorem Network.codec_lawful : Network.codec.Lawful :=
  (Fields.Lawful.start Network.mk
    |>.defaulted "vpc" vpc Vpc.codec_lawful rfl ⟨.publicSubnets, []⟩).codec "NetworkConfig"

theorem Sidecar.codec_lawful : Sidecar.codec.Lawful :=
  (Fields.Lawful.start Sidecar.mk
    |>.required "image" image Codec.text_lawful rfl
    |>.optional "port" port Codec.word16_lawful rfl
    |>.optional "essential" essential Codec.boolean_lawful rfl
    |>.tabled "variables" processVariables Codec.text_lawful rfl).codec "SidecarConfig"

end Stackwright
