import Stackwright.Proofs.Stack.SuffixFaults
import Stackwright.Proofs.Workload.Minimal

/-!
Admission: all that can be wrong with a workload and its settings, in the order in which it is told.
A compilation fails with the first complaint, and succeeds if there is none.
-/

namespace Stackwright

variable {α β : Type} {workload : Workload} {settings : Settings} {plan : Plan}

def complainIf (applies : Prop) [Decidable applies] (error : CompileError) : List CompileError :=
  if applies then [error] else []

@[simp] theorem mem_complainIf {applies : Prop} [Decidable applies] {error other : CompileError} :
    other ∈ complainIf applies error ↔ applies ∧ other = error := by
  by_cases holds : applies <;> simp [complainIf, holds]

def charactersFrom (first : Char) (count : Nat) : List Char :=
  (List.range count).map fun i => Char.ofNat (first.toNat + i)

def suffixAlphabet : List Char :=
  charactersFrom 'A' 26 ++ charactersFrom 'a' 26 ++ charactersFrom '0' 10 ++ ['_', '-']

namespace Workload

variable (workload : Workload) (settings : Settings)

def rangeComplaints : List CompileError :=
  match workload.count with
  | some (.scaled scaling) =>
    complainIf (readRange? scaling.range = none) (.unsupported (.countRange scaling.range))
  | _ => []

def taskComplaints : List CompileError :=
  complainIf (workload.name = "") (.missing .name)
  ++ complainIf (settings.image = none ∧ workload.image.location = none) (.missing .imageLocation)
  ++ complainIf (workload.cpu = none) (.missing .cpu)
  ++ complainIf (workload.memory = none) (.missing .memory)
  ++ complainIf (workload.count = none) (.missing .count)
  ++ workload.rangeComplaints

def targetComplaints : List CompileError :=
  let target := (workload.http.bind Http.targetContainer).getD workload.name
  let ownPort := (workload.sidecars.get? target).bind Sidecar.port
  complainIf (target ≠ workload.name ∧ workload.sidecars.get? target = none)
    (.unsupported (.unknownTarget target))
  ++ complainIf (target ≠ workload.name ∧ workload.http.bind Http.targetPort = none ∧
      ownPort = none)
    (.unsupported (.targetWithoutPort target))

def aliasComplaints : List CompileError :=
  let aliases := (workload.http.bind Http.aliases).getD []
  complainIf (aliases ≠ [] ∧ settings.partition = .china)
    (.unsupported (.aliasInPartition .china))
  ++ complainIf (aliases ≠ [] ∧ settings.httpsListener = false) (.unsupported .aliasWithoutHttps)

def routingComplaints : List CompileError :=
  complainIf (workload.http = none) (.missing .http)
  ++ complainIf (workload.http.bind Http.path = none) (.missing .httpPath)
  ++ complainIf (workload.image.port = none) (.missing .imagePort)
  ++ workload.targetComplaints
  ++ workload.aliasComplaints settings

end Workload

/-- What is wrong with a supplied suffix; an empty one is as good as none. -/
def suffixComplaints (supplied : String) : List CompileError :=
  complainIf (maxSuffixLength < supplied.utf8ByteSize) (.unsupported (.suffixTooLong supplied))
  ++ match supplied.toList.find? (· ∉ suffixAlphabet) with
    | some character => [.unsupported (.suffixCharacter supplied character)]
    | none => []

/-- All that is wrong, in the order in which it is looked for. -/
def Workload.complaints (workload : Workload) (settings : Settings) : List CompileError :=
  workload.taskComplaints settings
  ++ match workload.kind with
    | .backend => complainIf (workload.http ≠ none) (.unsupported .backendHttp)
    | .loadBalanced =>
      workload.routingComplaints settings
      ++ suffixComplaints (settings.uniqueSuffix.getD "")

/-- The outcome is the first complaint, or a success where there is none. -/
def Reports (complaints : List CompileError) : Except CompileError α → Prop
  | .ok _ => complaints = []
  | .error error => complaints.head? = some error

namespace Reports

theorem ok (value : α) : Reports [] (.ok value) := rfl

theorem error_iff {complaints : List CompileError} {outcome : Except CompileError α}
    (reports : Reports complaints outcome) (error : CompileError) :
    outcome = .error error ↔ complaints.head? = some error := by
  cases outcome with
  | ok value =>
      have none_ : complaints = [] := reports
      simp [none_]
  | error first =>
      have isFirst : complaints.head? = some first := reports
      simp [isFirst]

theorem ok_iff {complaints : List CompileError} {outcome : Except CompileError α}
    (reports : Reports complaints outcome) :
    (∃ value, outcome = .ok value) ↔ complaints = [] := by
  cases outcome with
  | ok value =>
      have none_ : complaints = [] := reports
      simp [none_]
  | error first =>
      have isFirst : complaints.head? = some first := reports
      constructor
      · rintro ⟨value, isOk⟩
        cases isOk
      · intro none_
        rw [none_] at isFirst
        cases isFirst

theorem andThen {first second : List CompileError} {outcome : Except CompileError α}
    {next : α → Except CompileError β} (reports : Reports first outcome)
    (then_ : ∀ value, outcome = .ok value → Reports second (next value)) :
    Reports (first ++ second) (outcome >>= next) := by
  cases reached : outcome with
  | ok value =>
      rw [reached] at reports
      have none_ : first = [] := reports
      rw [none_]
      exact then_ value reached
  | error error =>
      rw [reached] at reports
      have isFirst : first.head? = some error := reports
      show (first ++ second).head? = some error
      rw [List.head?_append, isFirst]
      rfl

theorem andOk {complaints : List CompileError} {outcome : Except CompileError α}
    {next : α → Except CompileError β} (reports : Reports complaints outcome)
    (succeeds : ∀ value, ∃ result, next value = .ok result) :
    Reports complaints (outcome >>= next) := by
  rw [← List.append_nil complaints]
  apply andThen reports
  intro value _
  obtain ⟨result, isOk⟩ := succeeds value
  rw [isOk]
  exact ok result

theorem required (field : RequiredField) (given : Option α) [Decidable (given = none)] :
    Reports (complainIf (given = none) (.missing field)) (Stackwright.require field given) := by
  cases given <;> simp [complainIf, Stackwright.require, Reports]

end Reports

theorem suffixAlphabet_ascii {c : Char} (member : c ∈ suffixAlphabet) : c.toNat < 128 := by
  have allBelow : suffixAlphabet.all (fun c => c.toNat < 128) = true := by decide +kernel
  exact of_decide_eq_true (List.all_eq_true.mp allBelow c member)

theorem isNameChar_ascii {c : Char} (allowed : isNameChar c = true) : c.toNat < 128 := by
  have below : ∀ {last : Char}, last.toNat < 128 → c.val ≤ last.val → c.toNat < 128 := by
    intro last small bound
    exact Nat.lt_of_le_of_lt (UInt32.le_iff_toNat_le.mp bound) small
  have kinds : (((c.isUpper || c.isLower) || c.isDigit) || c == '-' || c == '_') = true := allowed
  simp only [Bool.or_eq_true, beq_iff_eq] at kinds
  rcases kinds with (((upper | lower) | digit) | rfl) | rfl
  · exact below (by decide : 'Z'.toNat < 128) (of_decide_eq_true upper).2
  · exact below (by decide : 'z'.toNat < 128) (of_decide_eq_true (Bool.and_eq_true_iff.mp lower).2)
  · exact below (by decide : '9'.toNat < 128) (of_decide_eq_true (Bool.and_eq_true_iff.mp digit).2)
  · decide
  · decide

theorem isNameChar_iff (c : Char) : isNameChar c = true ↔ c ∈ suffixAlphabet := by
  have listed : ∀ n : Fin 128, isNameChar (Char.ofNat n) = true ↔ Char.ofNat n ∈ suffixAlphabet := by
    decide +kernel
  constructor
  · intro allowed
    have member := (listed ⟨c.toNat, isNameChar_ascii allowed⟩).mp
    rw [Char.ofNat_toNat] at member
    exact member allowed
  · intro member
    have allowed := (listed ⟨c.toNat, suffixAlphabet_ascii member⟩).mpr
    rw [Char.ofNat_toNat] at allowed
    exact allowed member

theorem readRange_reports (text : String) :
    Reports (complainIf (readRange? text = none) (.unsupported (.countRange text)))
      (readRange text) := by
  rw [readRange]
  cases readRange? text <;> rfl

theorem task_reports (workload : Workload) (settings : Settings) :
    Reports
      (complainIf (settings.image = none ∧ workload.image.location = none) (.missing .imageLocation)
      ++ (complainIf (workload.cpu = none) (.missing .cpu)
      ++ (complainIf (workload.memory = none) (.missing .memory)
      ++ (complainIf (workload.count = none) (.missing .count)
      ++ workload.rangeComplaints))))
      (Task.ofWorkload workload settings) := by
  rw [Task.ofWorkload]
  apply Reports.andThen
  · have image := Reports.required .imageLocation (settings.image.or workload.image.location)
    simpa only [Option.or_eq_none_iff] using image
  intro image _
  apply Reports.andThen (Reports.required _ _)
  intro cpu _
  apply Reports.andThen (Reports.required _ _)
  intro memory _
  apply Reports.andThen (Reports.required _ _)
  intro count isCount
  have counted : workload.count = some count := require_eq_ok.mp isCount
  rw [Workload.rangeComplaints, counted]
  cases count with
  | fixed tasks => rfl
  | scaled scaling =>
      exact (readRange_reports scaling.range).andOk fun bounds => ⟨_, rfl⟩

theorem plan_reports (workload : Workload) (app environment : String) (settings : Settings) :
    Reports (workload.taskComplaints settings) (Plan.of workload app environment settings) := by
  simp only [Workload.taskComplaints, List.append_assoc]
  rw [Plan.of]
  by_cases unnamed : workload.name = ""
  · simp only [unnamed, complainIf, if_true]
    rfl
  · simp only [unnamed, complainIf, if_false, List.nil_append]
    exact (task_reports workload settings).andOk fun task => ⟨_, rfl⟩

theorem routingTarget_reports {http : Http} (exposed : workload.http = some http)
    (mainPort : UInt16) :
    Reports workload.targetComplaints (routingTarget workload http mainPort) := by
  rw [Workload.targetComplaints, routingTarget, exposed]
  simp only [Option.bind_some]
  by_cases isMain : http.targetContainer.getD workload.name = workload.name
  · simp [isMain, complainIf, Reports]
  · rcases Option.eq_none_or_eq_some
      (workload.sidecars.get? (http.targetContainer.getD workload.name)) with
      found | ⟨sidecar, found⟩
    · simp [isMain, found, complainIf, Reports]
    · rcases Option.eq_none_or_eq_some http.targetPort with chosen | ⟨chosen, isChosen⟩
      · rcases Option.eq_none_or_eq_some sidecar.port with own | ⟨own, isOwn⟩
        · simp [isMain, found, chosen, own, complainIf, Reports]
        · simp [isMain, found, chosen, isOwn, complainIf, Reports]
      · simp [isMain, found, isChosen, complainIf, Reports]

theorem checkAliases_reports {http : Http} (exposed : workload.http = some http)
    (settings : Settings) :
    Reports (workload.aliasComplaints settings)
      (checkAliases settings (http.aliases.getD [])) := by
  rw [Workload.aliasComplaints, checkAliases, exposed]
  simp only [Option.bind_some]
  by_cases unaliased : http.aliases.getD [] = []
  · simp [unaliased, complainIf, Reports]
  · cases inChina : settings.partition <;> cases https : settings.httpsListener <;>
      simp [unaliased, complainIf, Reports]

theorem routing_reports (samePort : plan.task.port = plan.workload.image.port) :
    Reports (plan.workload.routingComplaints plan.settings) (Routing.of plan) := by
  simp only [Workload.routingComplaints, List.append_assoc]
  rw [Routing.of]
  apply Reports.andThen (Reports.required _ _)
  intro http isHttp
  have exposed : plan.workload.http = some http := require_eq_ok.mp isHttp
  apply Reports.andThen
  · rw [exposed]
    exact Reports.required .httpPath http.path
  intro path _
  apply Reports.andThen
  · rw [← samePort]
    exact Reports.required .imagePort plan.task.port
  intro mainPort _
  apply Reports.andThen (routingTarget_reports exposed mainPort)
  intro target _
  exact (checkAliases_reports exposed plan.settings).andOk fun _ => ⟨_, rfl⟩

theorem find?_unlisted (cs : List Char) :
    cs.find? (· ∉ suffixAlphabet) = cs.find? fun c => !isNameChar c := by
  have sameTest : (fun c => decide (c ∉ suffixAlphabet)) = fun c => !isNameChar c := by
    funext c
    rw [Bool.eq_iff_iff, decide_eq_true_iff, ← isNameChar_iff, Bool.not_eq_true, Bool.not_eq_true']
  rw [sameTest]

theorem parse_reports {text : String} (present : text ≠ "") :
    Reports (suffixComplaints text) (UniqueSuffix.parse text present) := by
  rw [suffixComplaints, UniqueSuffix.parse, find?_unlisted]
  by_cases short : text.utf8ByteSize ≤ maxSuffixLength
  · rw [dif_pos short, complainIf, if_neg (Nat.not_lt.mpr short), List.nil_append]
    by_cases allowed : text.toList.all isNameChar = true
    · have none_ : (text.toList.find? fun c => !isNameChar c) = none := by
        rw [List.find?_eq_none]
        simpa using allowed
      rw [dif_pos allowed, none_]
      rfl
    · have some_ : (text.toList.find? fun c => !isNameChar c).isSome := by
        rw [List.find?_isSome]
        simpa using allowed
      obtain ⟨c, found⟩ := Option.isSome_iff_exists.mp some_
      rw [dif_neg allowed, found]
      rfl
  · rw [dif_neg short, complainIf, if_pos (Nat.not_le.mp short)]
    rfl

theorem choose_reports (supplied : Option String) (fresh : UniqueSuffix) :
    Reports (suffixComplaints (supplied.getD "")) (UniqueSuffix.choose supplied fresh) := by
  cases supplied with
  | none => rfl
  | some text =>
      rw [UniqueSuffix.choose, Option.getD_some]
      by_cases empty : text = ""
      · subst empty
        rfl
      · rw [dif_pos empty]
        exact parse_reports empty

theorem compile_reports (workload : Workload) (app environment : String) (settings : Settings)
    (fresh : UniqueSuffix) :
    Reports (workload.complaints settings)
      (compile workload app environment settings fresh) := by
  rw [Workload.complaints, compile]
  apply Reports.andThen (plan_reports workload app environment settings)
  intro plan planned
  obtain ⟨_, task, made, rfl⟩ := Plan.of_eq_ok planned
  have samePort := Task.ofWorkload_port made
  rw [planParameters]
  cases kind : workload.kind with
  | backend =>
      rw [← List.append_nil (complainIf _ _)]
      apply Reports.andThen
      · rcases Option.eq_none_or_eq_some workload.http with unexposed | ⟨exposure, exposed⟩
        · simp [unexposed, complainIf, Reports]
        · simp [exposed, complainIf, Reports]
      · intro parameters _
        rfl
  | loadBalanced =>
      have routes : Reports (workload.routingComplaints settings)
          (Routing.of ⟨workload, app, environment, settings, task⟩) := routing_reports samePort
      apply Reports.andThen
      · exact routes.andOk fun _ => ⟨_, rfl⟩
      intro parameters valued
      obtain ⟨routing, routed, _⟩ := bind_eq_ok.mp valued
      apply (choose_reports settings.uniqueSuffix fresh).andOk
      intro suffix
      rw [routed]
      exact ⟨_, rfl⟩

theorem backend_complaints (isBackend : workload.kind = .backend) {what : Unsupported}
    (complained : .unsupported what ∈ workload.complaints settings) :
    what.feature = "count.range" ∨ what.feature = "http" := by
  rw [Workload.complaints, isBackend] at complained
  rcases List.mem_append.mp complained with ofTask | ofExposure
  · left
    simp only [Workload.taskComplaints, List.mem_append, mem_complainIf, reduceCtorEq, and_false,
      false_or] at ofTask
    rw [Workload.rangeComplaints] at ofTask
    split at ofTask
    · obtain ⟨_, same⟩ := mem_complainIf.mp ofTask
      cases same
      rfl
    · cases ofTask
  · right
    obtain ⟨_, same⟩ := mem_complainIf.mp ofExposure
    cases same
    rfl

/-- A compilation fails just with the first complaint, and succeeds just if there is none. All that a
backend service can ask for in vain is a range or an exposure: its target, its aliases and its suffix
are not looked into. -/
theorem compile_first_complaint (workload : Workload) (app environment : String)
    (settings : Settings) (fresh : UniqueSuffix) :
    (∀ error, compile workload app environment settings fresh = .error error ↔
      (workload.complaints settings).head? = some error) ∧
    ((∃ stack, compile workload app environment settings fresh = .ok stack) ↔
      workload.complaints settings = []) ∧
    (workload.kind = .backend → ∀ what,
      compile workload app environment settings fresh = .error (.unsupported what) →
        what.feature = "count.range" ∨ what.feature = "http") := by
  have reports := compile_reports workload app environment settings fresh
  refine ⟨reports.error_iff, reports.ok_iff, ?_⟩
  intro isBackend what fails
  have first := (reports.error_iff _).mp fails
  exact backend_complaints isBackend (List.mem_of_mem_head? first)

end Stackwright
