import Stackwright.Proofs.Stack.Compiled

/-!
What a compilation can fail with. Only the choice of the suffix fails for the suffix.
-/

namespace Stackwright

def CompileError.feature? : CompileError → Option String
  | missing _ => none
  | unsupported what => some what.feature

def StackError.feature? : StackError → Option String
  | overlay _ => none
  | compile error => error.feature?

def SuffixBlameless {α : Type} (outcome : Except CompileError α) : Prop :=
  ∀ error, outcome = .error error → error.feature? ≠ some "unique_suffix"

namespace SuffixBlameless

variable {α β : Type}

theorem ok (value : α) : SuffixBlameless (.ok value) := by
  intro error fails
  cases fails

theorem missing (field : RequiredField) :
    SuffixBlameless (.error (.missing field) : Except _ α) := by
  intro error fails
  cases fails
  simp [CompileError.feature?]

theorem unsupported {what : Unsupported} (other : what.feature ≠ "unique_suffix") :
    SuffixBlameless (.error (.unsupported what) : Except _ α) := by
  intro error fails
  cases fails
  intro same
  exact other (Option.some.inj same)

theorem andThen {outcome : Except CompileError α} {next : α → Except CompileError β}
    (first : SuffixBlameless outcome)
    (then_ : ∀ value, outcome = .ok value → SuffixBlameless (next value)) :
    SuffixBlameless (outcome >>= next) := by
  intro error fails
  cases reached : outcome with
  | error fault =>
      rw [reached] at fails
      cases fails
      exact first _ reached
  | ok value =>
      rw [reached] at fails
      exact then_ value reached error fails

theorem required (field : RequiredField) (given : Option α) :
    SuffixBlameless (Stackwright.require field given) := by
  cases given with
  | none => exact missing field
  | some value => exact ok value

end SuffixBlameless

open SuffixBlameless

theorem readRange_blameless (text : String) : SuffixBlameless (readRange text) := by
  rw [readRange]
  split
  · exact ok _
  · exact unsupported (by simp [Unsupported.feature])

theorem task_blameless (workload : Workload) (settings : Settings) :
    SuffixBlameless (Task.ofWorkload workload settings) := by
  apply andThen (required _ _)
  intro image _
  apply andThen (required _ _)
  intro cpu _
  apply andThen (required _ _)
  intro memory _
  apply andThen (required _ _)
  intro count _
  cases count with
  | fixed tasks => exact ok _
  | scaled scaling => exact andThen (readRange_blameless _) fun _ _ => ok _

theorem plan_blameless (workload : Workload) (app environment : String) (settings : Settings) :
    SuffixBlameless (Plan.of workload app environment settings) := by
  rw [Plan.of]
  split
  · exact missing .name
  · exact andThen (task_blameless workload settings) fun _ _ => ok _

theorem routingTarget_blameless (workload : Workload) (http : Http) (mainPort : UInt16) :
    SuffixBlameless (routingTarget workload http mainPort) := by
  rw [routingTarget]
  split
  · exact ok _
  · split
    · exact unsupported (by simp [Unsupported.feature])
    · split
      · exact unsupported (by simp [Unsupported.feature])
      · exact ok _

theorem checkAliases_blameless (settings : Settings) (aliases : List String) :
    SuffixBlameless (checkAliases settings aliases) := by
  rw [checkAliases]
  split
  · exact ok _
  · split
    · exact unsupported (by simp [Unsupported.feature])
    · split
      · exact ok _
      · exact unsupported (by simp [Unsupported.feature])

theorem routing_blameless (plan : Plan) : SuffixBlameless (Routing.of plan) := by
  apply andThen (required _ _)
  intro http _
  apply andThen (required _ _)
  intro path _
  apply andThen (required _ _)
  intro mainPort _
  apply andThen (routingTarget_blameless _ _ _)
  intro target _
  exact andThen (checkAliases_blameless _ _) fun _ _ => ok _

theorem planParameters_blameless (plan : Plan) : SuffixBlameless (planParameters plan) := by
  rw [planParameters]
  split
  · split
    · exact unsupported (by simp [Unsupported.feature])
    · exact ok _
  · exact andThen (routing_blameless plan) fun _ _ => ok _

/-- With a suffix that is accepted, no compilation fails for the suffix. -/
theorem compile_blameless {settings : Settings} {fresh suffix : UniqueSuffix} (workload : Workload)
    (app environment : String)
    (accepted : UniqueSuffix.choose settings.uniqueSuffix fresh = .ok suffix) :
    SuffixBlameless (compile workload app environment settings fresh) := by
  apply andThen (plan_blameless _ _ _ _)
  intro plan _
  apply andThen (planParameters_blameless plan)
  intro parameters _
  split
  · exact ok _
  · rw [accepted]
    exact andThen (ok _) fun _ _ => andThen (routing_blameless plan) fun _ _ => ok _

theorem compileFor_blameless {settings : Settings} {fresh suffix : UniqueSuffix}
    {workload : Workload} {app environment : String} {error : StackError}
    (accepted : UniqueSuffix.choose settings.uniqueSuffix fresh = .ok suffix)
    (fails : compileFor workload app environment settings fresh = .error error) :
    error.feature? ≠ some "unique_suffix" := by
  rw [compileFor] at fails
  cases resolves : workload.resolve environment with
  | error fault =>
      rw [resolves] at fails
      cases fails
      simp [StackError.feature?]
  | ok resolved =>
      rw [resolves] at fails
      cases compiled : compile resolved app environment settings fresh with
      | ok stack =>
          simp [Bind.bind, Except.bind, compiled] at fails
      | error fault =>
          simp only [mapError_ok, mapError_error, Bind.bind, Except.bind, compiled,
            Except.error.injEq] at fails
          subst fails
          exact compile_blameless resolved app environment accepted fault compiled

end Stackwright
