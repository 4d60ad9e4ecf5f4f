import Stackwright.Proofs.Stack.Admission

/-!
The parameters on their own. They are those with which the stack would be deployed, and what fails
them fails the stack: only a suffix that is refused makes a difference.
-/

namespace Stackwright

variable {workload : Workload} {app environment : String} {settings : Settings}
  {fresh : UniqueSuffix}

def BadSuffix (text : String) : Prop :=
  maxSuffixLength < text.utf8ByteSize ∨ ∃ c ∈ text.toList, c ∉ suffixAlphabet

/-- The settings supply a suffix that the workload's helper functions cannot have. -/
def Workload.RefusesSuffix (workload : Workload) (settings : Settings) : Prop :=
  workload.kind = .loadBalanced ∧
    ∃ text, settings.uniqueSuffix = some text ∧ text ≠ "" ∧ BadSuffix text

theorem suffixComplaints_eq_nil_iff (text : String) :
    suffixComplaints text = [] ↔ ¬ BadSuffix text := by
  have short : complainIf (maxSuffixLength < text.utf8ByteSize)
      (.unsupported (.suffixTooLong text)) = [] ↔ ¬ maxSuffixLength < text.utf8ByteSize := by
    by_cases long : maxSuffixLength < text.utf8ByteSize <;> simp [complainIf, long]
  rw [suffixComplaints, BadSuffix, List.append_eq_nil_iff, not_or, short]
  cases found : text.toList.find? (· ∉ suffixAlphabet) with
  | none =>
      have allowed := List.find?_eq_none.mp found
      simpa using fun _ => allowed
  | some c =>
      have member := List.mem_of_find?_eq_some found
      have unlisted := List.find?_some found
      have bad : ∃ c ∈ text.toList, c ∉ suffixAlphabet := ⟨c, member, of_decide_eq_true unlisted⟩
      simp [bad]

theorem suffixComplaints_feature {text : String} {error : CompileError}
    (complained : error ∈ suffixComplaints text) :
    ∃ what, error = .unsupported what ∧ what.feature = "unique_suffix" := by
  rw [suffixComplaints] at complained
  rcases List.mem_append.mp complained with long | unlisted
  · obtain ⟨_, rfl⟩ := mem_complainIf.mp long
    exact ⟨_, rfl, rfl⟩
  · split at unlisted
    · cases List.mem_singleton.mp unlisted
      exact ⟨_, rfl, rfl⟩
    · cases unlisted

theorem badSuffix_supplied_iff (supplied : Option String) :
    BadSuffix (supplied.getD "") ↔ ∃ text, supplied = some text ∧ text ≠ "" ∧ BadSuffix text := by
  have emptyIsGood : ¬ BadSuffix "" := by simp [BadSuffix]
  cases supplied with
  | none => simpa using emptyIsGood
  | some text =>
      constructor
      · intro bad
        refine ⟨text, rfl, ?_, bad⟩
        rintro rfl
        exact emptyIsGood bad
      · rintro ⟨_, same, _, bad⟩
        cases same
        exact bad

theorem choose_outcome (supplied : Option String) (fresh : UniqueSuffix) :
    (∃ suffix, UniqueSuffix.choose supplied fresh = .ok suffix ∧
      ¬ BadSuffix (supplied.getD "")) ∨
    ∃ what, UniqueSuffix.choose supplied fresh = .error (.unsupported what) ∧
      what.feature = "unique_suffix" ∧ BadSuffix (supplied.getD "") := by
  have reports := choose_reports supplied fresh
  cases chosen : UniqueSuffix.choose supplied fresh with
  | ok suffix =>
      have blameless := reports.ok_iff.mp ⟨suffix, chosen⟩
      exact .inl ⟨suffix, rfl, (suffixComplaints_eq_nil_iff _).mp blameless⟩
  | error error =>
      have first := (reports.error_iff error).mp chosen
      have complained := List.mem_of_mem_head? first
      obtain ⟨what, rfl, aboutSuffix⟩ := suffixComplaints_feature complained
      have bad : BadSuffix (supplied.getD "") := by
        apply Classical.byContradiction
        intro good
        rw [(suffixComplaints_eq_nil_iff _).mpr good] at complained
        cases complained
      exact .inr ⟨what, rfl, aboutSuffix, bad⟩

theorem compile_map_parameters (workload : Workload) (app environment : String)
    (settings : Settings) (fresh : UniqueSuffix) :
    (compile workload app environment settings fresh).map Stack.parameters =
      (stackParameters workload app environment settings).bind fun parameters =>
        match workload.kind with
        | .backend => .ok parameters
        | .loadBalanced =>
          (UniqueSuffix.choose settings.uniqueSuffix fresh).map fun _ => parameters := by
  cases planned : Plan.of workload app environment settings with
  | error fault =>
      rw [compile, stackParameters, planned]
      rfl
  | ok plan =>
      have sameWorkload := Plan.of_workload planned
      cases kind : workload.kind with
      | backend =>
          cases valued : planParameters plan <;>
            simp only [compile, stackParameters, planned, valued, kind, bind, Except.bind,
              Except.map, pure, Except.pure]
      | loadBalanced =>
          have planKind : plan.workload.kind = .loadBalanced := sameWorkload ▸ kind
          cases routed : Routing.of plan with
          | error fault =>
              simp only [compile, stackParameters, planned, planParameters, planKind, routed, bind,
                Except.bind, Except.map]
          | ok routing =>
              cases chosen : UniqueSuffix.choose settings.uniqueSuffix fresh <;>
                simp only [compile, stackParameters, planned, planParameters, planKind, routed,
                  kind, chosen, bind, Except.bind, Except.map, pure, Except.pure]

/-- The parameters alone fail with what the stack fails with. Where they do not fail, they are those
of the stack, unless a bad suffix is supplied for helper functions: then the stack fails for the
suffix. -/
theorem stackParameters_agree (workload : Workload) (app environment : String)
    (settings : Settings) (fresh : UniqueSuffix) :
    (∀ error, stackParameters workload app environment settings = .error error →
      compile workload app environment settings fresh = .error error) ∧
    ∀ parameters, stackParameters workload app environment settings = .ok parameters →
      (∃ stack, compile workload app environment settings fresh = .ok stack ∧
        stack.parameters = parameters ∧ ¬ workload.RefusesSuffix settings) ∨
      ∃ what, compile workload app environment settings fresh = .error (.unsupported what) ∧
        what.feature = "unique_suffix" ∧ workload.RefusesSuffix settings := by
  have made := compile_map_parameters workload app environment settings fresh
  constructor
  · intro error fails
    rw [fails] at made
    exact map_eq_error.mp made
  · intro parameters valued
    rw [valued] at made
    rw [Workload.RefusesSuffix, ← badSuffix_supplied_iff]
    cases kind : workload.kind with
    | backend =>
        rw [kind] at made
        obtain ⟨stack, compiled, sameParameters⟩ := map_eq_ok.mp made
        exact .inl ⟨stack, compiled, sameParameters, by simp⟩
    | loadBalanced =>
        simp only [kind, Except.bind] at made
        rcases choose_outcome settings.uniqueSuffix fresh with
          ⟨suffix, chosen, good⟩ | ⟨what, refused, aboutSuffix, bad⟩
        · rw [chosen] at made
          obtain ⟨stack, compiled, sameParameters⟩ := map_eq_ok.mp made
          exact .inl ⟨stack, compiled, sameParameters, fun refuses => good refuses.2⟩
        · rw [refused] at made
          exact .inr ⟨what, map_eq_error.mp made, aboutSuffix, rfl, bad⟩

theorem stackParameters_agree_served :
    (∃ parameters what,
      stackParameters (.served "api") "shop" "test" { uniqueSuffix := some "a b" } =
        .ok parameters ∧
      compile (.served "api") "shop" "test" { uniqueSuffix := some "a b" }
        ⟨"s1", by decide, by decide, by decide⟩ = .error (.unsupported what) ∧
      what.feature = "unique_suffix") ∧
    stackParameters (.runnable "api" .loadBalanced) "shop" "test" {} = .error (.missing .http) ∧
    compile (.runnable "api" .loadBalanced) "shop" "test" {}
      ⟨"s1", by decide, by decide, by decide⟩ = .error (.missing .http) := by
  obtain ⟨parameters, valued⟩ : ∃ parameters, stackParameters (.served "api") "shop" "test"
      { uniqueSuffix := some "a b" } = .ok parameters := ⟨_, rfl⟩
  have unexposed : stackParameters (.runnable "api" .loadBalanced) "shop" "test" {} =
      .error (.missing .http) := rfl
  have refuses : (Workload.served "api").RefusesSuffix { uniqueSuffix := some "a b" } := by
    refine ⟨rfl, "a b", rfl, by decide, .inr ⟨' ', by decide, by decide⟩⟩
  have fails := (stackParameters_agree (.runnable "api" .loadBalanced) "shop" "test" {}
    ⟨"s1", by decide, by decide, by decide⟩).1 _ unexposed
  rcases (stackParameters_agree (.served "api") "shop" "test" { uniqueSuffix := some "a b" }
      ⟨"s1", by decide, by decide, by decide⟩).2 parameters valued with
    ⟨_, _, _, accepts⟩ | ⟨what, refused, aboutSuffix, _⟩
  · exact absurd refuses accepts
  · exact ⟨⟨parameters, what, valued, refused, aboutSuffix⟩, unexposed, fails⟩

end Stackwright
