import Stackwright.Proofs.Naming.Distinctness
import Stackwright.Proofs.Stack.SuffixPlaces

/-!
The names of a stack's helper functions: they keep the limit that the provider sets, and they differ
from each other as far as the digests of their full names do.
-/

namespace Stackwright

structure ShortName (full : String) (limit : Nat) (name : String) : Prop where
  made : shorten? full limit = some name
  short : name.utf8ByteSize ≤ limit
  whole : full.utf8ByteSize ≤ limit → name = full
  cut : limit < full.utf8ByteSize → Shortened full limit name
  digits : (nameDigits full limit).length = min 8 limit

theorem StackNames.physical_shortName (names : StackNames) (role : Role) (limit : Nat) :
    ShortName (names.full role) limit (names.physical role limit) where
  made := shorten?_eq _ _
  short := shorten_le _ _
  whole := shorten_of_fits
  cut := shorten_shortened
  digits := length_nameDigits _ _

theorem StackNames.unique_le_iff (names : StackNames) (role : Role) (suffix : UniqueSuffix)
    (limit : Nat) : (names.unique role suffix limit).utf8ByteSize ≤ limit ↔
      suffix.text.utf8ByteSize + 1 ≤ limit := by
  have room := shorten_le (names.full role) (limit - (suffix.text.utf8ByteSize + 1))
  have dash : "-".utf8ByteSize = 1 := rfl
  rw [unique, String.utf8ByteSize_append, String.utf8ByteSize_append, dash]
  rw [physical]
  omega

theorem StackNames.unique_inj {names : StackNames} {p q : Role} {suffix : UniqueSuffix}
    {limit : Nat} (same : names.unique p suffix limit = names.unique q suffix limit) :
    names.physical p (limit - (suffix.text.utf8ByteSize + 1)) =
      names.physical q (limit - (suffix.text.utf8ByteSize + 1)) := by
  have lists := congrArg String.toList same
  simp only [unique, String.toList_append] at lists
  exact String.toList_inj.mp
    (List.append_cancel_right (List.append_cancel_right lists))

section

variable {workload : Workload} {app environment : String} {settings : Settings}
  {fresh : UniqueSuffix} {stack : Stack}

theorem compile_helperNames (balanced : workload.kind = .loadBalanced)
    (compiled : compile workload app environment settings fresh = .ok stack) :
    ∃ suffix, stack.uniqueSuffix = some suffix ∧ ∀ role ∈ helperFunctions,
      stack.template.functionName? role =
        some (StackNames.unique ⟨app, environment, workload.name⟩ role suffix maxFunctionName) := by
  obtain ⟨plan, routing, suffix, planned, _, _, rfl⟩ := compile_loadBalanced balanced compiled
  refine ⟨suffix, rfl, ?_⟩
  intro role member
  rw [loadBalanced_helperName plan routing suffix member]
  obtain ⟨_, _, _, rfl⟩ := Plan.of_eq_ok planned
  rfl

end

/-- Whatever the names of a stack and the limit are, a physical name comes of them that keeps the
limit: the full name if it fits, and else a start of it with digits of its digest, or the digits
alone. A name with a suffix ends in it, and keeps the limit if the suffix and a dash do. So the names
of helper functions have 64 bytes at most. -/
theorem names_fit :
    (∀ (names : StackNames) (role : Role) (limit : Nat),
      names.full role =
        names.app ++ "-" ++ names.environment ++ "-" ++ names.service ++ "-" ++ role.slug ∧
      ShortName (names.full role) limit (names.physical role limit) ∧
      ∀ suffix : UniqueSuffix,
        (∃ start, names.unique role suffix limit = start ++ "-" ++ suffix.text) ∧
        ((names.unique role suffix limit).utf8ByteSize ≤ limit ↔
          suffix.text.utf8ByteSize + 1 ≤ limit)) ∧
    ∀ workload app environment settings fresh stack, workload.kind = .loadBalanced →
      compile workload app environment settings fresh = .ok stack →
      ∀ role ∈ helperFunctions, ∃ name, stack.template.functionName? role = some name ∧
        name.utf8ByteSize ≤ 64 := by
  constructor
  · intro names role limit
    refine ⟨rfl, names.physical_shortName role limit, ?_⟩
    intro suffix
    exact ⟨⟨_, rfl⟩, names.unique_le_iff role suffix limit⟩
  · intro workload app environment settings fresh stack balanced compiled role member
    obtain ⟨suffix, _, named⟩ := compile_helperNames balanced compiled
    refine ⟨_, named role member, ?_⟩
    have suffixFits : suffix.text.utf8ByteSize + 1 ≤ maxFunctionName :=
      Nat.succ_le_succ (Nat.le_trans suffix.short (by decide))
    exact (StackNames.unique_le_iff _ role suffix maxFunctionName).mpr suffixFits

theorem names_fit_longest : ∃ stack name,
    compile (.served "checkout-frontend") "my-very-long-application" "production" {}
      ⟨"0123456789abcdef0123456789abcdef-xyz", by decide, by decide, by decide⟩ = .ok stack ∧
      stack.template.functionName? .envControllerFunction = some name ∧
      name.utf8ByteSize ≤ 64 := by
  obtain ⟨stack, compiled⟩ : ∃ stack,
      compile (.served "checkout-frontend") "my-very-long-application" "production" {}
        ⟨"0123456789abcdef0123456789abcdef-xyz", by decide, by decide, by decide⟩ = .ok stack :=
    ⟨_, rfl⟩
  obtain ⟨name, named, fits⟩ := names_fit.2 _ _ _ _ _ stack rfl compiled .envControllerFunction
    (by decide)
  exact ⟨stack, name, compiled, named, fits⟩

/-- Physical names of different full names are the same only if both are cut and the digits of their
digests agree; a name that fits is never what another is cut to. So the helper functions of a stack
have different names, unless both are cut and the first eight digits agree. -/
theorem physical_names_differ :
    (∀ (a b : StackNames) (p q : Role) (limit : Nat), a.full p ≠ b.full q →
      a.physical p limit = b.physical q limit →
        DigitsAgree (a.full p) (b.full q) limit) ∧
    (∀ (a b : StackNames) (p q : Role) (limit : Nat), (a.full p).utf8ByteSize ≤ limit →
      limit < (b.full q).utf8ByteSize → a.physical p limit ≠ b.physical q limit) ∧
    ∀ workload app environment settings fresh stack, workload.kind = .loadBalanced →
      compile workload app environment settings fresh = .ok stack →
      ∃ suffix controller priority, stack.uniqueSuffix = some suffix ∧
        stack.template.functionName? .envControllerFunction = some controller ∧
        stack.template.functionName? .rulePriorityFunction = some priority ∧
        (controller = priority →
          let names : StackNames := ⟨app, environment, workload.name⟩
          let room := 64 - (suffix.text.utf8ByteSize + 1)
          DigitsAgree (names.full .envControllerFunction) (names.full .rulePriorityFunction) room ∧
          (nameDigest (names.full .envControllerFunction)).take 8 =
            (nameDigest (names.full .rulePriorityFunction)).take 8) := by
  refine ⟨?_, ?_, ?_⟩
  · intro a b p q limit different same
    exact StackNames.digitsAgree_of_physical different same
  · intro a b p q limit fits tooLong same
    have sameShort : shorten (a.full p) limit = shorten (b.full q) limit := same
    rw [shorten_of_fits fits] at sameShort
    exact full_ne_shortened a p fits tooLong sameShort
  · intro workload app environment settings fresh stack balanced compiled
    obtain ⟨suffix, used, named⟩ := compile_helperNames balanced compiled
    refine ⟨suffix, _, _, used, named .envControllerFunction (by decide),
      named .rulePriorityFunction (by decide), ?_⟩
    intro same
    have agree := StackNames.digitsAgree_of_physical (StackNames.full_helpers_ne _)
      (StackNames.unique_inj same)
    have wide : min 8 (maxFunctionName - (suffix.text.utf8ByteSize + 1)) = 8 := by
      have short : suffix.text.utf8ByteSize ≤ 36 := suffix.short
      have limit : maxFunctionName = 64 := rfl
      omega
    have digits := agree.same
    rw [nameDigits, nameDigits, wide] at digits
    exact ⟨agree, digits⟩

theorem physical_names_differ_served :
    (let controller : StackNames := ⟨"a", "u", "api"⟩
     let priority : StackNames := ⟨"b", "t", "api"⟩
     controller.physical .envControllerFunction 3 = priority.physical .rulePriorityFunction 3 ∧
       DigitsAgree (controller.full .envControllerFunction) (priority.full .rulePriorityFunction)
         3) ∧
    ∃ stack controller priority,
      compile (.served "api") "shop" "test" {} ⟨"s1", by decide, by decide, by decide⟩ = .ok stack ∧
        stack.template.functionName? .envControllerFunction = some controller ∧
        stack.template.functionName? .rulePriorityFunction = some priority ∧
        controller ≠ priority := by
  constructor
  · have same : StackNames.physical ⟨"a", "u", "api"⟩ .envControllerFunction 3 =
        StackNames.physical ⟨"b", "t", "api"⟩ .rulePriorityFunction 3 := by
      rw [StackNames.physical, StackNames.physical,
        shorten_eq_digits (by decide) (by decide +kernel),
        shorten_eq_digits (by decide) (by decide +kernel)]
      apply congrArg
      decide +kernel
    exact ⟨same, physical_names_differ.1 _ _ _ _ 3 (by decide +kernel) same⟩
  · obtain ⟨stack, compiled, suffixed⟩ : ∃ stack,
        compile (.served "api") "shop" "test" {} ⟨"s1", by decide, by decide, by decide⟩ =
          .ok stack ∧ stack.uniqueSuffix = some ⟨"s1", by decide, by decide, by decide⟩ :=
      ⟨_, rfl, rfl⟩
    obtain ⟨suffix, controller, priority, used, isController, isPriority, agree⟩ :=
      physical_names_differ.2.2 _ _ _ _ _ stack rfl compiled
    cases used.symm.trans suffixed
    refine ⟨stack, controller, priority, compiled, isController, isPriority, ?_⟩
    intro same
    have cut := (agree same).1.firstCut
    revert cut
    decide +kernel

end Stackwright
