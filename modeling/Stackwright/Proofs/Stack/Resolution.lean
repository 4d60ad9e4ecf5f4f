import Stackwright.Proofs.Stack.Compiled
import Stackwright.Proofs.Workload.NullOverride

/-!
Resolving ahead of compiling. What an environment makes of a workload is final: no environment makes
anything else of it. So a stack is the same whether its workload is resolved in its compilation,
before it, or both times.
-/

namespace Stackwright

namespace Workload

variable {workload resolved : Workload} {environment : String}

theorem plain_of_resolve (resolves : workload.resolve environment = .ok resolved) :
    resolved.plain = resolved := by
  rw [resolve] at resolves
  cases stored : workload.environments.get? environment with
  | none =>
      rw [stored] at resolves
      cases resolves
      rfl
  | some fragment =>
      rw [stored] at resolves
      obtain ⟨merged, _, resolves⟩ := bind_eq_ok.mp resolves
      obtain ⟨read, _, resolves⟩ := bind_eq_ok.mp resolves
      cases resolves
      rfl

theorem resolve_of_plain (isPlain : workload.plain = workload) (environment : String) :
    workload.resolve environment = .ok workload := by
  have unstored : workload.environments.get? environment = none := by
    rw [← isPlain]
    exact Dict.get?_empty environment
  rw [resolve, unstored]
  exact congrArg Except.ok isPlain

end Workload

section

variable {workload resolved : Workload} {app environment : String} {settings : Settings}
  {fresh : UniqueSuffix}

theorem compileFor_of_resolve (resolves : workload.resolve environment = .ok resolved) :
    compileFor workload app environment settings fresh =
      (compile resolved app environment settings fresh).mapError .compile := by
  rw [compileFor, resolves]
  rfl

theorem compileFor_of_error {error : OverlayError}
    (fails : workload.resolve environment = .error error) :
    compileFor workload app environment settings fresh = .error (.overlay error) := by
  rw [compileFor, fails]
  rfl

def Settings.SuppliesSuffix (settings : Settings) : Prop :=
  ∃ text, settings.uniqueSuffix = some text ∧ text ≠ ""

theorem choose_supplied (supplied : settings.SuppliesSuffix) (other : UniqueSuffix) :
    UniqueSuffix.choose settings.uniqueSuffix other =
      UniqueSuffix.choose settings.uniqueSuffix fresh := by
  obtain ⟨text, isText, present⟩ := supplied
  rw [isText, UniqueSuffix.choose, UniqueSuffix.choose, dif_pos present, dif_pos present]

theorem compile_sameSuffix {other : UniqueSuffix} (same : settings.SuppliesSuffix ∨ other = fresh) :
    compile workload app environment settings other =
      compile workload app environment settings fresh := by
  rcases same with supplied | rfl
  · rw [compile, compile, choose_supplied supplied other]
  · rfl

end

/-- Resolving for an environment depends on the fragment for that environment alone, and what comes
of it is left alone by every environment. Compiling for the environment is compiling what comes of
it, however often it is resolved before, as long as a suffix is supplied or the same fresh one is
taken. A workload that cannot be resolved is not compiled at all. -/
theorem resolution_isolated_final (base : Workload) (environment : String) :
    (∀ other : Workload, other.plain = base.plain →
      other.environments.get? environment = base.environments.get? environment →
      other.resolve environment = base.resolve environment) ∧
    (∀ resolved, base.resolve environment = .ok resolved →
      (∀ another, resolved.resolve another = .ok resolved) ∧
      ∀ app settings first second fresh,
        settings.SuppliesSuffix ∨ first = fresh ∧ second = fresh →
        compileFor base app environment settings first =
          (compile resolved app environment settings fresh).mapError .compile ∧
        compileFor resolved app environment settings second =
          (compile resolved app environment settings fresh).mapError .compile) ∧
    (∀ error, base.resolve environment = .error error → ∀ app settings fresh,
      compileFor base app environment settings fresh = .error (.overlay error)) := by
  refine ⟨fun other => Workload.resolve_congr, ?_, ?_⟩
  · intro resolved resolves
    have again := Workload.resolve_of_plain (Workload.plain_of_resolve resolves)
    refine ⟨again, ?_⟩
    intro app settings first second fresh suffixes
    have sameFirst : settings.SuppliesSuffix ∨ first = fresh := suffixes.imp_right And.left
    have sameSecond : settings.SuppliesSuffix ∨ second = fresh := suffixes.imp_right And.right
    constructor
    · rw [compileFor_of_resolve resolves, compile_sameSuffix sameFirst]
    · rw [compileFor_of_resolve (again environment), compile_sameSuffix sameSecond]
  · intro error fails app settings fresh
    exact compileFor_of_error fails

namespace Workload

/-- In the south the service has another name and fragments of its own, and the other
environments do not matter. -/
def renamedInSouth (others : Tree) : Workload :=
  { runnable "api" .backend with
    environments := .ofList [
      ("eu.south", .map [
        ("environments", .map [("eu.south", .map [("cpu", .scalar (.integer 512))])]),
        ("name", .scalar (.string "shop"))]),
      ("eu.north", others)] }

end Workload

theorem resolution_renamedInSouth :
    (Workload.renamedInSouth (.sequence [])).plain = (Workload.renamedInSouth .null).plain ∧
    (∃ resolved, (Workload.renamedInSouth .null).resolve "eu.south" = .ok resolved ∧
      resolved.name = "shop" ∧ resolved.cpu = some 256 ∧
      (Workload.renamedInSouth (.sequence [])).resolve "eu.south" = .ok resolved ∧
      resolved.resolve "eu.south" = .ok resolved ∧
      compileFor (Workload.renamedInSouth .null) "shop" "eu.south" { uniqueSuffix := some "s1" }
        ⟨"s2", by decide, by decide, by decide⟩ =
          (compile resolved "shop" "eu.south" { uniqueSuffix := some "s1" }
            ⟨"s3", by decide, by decide, by decide⟩).mapError .compile) ∧
    ∃ error, (Workload.renamedInSouth (.sequence [])).resolve "eu.north" = .error error ∧
      compileFor (Workload.renamedInSouth (.sequence [])) "shop" "eu.north" {}
        ⟨"s1", by decide, by decide, by decide⟩ = .error (.overlay error) := by
  obtain ⟨resolved, resolves, renamed, unchanged⟩ : ∃ resolved,
      (Workload.renamedInSouth .null).resolve "eu.south" = .ok resolved ∧
        resolved.name = "shop" ∧ resolved.cpu = some 256 := ⟨_, rfl, rfl, rfl⟩
  obtain ⟨error, fails⟩ : ∃ error,
      (Workload.renamedInSouth (.sequence [])).resolve "eu.north" = .error error := ⟨_, rfl⟩
  obtain ⟨isolated, final, -⟩ :=
    resolution_isolated_final (Workload.renamedInSouth .null) "eu.south"
  obtain ⟨again, alike⟩ := final resolved resolves
  obtain ⟨-, -, failing⟩ :=
    resolution_isolated_final (Workload.renamedInSouth (.sequence [])) "eu.north"
  have supplies : ({ uniqueSuffix := some "s1" } : Settings).SuppliesSuffix :=
    ⟨"s1", rfl, by decide⟩
  have sameResolved := (isolated (Workload.renamedInSouth (.sequence [])) rfl rfl).trans resolves
  have sameStack := (alike "shop" _ ⟨"s2", by decide, by decide, by decide⟩
    ⟨"s2", by decide, by decide, by decide⟩ ⟨"s3", by decide, by decide, by decide⟩
    (.inl supplies)).1
  exact ⟨rfl, ⟨resolved, resolves, renamed, unchanged, sameResolved, again _, sameStack⟩, error,
    fails, failing error fails _ _ _⟩

end Stackwright
