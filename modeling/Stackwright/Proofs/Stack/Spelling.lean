import Stackwright.Proofs.Stack.Defaults
import Stackwright.Proofs.Workload.Minimal

/-!
Spelling out defaults. Each setting that is left open may be given its default, independently of the
others; what is compiled does not tell whether it was.
-/

namespace Stackwright

/-- The setting is written as it is given, or its default is written where it is left open. -/
def Spelled {α : Type} (default given written : Option α) : Prop :=
  written = given ∨ given = none ∧ written = default

theorem Spelled.or_eq {α : Type} {default given written : Option α}
    (spelled : Spelled default given written) : written.or default = given.or default := by
  rcases spelled with rfl | ⟨rfl, rfl⟩
  · rfl
  · rw [Option.or_self, Option.none_or]

theorem Spelled.getD_eq {α : Type} {default : α} {given written : Option α}
    (spelled : Spelled (some default) given written) :
    written.getD default = given.getD default := by
  rcases spelled with rfl | ⟨rfl, rfl⟩ <;> rfl

structure HealthCheck.Spells (given written : HealthCheck) : Prop where
  path : Spelled (some "/") given.path written.path
  successCodes : Spelled (some "200") given.successCodes written.successCodes
  healthyThreshold : Spelled (some 2) given.healthyThreshold written.healthyThreshold
  unhealthyThreshold : Spelled (some 2) given.unhealthyThreshold written.unhealthyThreshold
  interval : Spelled (some ⟨10⟩) given.interval written.interval
  timeout : Spelled (some ⟨5⟩) given.timeout written.timeout
  gracePeriod : Spelled (some ⟨60⟩) given.gracePeriod written.gracePeriod

inductive HealthCheckSetting.Spells (given : Option HealthCheckSetting) :
    Option HealthCheckSetting → Prop where
  | same : Spells given given
  | full {check : HealthCheck}
      (spells : ((given.map HealthCheckSetting.settings).getD {}).Spells check) :
      Spells given (some (.full check))

structure Http.Spells (workload : Workload) (given written : Http) : Prop where
  path : written.path = given.path
  healthCheck : HealthCheckSetting.Spells given.healthCheck written.healthCheck
  deregistrationDelay : Spelled (some ⟨60⟩) given.deregistrationDelay written.deregistrationDelay
  stickiness : Spelled (some false) given.stickiness written.stickiness
  targetContainer : Spelled (some workload.name) given.targetContainer written.targetContainer
  /-- The main container has the port of the image, a sidecar may have one of its own. -/
  targetPort : Spelled (workload.ownPort (given.container workload)) given.targetPort
    written.targetPort
  aliases : Spelled (some []) given.aliases written.aliases

structure ContainerCheck.Spells (given written : ContainerCheck) : Prop where
  command : written.command = given.command
  interval : Spelled (some ⟨10⟩) given.interval written.interval
  retries : Spelled (some 2) given.retries written.retries
  timeout : Spelled (some ⟨5⟩) given.timeout written.timeout
  startPeriod : Spelled (some ⟨0⟩) given.startPeriod written.startPeriod

structure Sidecar.Spells (given written : Sidecar) : Prop where
  others : written = { given with essential := written.essential }
  essential : Spelled (some true) given.essential written.essential

inductive Count.Spells (given : Count) : Count → Prop where
  | same : Spells given given
  | scaled {range : String} (bare : given = .scaled ⟨range, none, none⟩) :
      Spells given (.scaled ⟨range, some 70, none⟩)

/-- Some of the defaults are spelled out, and nothing else is changed. -/
structure Workload.Spells (given written : Workload) : Prop where
  others : written = { given with
    count := written.count
    http := written.http
    healthCheck := written.healthCheck
    sidecars := written.sidecars }
  count : Option.Rel Count.Spells given.count written.count
  http : Option.Rel (Http.Spells given) given.http written.http
  healthCheck : Option.Rel ContainerCheck.Spells given.healthCheck written.healthCheck
  sidecars : ∀ name,
    Option.Rel Sidecar.Spells (given.sidecars.get? name) (written.sidecars.get? name)

structure Settings.Spells (workload : Workload) (given written : Settings) : Prop where
  others : written = { given with
    image := written.image
    addonsTemplateUrl := written.addonsTemplateUrl }
  image : Spelled workload.image.location given.image written.image
  addonsTemplateUrl : Spelled (some "") given.addonsTemplateUrl written.addonsTemplateUrl

theorem HealthCheck.Spells.spelledOut_eq {given written : HealthCheck}
    (spells : given.Spells written) : written.spelledOut = given.spelledOut := by
  simp only [HealthCheck.spelledOut, spells.path.getD_eq, spells.successCodes.getD_eq,
    spells.healthyThreshold.getD_eq, spells.unhealthyThreshold.getD_eq, spells.interval.getD_eq,
    spells.timeout.getD_eq, spells.gracePeriod.getD_eq]

theorem HealthCheckSetting.Spells.spelledOut_eq {given written : Option HealthCheckSetting}
    (spells : HealthCheckSetting.Spells given written) :
    ((written.map settings).getD {}).spelledOut = ((given.map settings).getD {}).spelledOut := by
  cases spells with
  | same => rfl
  | full spells => exact spells.spelledOut_eq

theorem ContainerCheck.Spells.spelledOut_eq {given written : ContainerCheck}
    (spells : given.Spells written) : written.spelledOut = given.spelledOut := by
  simp only [ContainerCheck.spelledOut, spells.command, spells.interval.getD_eq,
    spells.retries.getD_eq, spells.timeout.getD_eq, spells.startPeriod.getD_eq]

theorem Sidecar.Spells.port_eq {given written : Sidecar} (spells : given.Spells written) :
    written.port = given.port := by
  rw [spells.others]

theorem Sidecar.Spells.spelledOut_eq {given written : Sidecar} (spells : given.Spells written) :
    written.spelledOut = given.spelledOut := by
  rw [Sidecar.spelledOut, spells.essential.getD_eq, spells.others]
  rfl

theorem Count.Spells.spelledOut_eq {given written : Count} (spells : given.Spells written) :
    written.spelledOut = given.spelledOut := by
  cases spells with
  | same => rfl
  | scaled bare =>
      rw [bare]
      rfl

theorem map_eq_of_rel {α β : Type} {related : α → α → Prop} {f g : α → β}
    {given written : Option α} (rel : Option.Rel related given written)
    (same : ∀ {a b}, related a b → g b = f a) : written.map g = given.map f := by
  cases rel with
  | none => rfl
  | some holds => exact congrArg some (same holds)

variable {given written : Workload}

theorem Workload.Spells.sidecars_eq (spells : given.Spells written) :
    written.sidecars.map Sidecar.spelledOut = given.sidecars.map Sidecar.spelledOut := by
  apply Dict.ext
  refine entries_ext (Dict.increasing _) (Dict.increasing _) fun name => ?_
  show (written.sidecars.map Sidecar.spelledOut).get? name =
    (given.sidecars.map Sidecar.spelledOut).get? name
  rw [Dict.get?_map, Dict.get?_map]
  exact map_eq_of_rel (spells.sidecars name) Sidecar.Spells.spelledOut_eq

theorem Workload.Spells.ownPort_eq (spells : given.Spells written) (container : String) :
    written.ownPort container = given.ownPort container := by
  have sidecar : (written.sidecars.get? container).bind Sidecar.port =
      (given.sidecars.get? container).bind Sidecar.port := by
    have spelled := spells.sidecars container
    generalize written.sidecars.get? container = writtenSidecar at spelled
    generalize given.sidecars.get? container = givenSidecar at spelled
    cases spelled with
    | none => rfl
    | some spells => exact spells.port_eq
  rw [Workload.ownPort, Workload.ownPort, sidecar, spells.others]

theorem Workload.Spells.http_eq (spells : given.Spells written) {http writtenHttp : Http}
    (exposed : http.Spells given writtenHttp) :
    writtenHttp.spelledOut written = http.spelledOut given := by
  have name : written.name = given.name := by rw [spells.others]
  have container : writtenHttp.container written = http.container given := by
    rw [Http.container, name, exposed.targetContainer.getD_eq, Http.container]
  have check : writtenHttp.check.spelledOut = http.check.spelledOut :=
    exposed.healthCheck.spelledOut_eq
  simp only [Http.spelledOut, container, check, exposed.path, spells.ownPort_eq,
    exposed.deregistrationDelay.getD_eq, exposed.stickiness.getD_eq, exposed.aliases.getD_eq,
    exposed.targetPort.or_eq]

theorem Workload.Spells.spelledOut_eq (spells : given.Spells written) :
    written.spelledOut = given.spelledOut := by
  have count := map_eq_of_rel spells.count Count.Spells.spelledOut_eq
  have http := map_eq_of_rel spells.http spells.http_eq
  have healthCheck := map_eq_of_rel spells.healthCheck ContainerCheck.Spells.spelledOut_eq
  rw [Workload.spelledOut, count, http, healthCheck, spells.sidecars_eq, spells.others]
  rfl

theorem Settings.Spells.spelledOut_eq {settings writtenSettings : Settings}
    (spells : settings.Spells given writtenSettings)
    (sameImage : written.image = given.image) :
    writtenSettings.spelledOut written = settings.spelledOut given := by
  rw [Settings.spelledOut, sameImage, spells.image.or_eq, spells.addonsTemplateUrl.getD_eq,
    spells.others]
  rfl

/-- Whichever defaults are spelled out, what is compiled stays the same, be it a stack or an
error. -/
theorem compile_spells {settings writtenSettings : Settings} (spells : given.Spells written)
    (spellsSettings : settings.Spells given writtenSettings) (app environment : String)
    (fresh : UniqueSuffix) :
    compile written app environment writtenSettings fresh =
      compile given app environment settings fresh := by
  have sameImage : written.image = given.image := by rw [spells.others]
  calc
    compile written app environment writtenSettings fresh =
        compile written.spelledOut app environment (writtenSettings.spelledOut written) fresh :=
      (compile_spelledOut written app environment writtenSettings fresh).symm
    _ = compile given.spelledOut app environment (settings.spelledOut given) fresh := by
      rw [spells.spelledOut_eq, spellsSettings.spelledOut_eq sameImage]
    _ = compile given app environment settings fresh :=
      compile_spelledOut given app environment settings fresh

def proxied (essential : Option Bool) : Dict Sidecar :=
  .ofList [("proxy", ⟨"envoy", some 9901, essential, .empty⟩)]

def Workload.leftOpen (name : String) : Workload :=
  { served name with
    count := some (.scaled ⟨"1-4", none, none⟩)
    http := some ⟨some "/", some (.path "/health"), none, none, some "proxy", none, none⟩
    healthCheck := some ⟨["true"], none, none, none, none⟩
    sidecars := proxied none }

def Workload.toldMore (name : String) : Workload :=
  { leftOpen name with
    count := some (.scaled ⟨"1-4", some 70, none⟩)
    http := some ⟨some "/", some (.full { path := some "/health", timeout := some ⟨5⟩ }),
      some ⟨60⟩, none, some "proxy", some 9901, some []⟩
    healthCheck := some ⟨["true"], some ⟨10⟩, none, none, some ⟨0⟩⟩
    sidecars := proxied (some true) }

theorem Workload.leftOpen_spells (name : String) (other : name ≠ "proxy") :
    (leftOpen name).Spells (toldMore name) where
  others := rfl
  count := .some (.scaled rfl)
  http := by
    have check : HealthCheck.Spells { path := some "/health" }
        { path := some "/health", timeout := some ⟨5⟩ } :=
      ⟨.inl rfl, .inl rfl, .inl rfl, .inl rfl, .inl rfl, .inr ⟨rfl, rfl⟩, .inl rfl⟩
    have port : (leftOpen name).ownPort "proxy" = some 9901 := by
      have isSidecar : ¬"proxy" = (leftOpen name).name := Ne.symm other
      rw [ownPort, if_neg isSidecar]
      rfl
    exact .some ⟨rfl, .full check, .inr ⟨rfl, rfl⟩, .inl rfl, .inl rfl, .inr ⟨rfl, port.symm⟩,
      .inr ⟨rfl, rfl⟩⟩
  healthCheck := .some ⟨rfl, .inr ⟨rfl, rfl⟩, .inl rfl, .inl rfl, .inr ⟨rfl, rfl⟩⟩
  sidecars container := by
    show Option.Rel _ ((proxied none).get? container) ((proxied (some true)).get? container)
    by_cases isProxy : container = "proxy"
    · subst isProxy
      exact .some ⟨rfl, .inr ⟨rfl, rfl⟩⟩
    · have absent : ∀ essential, (proxied essential).get? container = none :=
        fun essential => if_neg isProxy
      rw [absent, absent]
      exact .none

def Settings.toldMore : Settings := { image := some "nginx", addonsTemplateUrl := some "" }

theorem Settings.default_spells (name : String) :
    ({} : Settings).Spells (.leftOpen name) .toldMore where
  others := rfl
  image := .inr ⟨rfl, rfl⟩
  addonsTemplateUrl := .inr ⟨rfl, rfl⟩

theorem compile_spells_toldMore :
    (Workload.leftOpen "api").Spells (.toldMore "api") ∧
    ({} : Settings).Spells (.leftOpen "api") .toldMore ∧
    ∃ stack,
      compile (.leftOpen "api") "shop" "test" {} ⟨"s1", by decide, by decide, by decide⟩ =
        .ok stack ∧
      compile (.toldMore "api") "shop" "test" .toldMore ⟨"s1", by decide, by decide, by decide⟩ =
        .ok stack := by
  have workload := Workload.leftOpen_spells "api" (by decide)
  have settings := Settings.default_spells "api"
  obtain ⟨stack, compiled⟩ : ∃ stack, compile (.leftOpen "api") "shop" "test" {}
      ⟨"s1", by decide, by decide, by decide⟩ = .ok stack := ⟨_, rfl⟩
  refine ⟨workload, settings, stack, compiled, ?_⟩
  rw [← compiled]
  exact compile_spells workload settings "shop" "test" _

end Stackwright
