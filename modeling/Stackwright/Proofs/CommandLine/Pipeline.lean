import Stackwright.CommandLine.Run
import Stackwright.Proofs.CommandLine.Arguments
import Stackwright.Proofs.Directory
import Stackwright.Proofs.Yaml.LastLine

/-!
What a run of the command is: the settings are loaded, the manifest is read, and the stack that they
compile to is written out. The first of these steps that fails ends the run, before anything is
written.
-/

namespace Stackwright

namespace CommandLine

def Options.settled (options : Options) (given : Settings) : Settings :=
  { given with
    region := options.region.getD given.region
    partition := (options.region.map Partition.ofRegion).getD given.partition
    uniqueSuffix := options.uniqueSuffix.or given.uniqueSuffix }

theorem Options.override_eq (options : Options) (given : Settings) :
    options.override given = options.settled given := by
  rw [Options.override, Options.settled]
  cases options.region <;> cases options.uniqueSuffix <;> rfl

def Options.sourcesIn (options : Options) (directory : Directory) : Sources where
  settings := options.settingsFile.map fun file => (file, directory.read file)
  manifest := directory.read options.manifest

variable {options : Options} {directory : Directory} {fresh : UniqueSuffix}

theorem Options.sources_run (options : Options) (directory : Directory) :
    (options.sources Directory.reachable).run directory =
      (options.sourcesIn directory, directory) := by
  obtain ⟨manifest, app, environment, settingsFile, region, parametersFile, suffix⟩ := options
  cases settingsFile <;> rfl

/-- The settings given are those of the settings file, and the default ones where there is none. -/
inductive Options.Loads (options : Options) (directory : Directory) : Settings → Prop where
  | default (unnamed : options.settingsFile = none) : Loads options directory {}
  | file {file text : String} {given : Settings} (named : options.settingsFile = some file)
      (reads : directory.read file = .ok text) (parses : Settings.ofText text = .ok given) :
      Loads options directory given

inductive Options.Compiles (options : Options) (directory : Directory) (fresh : UniqueSuffix)
    (stack : Stack) : Prop where
  | intro {given : Settings} {text : String} {workload : Workload}
      (loads : options.Loads directory given) (reads : directory.read options.manifest = .ok text)
      (parses : Workload.ofManifest text = .ok workload)
      (compiles : compileFor workload options.app options.environment (options.settled given)
        fresh = .ok stack)

/-- The first failure on the way to a stack. -/
inductive Options.Fails (options : Options) (directory : Directory) (fresh : UniqueSuffix) :
    Failure → Prop where
  | settingsFile {file : String} {error : FileError} (named : options.settingsFile = some file)
      (fails : directory.read file = .error error) :
      Fails options directory fresh (.settings file (.unreadable error))
  | settings {file text : String} {error : SettingsFileError}
      (named : options.settingsFile = some file) (reads : directory.read file = .ok text)
      (fails : Settings.ofText text = .error error) :
      Fails options directory fresh (.settings file error)
  | manifestFile {given : Settings} {error : FileError} (loads : options.Loads directory given)
      (fails : directory.read options.manifest = .error error) :
      Fails options directory fresh (.manifestFile options.manifest error)
  | manifest {given : Settings} {text : String} {error : ManifestError}
      (loads : options.Loads directory given) (reads : directory.read options.manifest = .ok text)
      (fails : Workload.ofManifest text = .error error) :
      Fails options directory fresh (.manifest options.manifest error)
  | stack {given : Settings} {text : String} {workload : Workload} {error : StackError}
      (loads : options.Loads directory given) (reads : directory.read options.manifest = .ok text)
      (parses : Workload.ofManifest text = .ok workload)
      (fails : compileFor workload options.app options.environment (options.settled given) fresh =
        .error error) :
      Fails options directory fresh (.stack error)

theorem Options.loads_or_fails (options : Options) (directory : Directory)
    (fresh : UniqueSuffix) :
    (∃ given, options.Loads directory given) ∨
      ∃ failure, options.Fails directory fresh failure := by
  cases named : options.settingsFile with
  | none => exact .inl ⟨{}, .default named⟩
  | some file =>
      cases reads : directory.read file with
      | error error => exact .inr ⟨_, .settingsFile named reads⟩
      | ok text =>
          cases parses : Settings.ofText text with
          | error error => exact .inr ⟨_, .settings named reads parses⟩
          | ok given => exact .inl ⟨given, .file named reads parses⟩

theorem Options.compiles_or_fails (options : Options) (directory : Directory)
    (fresh : UniqueSuffix) :
    (∃ stack, options.Compiles directory fresh stack) ∨
      ∃ failure, options.Fails directory fresh failure := by
  rcases options.loads_or_fails directory fresh with ⟨given, loads⟩ | fails
  · cases reads : directory.read options.manifest with
    | error error => exact .inr ⟨_, .manifestFile loads reads⟩
    | ok text =>
        cases parses : Workload.ofManifest text with
        | error error => exact .inr ⟨_, .manifest loads reads parses⟩
        | ok workload =>
            cases compiles : compileFor workload options.app options.environment
              (options.settled given) fresh with
            | error error => exact .inr ⟨_, .stack loads reads parses compiles⟩
            | ok stack => exact .inl ⟨stack, .intro loads reads parses compiles⟩
  · exact .inr fails

theorem Options.Loads.compile_eq {given : Settings} (loads : options.Loads directory given) :
    options.compile (options.sourcesIn directory) fresh =
      ((directory.read options.manifest).mapError (.manifestFile options.manifest) >>= fun text =>
        (Workload.ofManifest text).mapError (.manifest options.manifest) >>= fun workload =>
          (compileFor workload options.app options.environment (options.settled given)
            fresh).mapError .stack) := by
  cases loads with
  | default unnamed =>
      simp only [Options.compile, Options.sourcesIn, unnamed, Options.override_eq]
      rfl
  | file named reads parses =>
      simp only [Options.compile, Options.sourcesIn, named, Option.map_some, reads,
        Settings.ofFile, mapError_ok, ok_bind, parses, Options.override_eq]

theorem Options.Compiles.compile_eq {stack : Stack}
    (compiles : options.Compiles directory fresh stack) :
    options.compile (options.sourcesIn directory) fresh = .ok stack := by
  obtain ⟨loads, reads, parses, compiles⟩ := compiles
  rw [loads.compile_eq]
  simp only [reads, parses, compiles, mapError_ok, ok_bind]

theorem Options.Fails.compile_eq {failure : Failure}
    (fails : options.Fails directory fresh failure) :
    options.compile (options.sourcesIn directory) fresh = .error failure := by
  cases fails with
  | settingsFile named fails =>
      simp only [Options.compile, Options.sourcesIn, named, Option.map_some, fails,
        Settings.ofFile, mapError_error, error_bind]
  | settings named reads fails =>
      simp only [Options.compile, Options.sourcesIn, named, Option.map_some, reads,
        Settings.ofFile, mapError_ok, ok_bind, fails, mapError_error, error_bind]
  | manifestFile loads fails => simp only [loads.compile_eq, fails, mapError_error, error_bind]
  | manifest loads reads fails =>
      simp only [loads.compile_eq, reads, fails, mapError_ok, mapError_error, ok_bind, error_bind]
  | stack loads reads parses fails =>
      simp only [loads.compile_eq, reads, parses, fails, mapError_ok, mapError_error, ok_bind]

/-- A run changes the directory in nothing but the file of the parameters. -/
theorem Options.run_run (options : Options) (directory : Directory) (fresh : UniqueSuffix) :
    (options.run Directory.reachable fresh).run directory =
      match options.compile (options.sourcesIn directory) fresh with
      | .error failure => ({ failure := some failure }, directory)
      | .ok stack =>
        let body := Yaml.print stack.template.document
        let parameters := parametersText stack.parameters
        match options.parametersFile with
        | none => ({ output := body ++ "---\n" ++ parameters ++ "\n" }, directory)
        | some file =>
          match directory.write file parameters with
          | .ok after => ({ output := body }, after)
          | .error error =>
            ({ output := body, failure := some (.parametersFile file error) }, directory) := by
  have sources : options.sources Directory.reachable directory =
      (options.sourcesIn directory, directory) := options.sources_run directory
  simp only [Options.run, StateT.run, bind, StateT.bind, sources]
  cases options.compile (options.sourcesIn directory) fresh with
  | error failure => rfl
  | ok stack =>
      cases options.parametersFile with
      | none => rfl
      | some file =>
          simp only [Directory.reachable, bind, StateT.bind, get, getThe, MonadStateOf.get,
            StateT.get, pure]
          cases directory.write file (parametersText stack.parameters) <;> rfl

inductive Options.Writes (options : Options) (directory : Directory) (stack : Stack) :
    Outcome × Directory → Prop where
  /-- The template ends its last line, so that the mark after it is a line of its own. -/
  | together (unnamed : options.parametersFile = none)
      (lines : Yaml.EndsLine (Yaml.print stack.template.document)) :
      Writes options directory stack
        ({ output := Yaml.print stack.template.document ++ "---\n"
            ++ parametersText stack.parameters ++ "\n" }, directory)
  | apart {file : String} {after : Directory} (named : options.parametersFile = some file)
      (wrote : directory.write file (parametersText stack.parameters) = .ok after)
      (gains : directory.Gains file (parametersText stack.parameters) after) :
      Writes options directory stack ({ output := Yaml.print stack.template.document }, after)
  | unwritten {file : String} {error : FileError} (named : options.parametersFile = some file)
      (fails : directory.write file (parametersText stack.parameters) = .error error) :
      Writes options directory stack
        ({ output := Yaml.print stack.template.document
           failure := some (.parametersFile file error) }, directory)

def Options.CanWrite (options : Options) (directory : Directory) (stack : Stack) : Prop :=
  ∀ file, options.parametersFile = some file →
    ∃ after, directory.write file (parametersText stack.parameters) = .ok after

variable {arguments : List String} {stack : Stack} {failure : Failure}

theorem run_of_accepted (accepted : Options.read arguments = .ok (some options))
    (directory : Directory) (fresh : UniqueSuffix) :
    (run arguments Directory.reachable fresh).run directory =
      (options.run Directory.reachable fresh).run directory := by
  rw [run, accepted]

theorem Options.Fails.run_eq (fails : options.Fails directory fresh failure) :
    (options.run Directory.reachable fresh).run directory =
      ({ failure := some failure }, directory) := by
  rw [Options.run_run, fails.compile_eq]

theorem Options.Fails.status_eq (fails : options.Fails directory fresh failure) :
    failure.status = 1 := by
  cases fails <;> rfl

theorem Options.Compiles.endsLine (compiles : options.Compiles directory fresh stack) :
    Yaml.EndsLine (Yaml.print stack.template.document) := by
  obtain ⟨-, -, -, compiles⟩ := compiles
  obtain ⟨_, -, compiled⟩ := compileFor_eq_ok.mp compiles
  exact endsLine_of_compile compiled

theorem Options.Compiles.writes (compiles : options.Compiles directory fresh stack) :
    options.Writes directory stack ((options.run Directory.reachable fresh).run directory) := by
  rw [Options.run_run, compiles.compile_eq]
  cases named : options.parametersFile with
  | none => exact .together named compiles.endsLine
  | some file =>
      cases wrote : directory.write file (parametersText stack.parameters) with
      | ok after =>
          simp only [wrote]
          exact .apart named wrote (Directory.gains_of_write wrote)
      | error error =>
          simp only [wrote]
          exact .unwritten named wrote

theorem Options.Writes.status_eq_zero {ran : Outcome × Directory}
    (writes : options.Writes directory stack ran) :
    ran.1.status = 0 ↔ options.CanWrite directory stack := by
  cases writes with
  | together unnamed => simp [Outcome.status, Options.CanWrite, unnamed]
  | apart named wrote => simp [Outcome.status, Options.CanWrite, named, wrote]
  | unwritten named fails =>
      simp [Outcome.status, Options.CanWrite, named, fails, Failure.status]

theorem Options.Writes.status_le_one {ran : Outcome × Directory}
    (writes : options.Writes directory stack ran) : ran.1.status = 0 ∨ ran.1.status = 1 := by
  cases writes with
  | together => exact .inl rfl
  | apart => exact .inl rfl
  | unwritten => exact .inr rfl

/-- A run of accepted arguments is the library's pipeline, from the settings and the manifest to
the stack. It succeeds just where each of its steps does; the first failure before there is a stack
is told, and then nothing is written. -/
theorem run_pipeline (accepted : Options.read arguments = .ok (some options))
    (directory : Directory) (fresh : UniqueSuffix) :
    let ran := (run arguments Directory.reachable fresh).run directory
    (ran.1.status = 0 ↔
      ∃ stack, options.Compiles directory fresh stack ∧ options.CanWrite directory stack) ∧
    (ran.1.status = 0 ∨ ran.1.status = 1) ∧
    (∀ stack, options.Compiles directory fresh stack → options.Writes directory stack ran) ∧
    (∀ failure, options.Fails directory fresh failure →
      ran = ({ failure := some failure }, directory) ∧ ran.1.status = 1 ∧
        ran.1.errors = failure.message) ∧
    ((∃ stack, options.Compiles directory fresh stack) ∨
      ∃ failure, options.Fails directory fresh failure) := by
  rw [run_of_accepted accepted]
  intro ran
  have failed : ∀ failure, options.Fails directory fresh failure →
      ran = ({ failure := some failure }, directory) ∧ ran.1.status = 1 ∧
        ran.1.errors = failure.message := by
    intro failure fails
    have ranIs : ran = ({ failure := some failure }, directory) := fails.run_eq
    rw [ranIs]
    exact ⟨rfl, fails.status_eq, rfl⟩
  refine ⟨?success, ?status, fun _ compiles => compiles.writes, failed,
    options.compiles_or_fails directory fresh⟩
  case success =>
    rcases options.compiles_or_fails directory fresh with ⟨stack, compiles⟩ | ⟨failure, fails⟩
    · rw [compiles.writes.status_eq_zero]
      constructor
      · exact fun canWrite => ⟨stack, compiles, canWrite⟩
      · rintro ⟨other, compilesToo, canWrite⟩
        have same : Except.ok other = Except.ok stack :=
          compilesToo.compile_eq.symm.trans compiles.compile_eq
        exact Except.ok.inj same ▸ canWrite
    · have told := (failed failure fails).2.1
      constructor
      · intro succeeded
        exact absurd (told.symm.trans succeeded) (by decide)
      · rintro ⟨stack, compiles, -⟩
        cases fails.compile_eq.symm.trans compiles.compile_eq
  case status =>
    rcases options.compiles_or_fails directory fresh with ⟨stack, compiles⟩ | ⟨failure, fails⟩
    · exact compiles.writes.status_le_one
    · exact .inr (failed failure fails).2.1

def sampleOptions : Options where
  manifest := "manifest.yml"
  app := "shop"
  environment := "test"
  settingsFile := some "settings.toml"
  region := some "cn-north-1"
  parametersFile := some "parameters.json"
  uniqueSuffix := some "x1"

def sampleManifest : String :=
  "name: web\ntype: Backend Service\nimage: \x7blocation: nginx\x7d\ncpu: 256\nmemory: 512\n"
    ++ "count: 1\n"

def sampleSettings : String := "partition = \"aws\"\n"

def sampleDirectory : Directory :=
  ⟨[(["manifest.yml"], sampleManifest.toUTF8), (["settings.toml"], sampleSettings.toUTF8)]⟩

def sampleSuffix : UniqueSuffix where
  text := "a0"
  present := by decide
  short := by decide +kernel
  allowed := by decide +kernel

theorem sampleOptions_compiles :
    ∃ stack, sampleOptions.Compiles sampleDirectory sampleSuffix stack := by
  have compiled : ((Settings.ofText sampleSettings).toOption.bind fun given =>
      (Workload.ofManifest sampleManifest).toOption.bind fun workload =>
        (compileFor workload "shop" "test" (sampleOptions.settled given)
          sampleSuffix).toOption).isSome = true := by
    decide +kernel
  simp only [Option.isSome_iff_exists, Option.bind_eq_some_iff, toOption_eq_some] at compiled
  obtain ⟨stack, given, loads, workload, parses, compiles⟩ := compiled
  have settingsName : Directory.IsName "settings.toml" := ⟨by decide +kernel, by decide +kernel⟩
  have settingsRead : sampleDirectory.read "settings.toml" = .ok sampleSettings :=
    (settingsName.read_eq rfl).trans (textOfBytes_toUTF8 _)
  have manifestName : Directory.IsName "manifest.yml" := ⟨by decide +kernel, by decide +kernel⟩
  have manifestRead : sampleDirectory.read "manifest.yml" = .ok sampleManifest :=
    (manifestName.read_eq rfl).trans (textOfBytes_toUTF8 _)
  exact ⟨stack, .intro (.file rfl settingsRead loads) manifestRead parses compiles⟩

theorem run_pipeline_sample :
    Options.read sampleOptions.arguments = .ok (some sampleOptions) ∧
    let ran := (run sampleOptions.arguments Directory.reachable sampleSuffix).run sampleDirectory
    ran.1.status = 0 ∧ ∃ stack, sampleOptions.Compiles sampleDirectory sampleSuffix stack ∧
      sampleOptions.Writes sampleDirectory stack ran := by
  have accepted : Options.read sampleOptions.arguments = .ok (some sampleOptions) :=
    Options.read_arguments sampleOptions (by decide) (by decide) (by decide)
  obtain ⟨stack, compiles⟩ := sampleOptions_compiles
  have canWrite : sampleOptions.CanWrite sampleDirectory stack := by
    intro file named
    cases named
    have name : Directory.IsName "parameters.json" := ⟨by decide +kernel, by decide +kernel⟩
    exact ⟨_, name.write_eq (by decide +kernel) _⟩
  obtain ⟨succeeds, -, writes, -⟩ := run_pipeline accepted sampleDirectory sampleSuffix
  exact ⟨accepted, succeeds.mpr ⟨stack, compiles, canWrite⟩, stack, compiles,
    writes stack compiles⟩

end CommandLine

end Stackwright
