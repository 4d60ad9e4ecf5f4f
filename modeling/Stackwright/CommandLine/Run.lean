import Stackwright.CommandLine.Options
import Stackwright.Manifest
import Stackwright.SettingsFile
import Stackwright.Stack.Compile
import Stackwright.Yaml.Printer

/-!
The run of a command: files are read, the workload is compiled, and its template and parameters are
written.
-/

namespace Stackwright

namespace CommandLine

inductive Failure where
  | usage (error : UsageError)
  | settings (file : String) (error : SettingsFileError)
  | manifestFile (file : String) (error : FileError)
  | manifest (file : String) (error : ManifestError)
  | stack (error : StackError)
  | parametersFile (file : String) (error : FileError)

def usage : String := "Usage: stack-compiler [OPTIONS] --app <APP> --env <ENV> <MANIFEST>"

def help : String :=
  "Compile a workload manifest into a deployable stack template\n\n" ++ usage ++ "\n\n"
    ++ "Arguments:\n"
    ++ "  <MANIFEST>  Workload manifest (YAML format)\n\n"
    ++ "Options:\n"
    ++ "  -a, --app <APP>                      Application name\n"
    ++ "  -e, --env <ENV>                      Environment to resolve and compile for\n"
    ++ "  -r, --runtime <RUNTIME>              Runtime configuration file (TOML format)\n"
    ++ "      --region <REGION>                Region; the partition is derived from it\n"
    ++ "  -p, --params <PARAMS>                "
    ++ "Write the parameters JSON to this file instead of stdout\n"
    ++ "      --unique-suffix <UNIQUE_SUFFIX>  "
    ++ "Uniqueness suffix read back from the deployed stack\n"
    ++ "  -h, --help                           Print help\n"

namespace Failure

def context : Failure → String
  | usage _ => "error: "
  | settings file e => "Error loading runtime config '" ++ file ++ "': " ++ e.context
  | manifestFile file _ => "Error reading manifest '" ++ file ++ "': "
  | manifest file _ => "Error parsing manifest '" ++ file ++ "': "
  | stack _ => "Error: "
  | parametersFile file _ => "Error writing parameters '" ++ file ++ "': "

def detail : Failure → String
  | usage e =>
    e.message ++ "\n\n" ++ CommandLine.usage ++ "\n\nFor more information, try '--help'."
  | settings _ e => e.detail
  | manifestFile _ e => e.message
  | manifest _ e => e.message
  | stack e => e.message
  | parametersFile _ e => e.message

def message (failure : Failure) : String := failure.context ++ failure.detail ++ "\n"

def status : Failure → UInt32
  | usage _ => 2
  | _ => 1

end Failure

structure Outcome where
  output : String := ""
  failure : Option Failure := none

def Outcome.status (outcome : Outcome) : UInt32 := (outcome.failure.map Failure.status).getD 0

def Outcome.errors (outcome : Outcome) : String :=
  (outcome.failure.map Failure.message).getD ""

/-- A region given as an option takes the place of the settings' own, and decides the partition. -/
def Options.override (options : Options) (settings : Settings) : Settings :=
  let placed := match options.region with
    | some region => { settings with region, partition := .ofRegion region }
    | none => settings
  match options.uniqueSuffix with
  | some suffix => { placed with uniqueSuffix := some suffix }
  | none => placed

structure Sources where
  /-- The settings file's name and content. -/
  settings : Option (String × Except FileError String)
  manifest : Except FileError String

/-- The settings come before the manifest, so their failure wins. -/
def Options.compile (options : Options) (sources : Sources) (fresh : UniqueSuffix) :
    Except Failure Stack := do
  let settings ← match sources.settings with
    | none => .ok {}
    | some (file, content) => (Settings.ofFile content).mapError (.settings file)
  let text ← sources.manifest.mapError (.manifestFile options.manifest)
  let workload ← (Workload.ofManifest text).mapError (.manifest options.manifest)
  (compileFor workload options.app options.environment (options.override settings)
    fresh).mapError .stack

variable {m : Type → Type} [Monad m]

def Options.sources (options : Options) (files : Files m) : m Sources := do
  let settings ← options.settingsFile.mapM fun file => return (file, ← files.read file)
  return ⟨settings, ← files.read options.manifest⟩

/-- The template is written out first; the parameters follow, or go into a file of their own. -/
def Options.run (options : Options) (files : Files m) (fresh : UniqueSuffix) : m Outcome := do
  match options.compile (← options.sources files) fresh with
  | .error failure => return { failure := some failure }
  | .ok stack =>
    let body := Yaml.print stack.template.document
    let parameters := parametersText stack.parameters
    match options.parametersFile with
    | none => return { output := body ++ "---\n" ++ parameters ++ "\n" }
    | some file =>
      match ← files.write file parameters with
      | .ok _ => return { output := body }
      | .error e => return { output := body, failure := some (.parametersFile file e) }

def run (arguments : List String) (files : Files m) (fresh : UniqueSuffix) : m Outcome :=
  match Options.read arguments with
  | .error e => return { failure := some (.usage e) }
  | .ok none => return { output := help }
  | .ok (some options) => options.run files fresh

end CommandLine

end Stackwright
