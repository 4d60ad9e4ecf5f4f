import Stackwright.File
import Stackwright.Settings
import Stackwright.Toml.Document

/-!
Settings files: the settings of a deployment written as a TOML document.
-/

namespace Stackwright

inductive SettingsFileError where
  | unreadable (error : FileError)
  | malformed (error : Toml.Malformed)
  /-- A setting has a value of a kind that it does not take. -/
  | misfit (setting : String)
  | partition (error : UnknownPartition)
  deriving DecidableEq, Repr

namespace SettingsFileError

def context : SettingsFileError → String
  | unreadable _ => "Failed to read runtime config file: "
  | malformed _ | misfit _ => "Failed to parse runtime config TOML: "
  | partition _ => "Invalid runtime config: "

def detail : SettingsFileError → String
  | unreadable e => e.message
  | malformed e => "TOML parse error at line " ++ toString e.line
  | misfit setting => "invalid type for " ++ setting
  | partition e => e.message

def message (e : SettingsFileError) : String := e.context ++ e.detail

end SettingsFileError

namespace Toml

def Value.text? : Value → Option String
  | .string text => some text
  | _ => none

def Value.boolean? : Value → Option Bool
  | .boolean value => some value
  | _ => none

def Value.word32? : Value → Option UInt32
  | .integer value => if 0 ≤ value ∧ value < UInt32.size then some (.ofNat value.toNat) else none
  | _ => none

/-- The key under which a date or time is found where a table is wanted. -/
def momentKey : String := "$__toml_private_datetime"

/-- A table of texts. A date or time counts as a table that holds its text. -/
def Value.texts? : Value → Option (Dict String)
  | .table _ entries =>
    (entries.mapM fun entry => (text? entry.2).map fun text => (entry.1, text)).map Dict.ofList
  | .moment text => some (.ofList [(momentKey, text)])
  | _ => none

def setting {α : Type} (document : Entries) (name : String) (read : Value → Option α) :
    Except SettingsFileError (Option α) :=
  match document.lookup name with
  | none => .ok none
  | some value =>
    match read value with
    | some found => .ok (some found)
    | none => .error (.misfit name)

end Toml

namespace Settings

/-- The settings that a document holds. The partition is the one it names, else its region's. -/
def ofDocument (document : Toml.Entries) : Except SettingsFileError Settings := do
  let text (name : String) := Toml.setting document name Toml.Value.text?
  let partition ← text "partition"
  let account ← text "account_id"
  let region ← text "region"
  let tags ← Toml.setting document "additional_tags" Toml.Value.texts?
  let image ← text "image"
  let addons ← text "addons_template_url"
  let https ← Toml.setting document "https_listener" Toml.Value.boolean?
  let suffix ← text "unique_suffix"
  let retention ← Toml.setting document "log_retention_days" Toml.Value.word32?
  let plain := inRegion (account.getD "") (region.getD "")
  let partition ← match partition with
    | some name => (Partition.parse name).mapError SettingsFileError.partition
    | none => .ok plain.partition
  return { plain with
    partition
    additionalTags := tags.getD .empty
    image
    addonsTemplateUrl := addons
    httpsListener := https.getD false
    uniqueSuffix := suffix
    logRetentionDays := retention.getD defaultLogRetentionDays }

def ofText (text : String) : Except SettingsFileError Settings := do
  let document ← (Toml.readDocument text).mapError .malformed
  ofDocument document

def ofFile (content : Except FileError String) : Except SettingsFileError Settings := do
  let text ← content.mapError .unreadable
  ofText text

end Settings

end Stackwright
