import Stackwright.Workload
import Stackwright.Yaml.Fit

/-!
Manifests: workloads written as YAML documents.
-/

namespace Stackwright

inductive ManifestError where
  | malformed (error : Yaml.Malformed)
  /-- The document has not the form of a workload. -/
  | misfit (error : Yaml.Misfit)
  /-- A value of the right form is none that the workload admits. -/
  | unreadable (error : Mismatch)

def ManifestError.message : ManifestError → String
  | malformed e => e.message
  | misfit e => e.message
  | unreadable e => e.message

def Workload.ofManifest (text : String) : Except ManifestError Workload := do
  let document ← (Yaml.Document.read text).mapError .malformed
  let value ← (document.fit Workload.codec.shape).mapError .misfit
  (Workload.codec.read value).mapError .unreadable

end Stackwright
