import Stackwright.CommandLine.Options
import Stackwright.Proofs.Outcome

/-!
Arguments for options. Whatever options a run is wanted with, some arguments ask for them.
-/

namespace Stackwright

namespace CommandLine

def Flag.written (flag : Flag) (value : String) : String := "--" ++ flag.long ++ "=" ++ value

theorem Word.of_written (flag : Flag) (value : String) :
    Word.of (flag.written value) = .long flag.long (some value) := by
  have named : flag.long.toList.all (· != '=') = true := by
    cases flag <;> decide +kernel
  rw [List.all_eq_true] at named
  obtain ⟨letter, rest, spelled⟩ : ∃ letter rest, flag.long.toList = letter :: rest :=
    List.exists_cons_of_ne_nil (by cases flag <;> decide +kernel)
  have characters : (flag.written value).toList =
      '-' :: '-' :: (flag.long.toList ++ '=' :: value.toList) := by
    simp [Flag.written, String.toList_append]
  have before : (flag.long.toList ++ '=' :: value.toList).takeWhile (· != '=') =
      flag.long.toList := by
    rw [List.takeWhile_append_of_pos named, List.takeWhile_cons_of_neg (by decide),
      List.append_nil]
  have after : (flag.long.toList ++ '=' :: value.toList).dropWhile (· != '=') =
      '=' :: value.toList := by
    rw [List.dropWhile_append_of_pos named, List.dropWhile_cons_of_neg (by decide)]
  rw [spelled] at characters before after
  simp only [Word.of, characters, List.cons_append] at before after ⊢
  rw [before, after, ← spelled, String.ofList_toList]
  simp only [String.ofList_toList]

theorem readArguments_written {given : Given} {flag : Flag} {value : String}
    {rest : List String} :
    readArguments given none (flag.written value :: rest) =
      given.set flag value >>= fun given => readArguments given none rest := by
  rw [readArguments, Word.of_written]
  cases flag <;> rfl

/-- The values that can be given together: each option once, and no empty path. -/
structure Admissible (values : List (Flag × String)) : Prop where
  once : (values.map Prod.fst).Nodup
  paths : ∀ entry ∈ values, entry.1.isPath = true → entry.2 ≠ ""

theorem lookup_eq_none {values : List (Flag × String)} {flag : Flag}
    (absent : flag ∉ values.map Prod.fst) : values.lookup flag = none := by
  rw [List.lookup_eq_none_iff]
  intro entry member
  have different : flag ≠ entry.1 := fun same => absent (same ▸ List.mem_map_of_mem member)
  simpa using different

theorem readArguments_values {values earlier : List (Flag × String)} {rest : List String}
    (admissible : Admissible (earlier.reverse ++ values)) :
    readArguments { values := earlier } none (values.map (fun v => v.1.written v.2) ++ rest) =
      readArguments { values := values.reverse ++ earlier } none rest := by
  -- on the values to come; those that were read are piled up with the last one on top
  induction values generalizing earlier with
  | nil => rfl
  | cons entry later ih =>
      have absent : entry.1 ∉ earlier.map Prod.fst := by
        have once := admissible.once
        rw [List.map_append, List.nodup_append] at once
        intro member
        exact once.2.2 entry.1 (by simpa using member) entry.1 (by simp) rfl
      have path : ¬(entry.1.isPath = true ∧ entry.2 = "") := fun empty =>
        admissible.paths entry (by simp) empty.1 empty.2
      have set : Given.set { values := earlier } entry.1 entry.2 =
          .ok { values := entry :: earlier } := by
        rw [Given.set, lookup_eq_none absent, if_neg (by simp), if_neg path]
      rw [List.map_cons, List.cons_append, readArguments_written, set, ok_bind, List.reverse_cons,
        List.append_assoc]
      apply ih
      rwa [List.reverse_cons, List.append_assoc]

def Options.values (options : Options) : List (Flag × String) :=
  let value? (flag : Flag) (value : Option String) : List (Flag × String) :=
    value.toList.map fun value => (flag, value)
  [(.app, options.app), (.environment, options.environment)]
    ++ value? .settings options.settingsFile
    ++ value? .region options.region
    ++ value? .parameters options.parametersFile
    ++ value? .suffix options.uniqueSuffix

def Options.arguments (options : Options) : List String :=
  options.values.map (fun v => v.1.written v.2) ++ ["--", options.manifest]

theorem Options.values_admissible {options : Options}
    (settingsFile : options.settingsFile ≠ some "")
    (parametersFile : options.parametersFile ≠ some "") : Admissible options.values := by
  obtain ⟨manifest, app, environment, settings, region, parameters, suffix⟩ := options
  constructor
  · cases settings <;> cases region <;> cases parameters <;> cases suffix <;> simp [Options.values]
  · cases settings <;> cases region <;> cases parameters <;> cases suffix <;>
      simp_all [Options.values, Flag.isPath]

theorem Given.options_values (options : Options) :
    Given.options ⟨some options.manifest, options.values.reverse⟩ = .ok options := by
  obtain ⟨manifest, app, environment, settings, region, parameters, suffix⟩ := options
  cases settings <;> cases region <;> cases parameters <;> cases suffix <;> rfl

/-- Every option is left open or given, independently of the others. -/
theorem Options.read_arguments (options : Options) (manifest : options.manifest ≠ "")
    (settingsFile : options.settingsFile ≠ some "")
    (parametersFile : options.parametersFile ≠ some "") :
    Options.read options.arguments = .ok (some options) := by
  have admissible : Admissible (List.reverse [] ++ options.values) :=
    Options.values_admissible settingsFile parametersFile
  have stop : Word.of "--" = .stop := by decide +kernel
  have placed : Given.place ⟨none, options.values.reverse⟩ options.manifest =
      .ok ⟨some options.manifest, options.values.reverse⟩ := by
    rw [Given.place, if_neg (by simp), if_neg manifest]
  rw [Options.read, Options.arguments, readArguments_values admissible, List.append_nil,
    readArguments, stop]
  simp only [List.foldlM_cons, List.foldlM_nil, placed, ok_bind, pure_bind, Given.options_values]
  rfl

end CommandLine

end Stackwright
