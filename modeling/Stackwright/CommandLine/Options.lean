/-!
Options of the command line: one manifest, and options of which each takes a value, after a blank,
after an equals sign, or right after its letter.
-/

namespace Stackwright

namespace CommandLine

inductive Flag where
  | app
  | environment
  | settings
  | region
  | parameters
  | suffix
  deriving DecidableEq, Repr

namespace Flag

def all : List Flag := [app, environment, settings, region, parameters, suffix]

def long : Flag → String
  | app => "app"
  | environment => "env"
  | settings => "runtime"
  | region => "region"
  | parameters => "params"
  | suffix => "unique-suffix"

def short : Flag → Option Char
  | app => some 'a'
  | environment => some 'e'
  | settings => some 'r'
  | parameters => some 'p'
  | region | suffix => none

def placeholder : Flag → String
  | app => "<APP>"
  | environment => "<ENV>"
  | settings => "<RUNTIME>"
  | region => "<REGION>"
  | parameters => "<PARAMS>"
  | suffix => "<UNIQUE_SUFFIX>"

def isPath : Flag → Bool
  | settings | parameters => true
  | _ => false

def shown (flag : Flag) : String := "--" ++ flag.long ++ " " ++ flag.placeholder

end Flag

inductive UsageError where
  | unexpected (argument : String)
  | unexpectedValue (argument : String)
  | noValue (option : String)
  | repeated (flag : Flag)
  | absent (arguments : List String)
  deriving DecidableEq, Repr

def UsageError.message : UsageError → String
  | unexpected argument => "unexpected argument '" ++ argument ++ "' found"
  | unexpectedValue argument => "unexpected value in '" ++ argument ++ "'"
  | noValue option => "a value is required for '" ++ option ++ "' but none was supplied"
  | repeated flag => "the argument '" ++ flag.shown ++ "' cannot be used multiple times"
  | absent arguments =>
    "the following required arguments were not provided:\n  " ++ "\n  ".intercalate arguments

def manifestName : String := "<MANIFEST>"

structure Given where
  manifest : Option String := none
  values : List (Flag × String) := []
  deriving DecidableEq, Repr

namespace Given

def place (given : Given) (argument : String) : Except UsageError Given :=
  if given.manifest.isSome then .error (.unexpected argument)
  else if argument = "" then .error (.noValue manifestName)
  else .ok { given with manifest := some argument }

def set (given : Given) (flag : Flag) (value : String) : Except UsageError Given :=
  if (given.values.lookup flag).isSome then .error (.repeated flag)
  else if flag.isPath ∧ value = "" then .error (.noValue flag.shown)
  else .ok { given with values := (flag, value) :: given.values }

end Given

inductive Word where
  /-- After it, nothing is an option. -/
  | stop
  | long (name : String) (value : Option String)
  | short (letter : Char) (value : Option String)
  | plain
  deriving DecidableEq, Repr

def Word.of (argument : String) : Word :=
  match argument.toList with
  | ['-', '-'] => stop
  | '-' :: '-' :: option =>
    let name := String.ofList (option.takeWhile (· != '='))
    match option.dropWhile (· != '=') with
    | _ :: value => long name (some (String.ofList value))
    | [] => long name none
  | ['-', letter] => short letter none
  | '-' :: letter :: '=' :: value => short letter (some (String.ofList value))
  | '-' :: letter :: value => short letter (some (String.ofList value))
  | _ => plain

/-- Reads the arguments in order; the flag is one that waits for its value. Nothing comes out where
help is asked for. -/
def readArguments : Given → Option Flag → List String → Except UsageError (Option Given)
  | given, none, [] => .ok (some given)
  | _, some flag, [] => .error (.noValue flag.shown)
  | given, some flag, argument :: rest => do
    match Word.of argument with
    | .plain => readArguments (← given.set flag argument) none rest
    | _ => throw (.noValue flag.shown)
  | given, none, argument :: rest => do
    match Word.of argument with
    | .plain => readArguments (← given.place argument) none rest
    | .stop => return some (← rest.foldlM Given.place given)
    | .long "help" none | .short 'h' _ => return none
    | .long "help" (some _) => throw (.unexpectedValue argument)
    | .long name value =>
      match Flag.all.find? fun flag => flag.long = name, value with
      | none, _ => throw (.unexpected argument)
      | some flag, none => readArguments given (some flag) rest
      | some flag, some value => readArguments (← given.set flag value) none rest
    | .short letter value =>
      match Flag.all.find? fun flag => flag.short = some letter, value with
      | none, _ => throw (.unexpected argument)
      | some flag, none => readArguments given (some flag) rest
      | some flag, some value => readArguments (← given.set flag value) none rest

structure Options where
  manifest : String
  app : String
  environment : String
  settingsFile : Option String := none
  region : Option String := none
  parametersFile : Option String := none
  uniqueSuffix : Option String := none
  deriving DecidableEq, Repr

def Given.options (given : Given) : Except UsageError Options :=
  let value (flag : Flag) : Option String := given.values.lookup flag
  match value .app, value .environment, given.manifest with
  | some app, some environment, some manifest =>
    .ok {
      manifest, app, environment
      settingsFile := value .settings
      region := value .region
      parametersFile := value .parameters
      uniqueSuffix := value .suffix }
  | app, environment, manifest =>
    .error (.absent (
      (if app.isNone then [Flag.app.shown] else [])
      ++ (if environment.isNone then [Flag.environment.shown] else [])
      ++ (if manifest.isNone then [manifestName] else [])))

def Options.read (arguments : List String) : Except UsageError (Option Options) := do
  match ← readArguments {} none arguments with
  | none => return none
  | some given => return some (← given.options)

end CommandLine

end Stackwright
