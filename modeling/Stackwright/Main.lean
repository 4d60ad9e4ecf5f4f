import Stackwright.CommandLine.Run

/-!
The command line program.
-/

namespace Stackwright

namespace CommandLine

def fileError : IO.Error → FileError
  | .noFileOrDirectory .. => .missing
  | .inappropriateType .. => .isDirectory
  | e => .other (toString e)

def diskFiles : Files IO where
  read path := do
    match ← (IO.FS.readBinFile path).toBaseIO with
    | .ok content => return textOfBytes content
    | .error e => return .error (fileError e)
  write path content := do
    return (← (IO.FS.writeFile path content).toBaseIO).mapError fileError

def freshSuffix : IO UniqueSuffix := do
  match UniqueSuffix.ofRandom (← IO.getRandomBytes 16).toList with
  | some suffix => return suffix
  | none => throw (IO.userError "no suffix can be made")

end CommandLine

end Stackwright

open Stackwright in
def main (arguments : List String) : IO UInt32 := do
  let fresh ← CommandLine.freshSuffix
  let outcome ← CommandLine.run arguments CommandLine.diskFiles fresh
  IO.print outcome.output
  IO.eprint outcome.errors
  return outcome.status
