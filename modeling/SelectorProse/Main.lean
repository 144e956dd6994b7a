import SelectorProse.Cli.Toolkit

/-!
The command line program: it reads the script's file and prints the outcome.
-/

set_option autoImplicit false

namespace SelectorProse.Cli

/-- What an error on opening a file says of the file. -/
def fileFault : IO.Error → File.Fault
  | .permissionDenied _ _ _ => .denied
  | .inappropriateType _ code _ => if code = 21 then .isADirectory else .notADirectory
  | .invalidArgument _ code _ => if code = 36 then .nameTooLong else .missing
  | _ => .missing

/-- The octets of the file at a path. -/
def openFile (path : Text) : IO (Except File.Fault Octets) := do
  try
    let content ← IO.FS.readBinFile path.toString
    return .ok content.toList
  catch error =>
    return .error (fileFault error)

/-- What an attempt to open a file says of what stands at its path. -/
def standingOf : Except File.Fault Octets → Standing
  | .ok _ => .file
  | .error .denied => .locked
  | .error .isADirectory => .directory
  | .error _ => .absent

/-- Prints an outcome, and the message of a fault that is not caught. -/
def present (outcome : Outcome) : IO UInt32 := do
  IO.print outcome.out.toString
  IO.eprint outcome.err.toString
  if let some fault := outcome.uncaught then
    IO.eprintln fault.message.toString
  return outcome.exitCode.toUInt32

end SelectorProse.Cli

open SelectorProse SelectorProse.Cli

def main (arguments : List String) : IO UInt32 := do
  let kit := Toolkit.standard
  match kit.plan (arguments.map Text.ofString) with
  | .finished outcome => present outcome
  | .events => present (listing kit)
  | .describe request =>
    let given ← openFile request.script
    let opened ← openFile (Path.normalized request.script)
    present (request.outcome kit (standingOf given) opened)
