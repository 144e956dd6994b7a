import SelectorProse.Cli.Command
import SelectorProse.Cli.Outcome
import SelectorProse.Text.ControlSequence

/-!
The toolkit that the program runs on: it reads the arguments by the flags of the commands, answers
the flags that end the program, and hides the control sequences of what it prints.
-/

set_option autoImplicit false

namespace SelectorProse.Cli

namespace Toolkit

def success (message : Text) : Outcome := { exitCode := 0, out := message.removeControlSequences }

def misuse (command : Command) (fault : UsageFault) : Outcome where
  exitCode := 2
  err := fault.preamble command ++ Utf8.escapeSurrogates
    (Text.ofString "Error: " ++ fault.message ++ Text.ofString "\n").removeControlSequences

def versionLine : Text := lines ["css-describe, version 0.1.0"]

/-- What a flag that ends the program prints. -/
def answerFlag (command : Command) : Flag → Text
  | .version => versionLine
  | _ => command.help

def planEvents (arguments : List Text) : Plan :=
  match Command.events.options.split arguments with
  | .error fault => .finished (misuse .events (.options fault))
  | .ok split =>
    match split.first?, split.arguments with
    | some flag, _ => .finished (success (answerFlag .events flag))
    | none, [] => .events
    | none, extra => .finished (misuse .events (.extraArguments extra))

def planDescribe (verbose : Bool) (arguments : List Text) : Plan :=
  match Command.describe.options.split arguments with
  | .error fault => .finished (misuse .describe (.options fault))
  | .ok split =>
    match split.first?, split.arguments with
    | some flag, _ => .finished (success (answerFlag .describe flag))
    | none, [] => .finished (misuse .describe .scriptMissing)
    | none, script :: extra =>
      .describe { verbose, legacy := split.flags.contains .legacyDashMatch, script, extra }

/-- A name that is no command is read once more as if it could be a flag, and then refused. -/
def refuseCommand (name : Text) (rest : List Text) : Outcome :=
  match Command.program.options.split (name :: rest) with
  | .error fault => misuse .program (.options fault)
  | .ok split =>
    match split.first? with
    | some flag => success (answerFlag .program flag)
    | none => misuse .program (.commandUnknown name (similarTo name (Command.named.map Prod.fst)))

def planAll : List Text → Plan
  | [] => .finished { exitCode := 2, err := Command.program.help }
  | arguments =>
    match Command.program.options.split arguments with
    | .error fault => .finished (misuse .program (.options fault))
    | .ok split =>
      match split.first?, split.arguments with
      | some flag, _ => .finished (success (answerFlag .program flag))
      | none, [] => .finished (misuse .program .commandMissing)
      | none, name :: rest =>
        match Command.named.lookup name with
        | some .describe => planDescribe (split.flags.contains .verbose) rest
        | some .events => planEvents rest
        | _ => .finished (refuseCommand name rest)

/-- A request needs a file at its path that can be read, and nothing behind it. -/
def refuse? (request : Request) (standing : Standing) : Option Outcome :=
  if request.script.contains '\x00' then some (.crash [] (.script .nulInPath))
  else
    match standing with
    | .absent => some (misuse .describe (.scriptAbsent request.script))
    | .directory => some (misuse .describe (.scriptIsDirectory request.script))
    | .locked => some (misuse .describe (.scriptLocked request.script))
    | .file =>
      if request.extra = [] then none
      else some (misuse .describe (.extraArguments request.extra))

def standard : Toolkit where
  plan := planAll
  refused? := refuse?
  printed := Text.removeControlSequences

end Toolkit

end SelectorProse.Cli
