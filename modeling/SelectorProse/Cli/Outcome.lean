import SelectorProse.Describer.Describe
import SelectorProse.Script.Basic

/-!
What the program does with a script: its file decides. What the arguments ask for, which paths are
turned down and what is seen of a message is left to the toolkit that the program is built on.
-/

set_option autoImplicit false

namespace SelectorProse.Cli

/-- A fault that the program does not report by a message of its own. -/
inductive Uncaught where
  | script (fault : Script.Fault)
  | describe (fault : DescribeFault)
  | unencodable (fault : Utf8.EncodeFault)
  deriving Repr

def Uncaught.message : Uncaught → Text
  | .script fault => fault.message
  | .describe fault => fault.message
  | .unencodable fault => fault.message

structure Outcome where
  exitCode : Nat
  out : Text := []
  err : Text := []
  uncaught : Option Uncaught := none
  deriving Repr

def Outcome.crash (log : Text) (fault : Uncaught) : Outcome where
  exitCode := 1
  err := log
  uncaught := some fault

/-- A script to be described, and the arguments that were given behind it. -/
structure Request where
  verbose : Bool
  legacy : Bool
  script : Text
  extra : List Text
  deriving DecidableEq, Repr

/-- What the arguments ask for, unless they settle everything by themselves. -/
inductive Plan where
  | finished (outcome : Outcome)
  | describe (request : Request)
  | events
  deriving Repr

/-- What stands at a path as it was given. -/
inductive Standing where
  | absent
  | directory
  /-- A file that may not be read. -/
  | locked
  | file
  deriving DecidableEq, Repr

/-- What the program leaves to the toolkit that it is built on. -/
structure Toolkit where
  plan : List Text → Plan
  /-- The outcome of a request that is turned down for what stands at its path. -/
  refused? : Request → Standing → Option Outcome
  /-- What is seen of a message where it does not go to a terminal. -/
  printed : Text → Text

/-- What is seen of a message among the errors, where surrogates are spelt. -/
def Toolkit.printedError (kit : Toolkit) (message : Text) : Text :=
  Utf8.escapeSurrogates (kit.printed message)

/-- One kind and its fields. -/
def kindLine (kind : Event.Kind) : Text :=
  let fields := match kind.fields with
    | [] => []
    | fields => Text.ofString "  " ++
      Text.join (Text.ofString " ") (fields.map Field.label)
  kind.name ++ fields ++ Text.ofString "\n"

/-- The log of a description, a line for each entry. -/
def logLines (log : List LogEntry) : Text :=
  log.flatMap fun entry =>
    Utf8.escapeSurrogates (entry.logger ++ Text.ofString ": " ++ entry.message) ++
      Text.ofString "\n"

section

variable (kit : Toolkit)

def listing : Outcome :=
  { exitCode := 0, out := Event.Kind.all.flatMap fun kind => kit.printed (kindLine kind) }

def failure (log : Text) (message : Text) : Outcome where
  exitCode := 1
  err := log ++ kit.printedError (message ++ Text.ofString "\n")

/-- The outcome of a description, of which the log is seen if the request says so. -/
def ofDescription (verbose : Bool) (description : Description) : Outcome :=
  let log := if verbose then logLines description.log else []
  match description.result with
  | .ok text =>
    let printed := kit.printed (text ++ Text.ofString "\n")
    match Utf8.encodeFault? printed with
    | none => { exitCode := 0, out := printed, err := log }
    | some fault => .crash log (.unencodable fault)
  | .error fault =>
    match fault with
    | .event (.emptyName _) => failure kit log (Text.ofString "Invalid event: " ++ fault.message)
    | .event (.absent _) => failure kit log (Text.ofString "Invalid event: " ++ fault.message)
    | _ => .crash log (.describe fault)

/-- The outcome of a script that was loaded, or of the fault that kept it from being loaded. -/
def ofScript (verbose legacy : Bool) (loaded : Except Script.Fault (List Event)) : Outcome :=
  match loaded with
  | .ok events =>
    ofDescription kit verbose (SelectorProse.describe { legacyDashMatch := .bool legacy } events)
  | .error fault =>
    match fault with
    | .rejected _ _ => failure kit [] (Text.ofString "Script error: " ++ fault.message)
    | _ => .crash [] (.script fault)

/-- The outcome of a request: the path is checked as it was given, and the file opened at its
normal form. -/
def Request.outcome (request : Request) (standing : Standing)
    (opened : Except File.Fault Octets) : Outcome :=
  match kit.refused? request standing with
  | some outcome => outcome
  | none => ofScript kit request.verbose request.legacy (Script.ofOpened request.script opened)

/-- What stands at a path in a tree of files. -/
def standing (tree : File.Tree) (path : Text) : Standing :=
  match tree.find path with
  | .ok (.file _) => .file
  | .ok .directory => .directory
  | .error _ => .absent

/-- Runs the program over a tree of files. -/
def run (tree : File.Tree) (arguments : List Text) : Outcome :=
  match kit.plan arguments with
  | .finished outcome => outcome
  | .events => listing kit
  | .describe request =>
    request.outcome kit (standing tree request.script) (Script.opened tree request.script)

end

end SelectorProse.Cli
