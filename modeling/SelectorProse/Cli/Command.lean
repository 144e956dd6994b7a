import SelectorProse.Cli.Options

/-!
The commands, their help, and the messages on how they are misused.
-/

set_option autoImplicit false

namespace SelectorProse.Cli

inductive Command where
  /-- The program itself, which takes one of the others. -/
  | program
  | describe
  | events
  deriving DecidableEq, Repr

/-- Lines, each with its end. -/
def lines (content : List String) : Text :=
  content.flatMap fun line => Text.ofString line ++ Text.ofString "\n"

namespace Command

def path : Command → Text
  | .program => Text.ofString "css-describe"
  | .describe => Text.ofString "css-describe describe"
  | .events => Text.ofString "css-describe events"

def usage (command : Command) : Text :=
  Text.ofString "Usage: " ++ command.path ++ Text.ofString (match command with
    | .program => " [OPTIONS] COMMAND [ARGS]..."
    | .describe => " [OPTIONS] SCRIPT"
    | .events => " [OPTIONS]") ++ Text.ofString "\n"

def help (command : Command) : Text :=
  command.usage ++ lines (match command with
    | .program => [
      "",
      "  css-describe - explain CSS selector walks in plain English.",
      "",
      "Options:",
      "  --version      Show the version and exit.",
      "  -v, --verbose  Log each dispatched event",
      "  --help         Show this message and exit.",
      "",
      "Commands:",
      "  describe  Print the English description of a JSON event script.",
      "  events    List event kinds and their arguments."]
    | .describe => [
      "",
      "  Print the English description of a JSON event script.",
      "",
      "  Exits with code 1 if the script cannot be loaded or an event carries an empty",
      "  name.",
      "",
      "Options:",
      "  --legacy-dash-match  Emit the uninterpolated |= template instead of naming the",
      "                       attribute",
      "  --help               Show this message and exit."]
    | .events => [
      "",
      "  List event kinds and their arguments.",
      "",
      "Options:",
      "  --help  Show this message and exit."])

def options : Command → Options
  | .program => {
      long := [(Text.ofString "--version", .version), (Text.ofString "--verbose", .verbose),
        (Text.ofString "--help", .help)]
      letters := [(CodePoint.ofChar 'v', .verbose)]
      mixed := false }
  | .describe => {
      long := [(Text.ofString "--legacy-dash-match", .legacyDashMatch),
        (Text.ofString "--help", .help)]
      letters := []
      mixed := true }
  | .events => {
      long := [(Text.ofString "--help", .help)]
      letters := []
      mixed := true }

/-- The commands that the program takes, by name. -/
def named : List (Text × Command) :=
  [(Text.ofString "describe", .describe), (Text.ofString "events", .events)]

end Command

inductive UsageFault where
  | options (fault : OptionFault)
  | commandMissing
  | commandUnknown (name : Text) (similar : List Text)
  | scriptMissing
  | scriptAbsent (path : Text)
  | scriptIsDirectory (path : Text)
  | scriptLocked (path : Text)
  | extraArguments (arguments : List Text)
  deriving DecidableEq, Repr

/-- What may have been meant. -/
def suggestion : List Text → Text
  | [] => []
  | [word] => Text.ofString " Did you mean " ++ word.quoted ++ Text.ofString "?"
  | words => Text.ofString " (Did you mean one of: " ++
    Text.join (Text.ofString ", ") (words.map Text.quoted) ++ Text.ofString "?)"

def UsageFault.message : UsageFault → Text
  | .options (.unknown spelling similar) =>
    Text.ofString "No such option " ++ spelling.quoted ++ Text.ofString "." ++
      suggestion similar
  | .options (.takesNoValue spelling) =>
    Text.ofString "Option " ++ spelling.quoted ++ Text.ofString " does not take a value."
  | .commandMissing => Text.ofString "Missing command."
  | .commandUnknown name similar =>
    Text.ofString "No such command " ++ name.quoted ++ Text.ofString "." ++
      suggestion similar
  | .scriptMissing => Text.ofString "Missing argument 'SCRIPT'."
  | .scriptAbsent path =>
    Text.ofString "Invalid value for 'SCRIPT': File " ++ path.quoted ++
      Text.ofString " does not exist."
  | .scriptIsDirectory path =>
    Text.ofString "Invalid value for 'SCRIPT': File " ++ path.quoted ++
      Text.ofString " is a directory."
  | .scriptLocked path =>
    Text.ofString "Invalid value for 'SCRIPT': File " ++ path.quoted ++
      Text.ofString " is not readable."
  | .extraArguments [argument] =>
    Text.ofString "Got unexpected extra argument (" ++ argument ++ Text.ofString ")"
  | .extraArguments arguments =>
    Text.ofString "Got unexpected extra arguments (" ++
      Text.join (Text.ofString " ") arguments ++ Text.ofString ")"

/-- What leads up to the message: how the command is used, unless a flag was given a value. -/
def UsageFault.preamble (command : Command) : UsageFault → Text
  | .options (.takesNoValue _) => []
  | _ =>
    command.usage ++ Text.ofString "Try '" ++ command.path ++ Text.ofString " --help' for help." ++
      Text.ofString "\n\n"

end SelectorProse.Cli
