import SelectorProse.Text.Quoted
import SelectorProse.Text.Similarity

/-!
Command line arguments split into flags and plain arguments.
-/

set_option autoImplicit false

namespace SelectorProse.Cli

inductive Flag where
  | version
  | verbose
  | legacyDashMatch
  | help
  deriving DecidableEq, Repr

/-- The flags that a command knows, by their long names and by their letters. -/
structure Options where
  long : List (Text × Flag)
  letters : List (CodePoint × Flag)
  /-- May flags stand behind plain arguments? -/
  mixed : Bool
  deriving Repr

inductive OptionFault where
  | unknown (spelling : Text) (similar : List Text)
  | takesNoValue (spelling : Text)
  deriving DecidableEq, Repr

/-- Flags in the order in which they were given, and the other arguments. -/
structure Split where
  flags : List Flag
  arguments : List Text
  deriving DecidableEq, Repr

/-- The words of a list that are similar to a given one, in ascending order. -/
def similarTo (word : Text) (words : List Text) : List Text :=
  Text.sort (words.filter fun candidate => candidate.isSimilar word)

namespace Options

/-- The flags that stand for the letters behind a single hyphen. -/
def ofLetters (options : Options) : Text → Except OptionFault (List Flag)
  | [] => .ok []
  | letter :: rest =>
    match options.letters.lookup letter with
    | some flag => (flag :: ·) <$> ofLetters options rest
    | none => .error (.unknown ['-', letter] [])

/-- The flags of one argument that begins with a hyphen. A long name ends at an equals sign, but no
flag takes what follows that. -/
def ofArgument (options : Options) (argument : Text) : Except OptionFault (List Flag) :=
  let name := argument.takeWhile fun c => c != CodePoint.ofChar '='
  match options.long.lookup name with
  | some flag => if argument.contains '=' then .error (.takesNoValue name) else .ok [flag]
  | none =>
    if (Text.ofString "--").isPrefixOf argument then
      .error (.unknown name (similarTo name (options.long.map Prod.fst)))
    else
      options.ofLetters (argument.drop 1)

/-- A hyphen with something behind it makes flags, a double hyphen alone ends them. -/
def split (options : Options) : List Text → Except OptionFault Split
  | [] => .ok ⟨[], []⟩
  | argument :: rest =>
    if argument = Text.ofString "--" then .ok ⟨[], rest⟩
    else if (Text.ofString "-").isPrefixOf argument && 1 < argument.length then
      match options.ofArgument argument with
      | .error fault => .error fault
      | .ok flags =>
        (fun later => { later with flags := flags ++ later.flags }) <$> split options rest
    else if options.mixed then
      (fun later => { later with arguments := argument :: later.arguments }) <$>
        split options rest
    else
      .ok ⟨[], argument :: rest⟩

end Options

/-- The first of the flags that end the program at once. -/
def Split.first? (split : Split) : Option Flag :=
  split.flags.find? fun flag => flag == .version || flag == .help

end SelectorProse.Cli
