import SelectorProse.File.Fault
import SelectorProse.Text.Utf8

/-!
A tree of files, and what a path leads to in it. Names are followed one by one, each inside what
the last one led to.
-/

set_option autoImplicit false

namespace SelectorProse.File

/-- Where names are counted from: a directory so many levels above the working directory, or the
topmost one. -/
inductive Origin where
  | above (levels : Nat)
  | top
  deriving DecidableEq, Repr

/-- A place by its names from an origin. -/
structure Place where
  origin : Origin
  names : List Text
  deriving DecidableEq, Repr

namespace Place

/-- The directory that the place lies in. The topmost one lies in itself. -/
def parent (place : Place) : Place :=
  if place.names = [] then
    match place.origin with
    | .above levels => ⟨.above (levels + 1), []⟩
    | .top => place
  else
    { place with names := place.names.dropLast }

/-- One name further: two points lead to the parent. -/
def step (place : Place) (name : Text) : Place :=
  if name = Text.ofString ".." then place.parent
  else { place with names := place.names ++ [name] }

/-- The place itself and every place that names lead to from it, one after another. -/
def way (place : Place) : List Text → List Place
  | [] => [place]
  | name :: rest => place :: way (place.step name) rest

/-- Where a path starts: at the top if it begins with a slash. -/
def start (path : Text) : Place :=
  ⟨if (Text.ofString "/").isPrefixOf path then .top else .above 0, []⟩

/-- Every place that a path passes, its own at the end. -/
def wayTo (path : Text) : List Place := way (start path) (Path.names path)

/-- The place that a path names. -/
def ofPath (path : Text) : Place := (Path.names path).foldl step (start path)

end Place

/-- The directories and files that are known. Whatever holds one of them is known as well. -/
structure Tree where
  directories : List Place
  files : List (Place × Octets)
  deriving Repr

inductive Node where
  | directory
  | file (content : Octets)
  deriving DecidableEq, Repr

namespace Tree

def empty : Tree := ⟨[], []⟩

/-- Adds a directory, and those on the way to it, by its path. -/
def addDirectory (tree : Tree) (path : Text) : Tree :=
  { tree with directories := tree.directories ++ Place.wayTo path }

/-- Adds a file, and the directories on the way to it, by its path. -/
def addFile (tree : Tree) (path : Text) (content : Octets) : Tree where
  directories := tree.directories ++ (Place.wayTo path).dropLast
  files := tree.files ++ [(Place.ofPath path, content)]

/-- Is there a directory at this place? The origins always are. -/
def isDirectory (tree : Tree) (place : Place) : Bool :=
  place.names == [] || tree.directories.contains place

/-- What stands at a place. A file that was added again has its last content. -/
def node? (tree : Tree) (place : Place) : Option Node :=
  match tree.files.reverse.lookup place with
  | some content => some (.file content)
  | none => if tree.isDirectory place then some .directory else none

/-- The greatest length of one name, in octets. -/
def nameLimit : Nat := 255

/-- The greatest length of a path, in octets. -/
def pathLimit : Nat := 4095

/-- Follows names one by one from a directory. -/
def follow (tree : Tree) (place : Place) : List Text → Except Fault Node
  | [] => .ok .directory
  | name :: rest =>
    if nameLimit < Path.octetLength name then .error .nameTooLong
    else
      match tree.node? (place.step name) with
      | none => .error .missing
      | some (.file content) => if rest = [] then .ok (.file content) else .error .notADirectory
      | some .directory => follow tree (place.step name) rest

/-- What a path leads to. A slash at its end asks for a directory. -/
def find (tree : Tree) (path : Text) : Except Fault Node :=
  if path = [] then .error .missing
  else if pathLimit < Path.octetLength path then .error .nameTooLong
  else
    match tree.follow (Place.start path) (Path.names path) with
    | .ok (.file content) =>
      let last := (Path.pieces path).getLast?
      if last = some [] || last = some (Text.ofString ".") then .error .notADirectory
      else .ok (.file content)
    | found => found

end Tree

end SelectorProse.File
