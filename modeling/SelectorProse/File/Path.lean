import SelectorProse.Text.Basic

/-!
Paths: the names between slashes, their normal form, and their length in octets.
-/

set_option autoImplicit false

namespace SelectorProse.Path

/-- The pieces between slashes; there is one more of them than slashes. -/
def pieces : Text → List Text
  | [] => [[]]
  | c :: rest =>
    match pieces rest with
    | first :: others => if c = '/' then [] :: first :: others else (c :: first) :: others
    | [] => [[c]]

/-- The names of a path, without empty ones and those that stay where they are. -/
def names (path : Text) : List Text :=
  (pieces path).filter fun piece => piece != [] && piece != Text.ofString "."

/-- The slashes at the front that count: none, one, or exactly two. -/
def root (path : Text) : Text :=
  match (path.takeWhile fun c => c == CodePoint.ofChar '/').length with
  | 0 => []
  | 2 => Text.ofString "//"
  | _ => Text.ofString "/"

/-- Names joined by single slashes. A path without names is a single point. -/
def normalized (path : Text) : Text :=
  let result := root path ++ Text.join (Text.ofString "/") (names path)
  if result = [] then Text.ofString "." else result

/-- The number of octets of a code point in UTF-8. -/
def octetCount (c : CodePoint) : Nat :=
  if c.val < 0x80 then 1 else if c.val < 0x800 then 2 else if c.val < 0x10000 then 3 else 4

def octetLength (t : Text) : Nat := t.foldl (fun length c => length + octetCount c) 0

end SelectorProse.Path
