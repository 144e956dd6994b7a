import SelectorProse.File.Path
import SelectorProse.Text.Quoted

/-!
Why a file cannot be opened.
-/

set_option autoImplicit false

namespace SelectorProse.File

inductive Fault where
  | missing
  | denied
  | notADirectory
  | isADirectory
  | nameTooLong
  deriving DecidableEq, Repr

/-- The number by which the system names the fault. -/
def Fault.number : Fault → Nat
  | .missing => 2
  | .denied => 13
  | .notADirectory => 20
  | .isADirectory => 21
  | .nameTooLong => 36

def Fault.description : Fault → Text
  | .missing => Text.ofString "No such file or directory"
  | .denied => Text.ofString "Permission denied"
  | .notADirectory => Text.ofString "Not a directory"
  | .isADirectory => Text.ofString "Is a directory"
  | .nameTooLong => Text.ofString "File name too long"

/-- The fault at a path. -/
def Fault.message (fault : Fault) (path : Text) : Text :=
  Text.ofString "[Errno " ++ Text.ofNat fault.number ++ Text.ofString "] " ++
    fault.description ++ Text.ofString ": " ++ path.quoted

end SelectorProse.File
