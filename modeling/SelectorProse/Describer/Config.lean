import SelectorProse.Value.Equality
import SelectorProse.Value.Shown

/-!
The choices that a describer is made with.
-/

set_option autoImplicit false

namespace SelectorProse

/-- Any value can be given for either choice. The template for dash matches is left unfilled if the
first is truthy. -/
structure Config where
  legacyDashMatch : Value := .bool false
  loggerName : Value := .text (Text.ofString "css_describe")
  deriving Repr

namespace Config

def isLegacy (config : Config) : Bool := config.legacyDashMatch.isTruthy

/-- The logger that all others descend from. -/
def rootLogger : Text := Text.ofString "root"

/-- The logger that the name stands for: whatever is not truthy is the root. Any other name has to
be a text. -/
def logger? (config : Config) : Option Text :=
  match config.loggerName with
  | .text name => some (if name = [] then rootLogger else name)
  | name => if name.isTruthy then none else some rootLogger

def same (first second : Config) : Bool :=
  first.legacyDashMatch.same second.legacyDashMatch && first.loggerName.same second.loggerName

def shown (config : Config) : Text :=
  Text.ofString "DescriberConfig(legacy_dash_match=" ++ config.legacyDashMatch.shown ++
    Text.ofString ", logger_name=" ++ config.loggerName.shown ++ Text.ofString ")"

end Config

end SelectorProse
