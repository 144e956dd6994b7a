import SelectorProse.Text.Numeral
import SelectorProse.Text.Printable

/-!
Quoted texts: a text between quotation marks on one line of printable characters.
-/

set_option autoImplicit false

namespace SelectorProse

/-- One code point between quotation marks: the mark and the backslash behind a backslash, an
unprintable code point as an escape of two, four or eight hexadecimal digits. -/
def CodePoint.quoted (mark c : CodePoint) : Text :=
  if c = mark || c = '\\' then ['\\', c]
  else if c = '\t' then Text.ofString "\\t"
  else if c = '\n' then Text.ofString "\\n"
  else if c = '\r' then Text.ofString "\\r"
  else if c.isPrintable then [c]
  else if c.val ≤ 0xFF then Text.ofString "\\x" ++ Text.hex 2 c.val
  else if c.val ≤ 0xFFFF then Text.ofString "\\u" ++ Text.hex 4 c.val
  else Text.ofString "\\U" ++ Text.hex 8 c.val

namespace Text

/-- The apostrophe, unless the text holds one and no double quotation mark. -/
def quotationMark (t : Text) : CodePoint :=
  if t.contains '\'' && !t.contains '"' then '"' else '\''

def quoted (t : Text) : Text :=
  t.quotationMark :: t.flatMap (CodePoint.quoted t.quotationMark) ++ [t.quotationMark]

end Text

end SelectorProse
