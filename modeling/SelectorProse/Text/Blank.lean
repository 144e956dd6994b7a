import SelectorProse.Text.Basic

/-!
Blank code points, and texts without blanks at their ends.
-/

set_option autoImplicit false

namespace SelectorProse

/-- Blank: the separators of space, line and paragraph, and the control characters that act as
such. -/
def CodePoint.isBlank (c : CodePoint) : Bool :=
  (0x09 ≤ c.val && c.val ≤ 0x0D) || (0x1C ≤ c.val && c.val ≤ 0x20) || c.val == 0x85 ||
    c.val == 0xA0 || c.val == 0x1680 || (0x2000 ≤ c.val && c.val ≤ 0x200A) ||
    c.val == 0x2028 || c.val == 0x2029 || c.val == 0x202F || c.val == 0x205F || c.val == 0x3000

namespace Text

def trimLeft (t : Text) : Text := t.dropWhile CodePoint.isBlank

def trimRight (t : Text) : Text := (t.reverse.dropWhile CodePoint.isBlank).reverse

def trim (t : Text) : Text := t.trimLeft.trimRight

@[simp] theorem trimLeft_nil : trimLeft [] = [] := rfl

@[simp] theorem trimRight_nil : trimRight [] = [] := rfl

@[simp] theorem trim_nil : trim [] = [] := rfl

end Text

end SelectorProse
