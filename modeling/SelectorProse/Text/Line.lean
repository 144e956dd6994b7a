import SelectorProse.Text.Basic

/-!
Lines: their ends made uniform, and the line and column of an offset.
-/

set_option autoImplicit false

namespace SelectorProse.Text

/-- Each carriage return, with the line feed after it if there is one, becomes a line feed. -/
def unifyLineEnds : Text → Text
  | [] => []
  | [c] => if c = '\r' then ['\n'] else [c]
  | c :: d :: rest =>
    if c = '\r' then
      if d = '\n' then '\n' :: unifyLineEnds rest else '\n' :: unifyLineEnds (d :: rest)
    else
      c :: unifyLineEnds (d :: rest)

/-- The line of an offset, counted from one: only line feeds end a line. -/
def lineAt (t : Text) (offset : Nat) : Nat := (t.take offset).count (CodePoint.ofChar '\n') + 1

/-- The column of an offset, counted from one behind the last line feed before it. -/
def columnAt (t : Text) (offset : Nat) : Nat :=
  ((t.take offset).reverse.takeWhile fun c => c != CodePoint.ofChar '\n').length + 1

end SelectorProse.Text
