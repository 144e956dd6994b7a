/-!
Texts are sequences of code points. A code point may be a surrogate, so that a text can hold what
an escape in a script names even where no character has that number.
-/

set_option autoImplicit false

namespace SelectorProse

/-- A number below `0x110000`, surrogates included. -/
abbrev CodePoint := Fin 0x110000

namespace CodePoint

def ofChar (c : Char) : CodePoint :=
  ⟨c.toNat, by
    have valid := c.valid
    simp only [Char.toNat, UInt32.isValidChar, Nat.isValidChar] at *
    omega⟩

instance : Coe Char CodePoint := ⟨ofChar⟩

/-- Numbers that are too large stand for themselves less a multiple of the range. -/
def ofNat (n : Nat) : CodePoint := Fin.ofNat 0x110000 n

def isHighSurrogate (c : CodePoint) : Bool := 0xD800 ≤ c.val && c.val ≤ 0xDBFF

def isLowSurrogate (c : CodePoint) : Bool := 0xDC00 ≤ c.val && c.val ≤ 0xDFFF

def isSurrogate (c : CodePoint) : Bool := 0xD800 ≤ c.val && c.val ≤ 0xDFFF

/-- The code point above `0xFFFF` that a high and a low surrogate stand for together. -/
def ofSurrogates (high low : CodePoint) : CodePoint :=
  ofNat (0x10000 + (high.val - 0xD800) * 0x400 + (low.val - 0xDC00))

/-- The high surrogate of a code point above `0xFFFF`. -/
def highSurrogate (c : CodePoint) : CodePoint := ofNat (0xD800 + (c.val - 0x10000) / 0x400)

/-- The low surrogate of a code point above `0xFFFF`. -/
def lowSurrogate (c : CodePoint) : CodePoint := ofNat (0xDC00 + (c.val - 0x10000) % 0x400)

end CodePoint

abbrev Text := List CodePoint

namespace Text

def ofString (s : String) : Text := s.toList.map CodePoint.ofChar

/-- The characters of a text. A surrogate is none and becomes the null character. -/
def toString (t : Text) : String := String.ofList (t.map fun c => Char.ofNat c.val)

@[simp] theorem ofString_empty : ofString "" = [] := rfl

/-- The texts in order, with a separator between neighbours. -/
def join (separator : Text) : List Text → Text
  | [] => []
  | [piece] => piece
  | piece :: rest => piece ++ separator ++ join separator rest

@[simp] theorem join_nil (separator : Text) : join separator [] = [] := rfl

@[simp] theorem join_singleton (separator piece : Text) : join separator [piece] = piece := rfl

@[simp] theorem join_cons_cons (separator piece next : Text) (rest : List Text) :
    join separator (piece :: next :: rest) = piece ++ separator ++ join separator (next :: rest) :=
  rfl

/-- What holds of every code point of a separator and of the pieces holds of what they make up. -/
theorem forall_mem_join {holds : CodePoint → Prop} {separator : Text} {pieces : List Text}
    (between : ∀ c ∈ separator, holds c) (each : ∀ piece ∈ pieces, ∀ c ∈ piece, holds c) :
    ∀ c ∈ join separator pieces, holds c := by
  induction pieces with
  | nil => exact List.forall_mem_nil _
  | cons piece rest ih =>
    rw [List.forall_mem_cons] at each
    cases rest with
    | nil => exact each.1
    | cons next rest =>
      rw [join_cons_cons]
      exact List.forall_mem_append.mpr
        ⟨List.forall_mem_append.mpr ⟨each.1, between⟩, ih each.2⟩

/-- The order by code points: a text comes before those that it begins. -/
def precedes : Text → Text → Bool
  | [], _ => true
  | _ :: _, [] => false
  | c :: s, d :: t => c.val < d.val || (c.val == d.val && precedes s t)

/-- Texts in ascending order of their code points. -/
def sort (texts : List Text) : List Text := texts.mergeSort precedes

theorem mem_sort {text : Text} {texts : List Text} : text ∈ sort texts ↔ text ∈ texts :=
  List.mem_mergeSort

end Text

end SelectorProse
