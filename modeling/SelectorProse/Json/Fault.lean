import SelectorProse.Text.Line
import SelectorProse.Text.Numeral

/-!
Why a text is not read as a JSON document.
-/

set_option autoImplicit false

namespace SelectorProse.Json

/-- What is wrong at one place of a document. -/
inductive Problem where
  | expectedValue
  | expectedKey
  | expectedColon
  | expectedComma
  | extraData
  | unterminatedText
  | controlCharacter
  | unknownEscape
  | brokenCodePoint
  | byteOrderMark
  deriving DecidableEq, Repr

def Problem.message : Problem → Text
  | .expectedValue => Text.ofString "Expecting value"
  | .expectedKey => Text.ofString "Expecting property name enclosed in double quotes"
  | .expectedColon => Text.ofString "Expecting ':' delimiter"
  | .expectedComma => Text.ofString "Expecting ',' delimiter"
  | .extraData => Text.ofString "Extra data"
  | .unterminatedText => Text.ofString "Unterminated string starting at"
  | .controlCharacter => Text.ofString "Invalid control character at"
  | .unknownEscape => Text.ofString "Invalid \\escape"
  | .brokenCodePoint => Text.ofString "Invalid \\uXXXX escape"
  | .byteOrderMark => Text.ofString "Unexpected UTF-8 BOM (decode using utf-8-sig)"

inductive Container where
  | list
  | record
  deriving DecidableEq, Repr

/-- A document is malformed at an offset, or it is beyond what is read at all. -/
inductive Fault where
  | malformed (problem : Problem) (offset : Nat)
  | integerTooLong (digits : Nat)
  | tooDeep (container : Container)
  deriving DecidableEq, Repr

/-- A place in a text: the line and the column count from one, the offset from zero. -/
structure Place where
  line : Nat
  column : Nat
  offset : Nat
  deriving DecidableEq, Repr

def Place.ofOffset (source : Text) (offset : Nat) : Place :=
  ⟨source.lineAt offset, source.columnAt offset, offset⟩

def Place.message (place : Place) : Text :=
  Text.ofString "line " ++ Text.ofNat place.line ++ Text.ofString " column " ++
    Text.ofNat place.column ++ Text.ofString " (char " ++ Text.ofNat place.offset ++
    Text.ofString ")"

end SelectorProse.Json
