import SelectorProse.Binary64.Basic
import SelectorProse.Json.Fault
import SelectorProse.Text.Surrogates

/-!
A JSON document as a sequence of tokens, each with the offset at which it starts. Blanks between
tokens are dropped, and nothing is read behind a token that is broken.
-/

set_option autoImplicit false

namespace SelectorProse.Json

inductive Token where
  | openList
  | closeList
  | openRecord
  | closeRecord
  | comma
  | colon
  | null
  | bool (b : Bool)
  | int (negative : Bool) (digits : Text)
  | float (x : Binary64)
  | text (t : Text)
  /-- A text that cannot be completed: what is wrong in it, and how far from its start. -/
  | brokenText (problem : Problem) (distance : Nat)
  /-- No token begins here. -/
  | unknown
  deriving DecidableEq, Repr

structure Lexeme where
  token : Token
  start : Nat
  deriving DecidableEq, Repr

/-- The blanks between tokens: space, tabulator, line feed, carriage return. -/
def isBlank (c : CodePoint) : Bool := c == ' ' || c == '\t' || c == '\n' || c == '\r'

def isDigit (c : CodePoint) : Bool := 0x30 ≤ c.val && c.val ≤ 0x39

def hexDigit? (c : CodePoint) : Option Nat :=
  if 0x30 ≤ c.val ∧ c.val ≤ 0x39 then some (c.val - 0x30)
  else if 0x61 ≤ c.val ∧ c.val ≤ 0x66 then some (c.val - 0x57)
  else if 0x41 ≤ c.val ∧ c.val ≤ 0x46 then some (c.val - 0x37)
  else none

/-- The code point of four hexadecimal digits. -/
def codePoint? (a b c d : CodePoint) : Option CodePoint :=
  match hexDigit? a, hexDigit? b, hexDigit? c, hexDigit? d with
  | some a, some b, some c, some d => some (CodePoint.ofNat (((a * 16 + b) * 16 + c) * 16 + d))
  | _, _, _, _ => none

/-- What a backslash and this character stand for. -/
def shortEscape? (c : CodePoint) : Option CodePoint :=
  if c = '"' || c = '\\' || c = '/' then some c
  else if c = 'b' then some (CodePoint.ofChar '\x08')
  else if c = 'f' then some (CodePoint.ofChar '\x0c')
  else if c = 'n' then some (CodePoint.ofChar '\n')
  else if c = 'r' then some (CodePoint.ofChar '\r')
  else if c = 't' then some (CodePoint.ofChar '\t')
  else none

/-- A piece of a text: a character as it stands or by a short escape, or a code point that is
spelt with four hexadecimal digits. -/
inductive Piece where
  | plain (c : CodePoint)
  | spelt (c : CodePoint)
  deriving DecidableEq, Repr

/-- A spelt high surrogate and the spelt low surrogate behind it are one code point. -/
def ofPieces : List Piece → Text
  | [] => []
  | .plain c :: rest => c :: ofPieces rest
  | [.spelt c] => [c]
  | .spelt c :: .plain d :: rest => c :: d :: ofPieces rest
  | .spelt c :: .spelt d :: rest =>
    if c.isHighSurrogate && d.isLowSurrogate then
      CodePoint.ofSurrogates c d :: ofPieces rest
    else
      c :: ofPieces (.spelt d :: rest)

/-- The pieces of a text up to its closing quotation mark, and the distance of the character
behind that mark from the text's start; `distance` is that of the first character here. A spelt
code point needs a character behind its digits. -/
def pieces (distance : Nat) : Text → Except (Problem × Nat) (List Piece × Nat)
  | [] => .error (.unterminatedText, 0)
  | [⟨0x5C, _⟩] => .error (.unterminatedText, 0)
  | ⟨0x5C, _⟩ :: ⟨0x75, _⟩ :: a :: b :: c :: d :: next :: rest =>
    match codePoint? a b c d with
    | none => .error (.brokenCodePoint, distance + 1)
    | some point =>
      (fun (found, stop) => (.spelt point :: found, stop)) <$>
        pieces (distance + 6) (next :: rest)
  | ⟨0x5C, _⟩ :: ⟨0x75, _⟩ :: _ => .error (.brokenCodePoint, distance + 1)
  | ⟨0x5C, _⟩ :: c :: rest =>
    match shortEscape? c with
    | none => .error (.unknownEscape, distance)
    | some point =>
      (fun (found, stop) => (.plain point :: found, stop)) <$> pieces (distance + 2) rest
  | c :: rest =>
    if c = '"' then .ok ([], distance + 1)
    else if c.val < 0x20 then .error (.controlCharacter, distance)
    else (fun (found, stop) => (.plain c :: found, stop)) <$> pieces (distance + 1) rest

/-- The number that digits spell. -/
def ofDigits (digits : Text) : Nat := digits.foldl (fun n c => n * 10 + (c.val - 0x30)) 0

/-- The digits of a whole number at the start of a text; a zero stands alone. -/
def wholeDigits (source : Text) : Text :=
  if (Text.ofString "0").isPrefixOf source then Text.ofString "0" else source.takeWhile isDigit

/-- The digits of a fraction behind a point, if any stand there. -/
def fractionDigits : Text → Text
  | ⟨0x2E, _⟩ :: rest => rest.takeWhile isDigit
  | _ => []

/-- The sign and the digits of an exponent. -/
def exponentParts : Text → Text × Text
  | letter :: rest =>
    if letter = 'e' || letter = 'E' then
      match rest with
      | sign :: digits =>
        if sign = '+' || sign = '-' then ([sign], digits.takeWhile isDigit)
        else ([], rest.takeWhile isDigit)
      | [] => ([], [])
    else ([], [])
  | [] => ([], [])

/-- The longest number at the start of a text, and its length. A number with a fraction or an
exponent is a floating point number. -/
def number? (source : Text) : Option (Token × Nat) :=
  let negative := (Text.ofString "-").isPrefixOf source
  let body := if negative then source.drop 1 else source
  let whole := wholeDigits body
  if whole = [] then none
  else
    let behindWhole := body.drop whole.length
    let fraction := fractionDigits behindWhole
    let fractionWidth := if fraction = [] then 0 else fraction.length + 1
    let (sign, power) := exponentParts (behindWhole.drop fractionWidth)
    let powerWidth := if power = [] then 0 else 1 + sign.length + power.length
    let width := (if negative then 1 else 0) + whole.length + fractionWidth + powerWidth
    if fraction = [] ∧ power = [] then some (.int negative whole, width)
    else
      let magnitude : Int := ofDigits power
      let exponent := (if sign = Text.ofString "-" then -magnitude else magnitude) - fraction.length
      some (.float (.ofDecimal negative (ofDigits (whole ++ fraction)) exponent), width)

def words : List (Text × Token) := [
  (Text.ofString "null", .null),
  (Text.ofString "true", .bool true),
  (Text.ofString "false", .bool false),
  (Text.ofString "NaN", .float .nan),
  (Text.ofString "Infinity", .float (.infinite false)),
  (Text.ofString "-Infinity", .float (.infinite true))]

/-- The word at the start of a text, and its length. -/
def word? (source : Text) : Option (Token × Nat) :=
  (words.find? fun (word, _) => word.isPrefixOf source).map fun (word, token) =>
    (token, word.length)

def punctuation? (c : CodePoint) : Option Token :=
  if c = '[' then some .openList
  else if c = ']' then some .closeList
  else if c = '\x7b' then some .openRecord
  else if c = '\x7d' then some .closeRecord
  else if c = ',' then some .comma
  else if c = ':' then some .colon
  else none

/-- The token at the start of a text that begins with this character, and its length. -/
def scan (c : CodePoint) (rest : Text) : Token × Nat :=
  match punctuation? c with
  | some token => (token, 1)
  | none =>
    if c = '"' then
      match pieces 1 rest with
      | .ok (found, stop) => (.text (ofPieces found), stop)
      | .error (problem, distance) => (.brokenText problem distance, rest.length + 1)
    else
      match word? (c :: rest) with
      | some found => found
      | none => (number? (c :: rest)).getD (.unknown, rest.length + 1)

/-- The tokens of a text whose first character has this offset. -/
def lex (offset : Nat) (source : Text) : List Lexeme :=
  match source with
  | [] => []
  | c :: rest =>
    if isBlank c then lex (offset + 1) rest
    else
      match scan c rest with
      | (token, width) => ⟨token, offset⟩ :: lex (offset + width) (rest.drop (width - 1))
termination_by source.length
decreasing_by
  · simp
  · simp only [List.length_drop, List.length_cons]
    omega

end SelectorProse.Json
