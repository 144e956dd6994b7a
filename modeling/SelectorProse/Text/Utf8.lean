import SelectorProse.Text.Numeral

/-!
UTF-8: octets read as a text, the reason why they are none, and the parts of a text that have no
octets.
-/

set_option autoImplicit false

namespace SelectorProse

abbrev Octets := List UInt8

namespace Utf8

inductive Reason where
  | invalidStart
  | invalidContinuation
  | unexpectedEnd
  deriving DecidableEq, Repr

/-- The octets that begin a character and cannot be completed, and where they stand. -/
structure DecodeFault where
  reason : Reason
  octets : Octets
  offset : Nat
  deriving DecidableEq, Repr

/-- A character of which some octets have been read: its bits so far, and for each octet to come
the least and the greatest that may follow. -/
structure Partial where
  bits : Nat
  awaited : List (UInt8 × UInt8)
  deriving DecidableEq, Repr

/-- What an octet begins. The ranges leave out overlong forms, surrogates and numbers from
`0x110000` on. -/
def start? (lead : UInt8) : Option Partial :=
  let any : UInt8 × UInt8 := (0x80, 0xBF)
  if lead < 0x80 then some ⟨lead.toNat, []⟩
  else if lead < 0xC2 then none
  else if lead < 0xE0 then some ⟨lead.toNat - 0xC0, [any]⟩
  else if lead == 0xE0 then some ⟨0, [(0xA0, 0xBF), any]⟩
  else if lead == 0xED then some ⟨0xD, [(0x80, 0x9F), any]⟩
  else if lead < 0xF0 then some ⟨lead.toNat - 0xE0, [any, any]⟩
  else if lead == 0xF0 then some ⟨0, [(0x90, 0xBF), any, any]⟩
  else if lead < 0xF4 then some ⟨lead.toNat - 0xF0, [any, any, any]⟩
  else if lead == 0xF4 then some ⟨4, [(0x80, 0x8F), any, any]⟩
  else none

/-- Reads on behind the octets `seen`, which begin a character at `offset` and await at least one
more; with none seen, a new character begins. -/
def decodeFrom (offset : Nat) (seen : Octets) (bits : Nat)
    (awaited : List (UInt8 × UInt8)) : Octets → Except DecodeFault Text
  | [] => if seen = [] then .ok [] else .error ⟨.unexpectedEnd, seen, offset⟩
  | octet :: rest =>
    match awaited with
    | [] =>
      match start? octet with
      | none => .error ⟨.invalidStart, [octet], offset⟩
      | some ⟨first, []⟩ => (CodePoint.ofNat first :: ·) <$> decodeFrom (offset + 1) [] 0 [] rest
      | some ⟨first, more⟩ => decodeFrom offset [octet] first more rest
    | (least, greatest) :: more =>
      if least ≤ octet && octet ≤ greatest then
        let joined := bits * 0x40 + octet.toNat % 0x40
        if more = [] then
          (CodePoint.ofNat joined :: ·) <$>
            decodeFrom (offset + seen.length + 1) [] 0 [] rest
        else
          decodeFrom offset (seen ++ [octet]) joined more rest
      else
        .error ⟨.invalidContinuation, seen, offset⟩

def decode (octets : Octets) : Except DecodeFault Text := decodeFrom 0 [] 0 [] octets

def Reason.message : Reason → Text
  | .invalidStart => Text.ofString "invalid start byte"
  | .invalidContinuation => Text.ofString "invalid continuation byte"
  | .unexpectedEnd => Text.ofString "unexpected end of data"

/-- One octet is named by its value, several by the places of the first and the last. -/
def DecodeFault.message (fault : DecodeFault) : Text :=
  let place := match fault.octets with
    | [octet] =>
      Text.ofString "byte 0x" ++ Text.hex 2 octet.toNat ++ Text.ofString " in position " ++
        Text.ofNat fault.offset
    | octets =>
      Text.ofString "bytes in position " ++ Text.ofNat fault.offset ++ Text.ofString "-" ++
        Text.ofNat (fault.offset + octets.length - 1)
  Text.ofString "'utf-8' codec can't decode " ++ place ++ Text.ofString ": " ++
    fault.reason.message

/-- The first surrogates of a text that stand side by side: they have no octets. -/
structure EncodeFault where
  first : CodePoint
  count : Nat
  offset : Nat
  deriving DecidableEq, Repr

/-- The first surrogates of a text, if it has any. -/
def encodeFault? (t : Text) : Option EncodeFault :=
  match t.dropWhile (!·.isSurrogate) with
  | [] => none
  | first :: rest => some {
      first
      count := (rest.takeWhile CodePoint.isSurrogate).length + 1
      offset := (t.takeWhile (!·.isSurrogate)).length }

theorem encodeFault?_eq_none_iff (t : Text) :
    encodeFault? t = none ↔ ∀ c ∈ t, c.isSurrogate = false := by
  induction t with
  | nil => simp [encodeFault?]
  | cons c rest ih =>
    cases surrogate : c.isSurrogate with
    | true => simp [encodeFault?, surrogate]
    | false =>
      have skipped : encodeFault? (c :: rest) = none ↔ encodeFault? rest = none := by
        simp only [encodeFault?, List.dropWhile_cons, surrogate, Bool.not_false, ↓reduceIte]
        split <;> simp
      rw [skipped, ih]
      simp [surrogate]

def EncodeFault.message (fault : EncodeFault) : Text :=
  let place :=
    if fault.count = 1 then
      Text.ofString "character '\\u" ++ Text.hex 4 fault.first.val ++
        Text.ofString "' in position " ++ Text.ofNat fault.offset
    else
      Text.ofString "characters in position " ++ Text.ofNat fault.offset ++ Text.ofString "-" ++
        Text.ofNat (fault.offset + fault.count - 1)
  Text.ofString "'utf-8' codec can't encode " ++ place ++
    Text.ofString ": surrogates not allowed"

/-- Each surrogate as its escape: what remains can be written. -/
def escapeSurrogates (t : Text) : Text :=
  t.flatMap fun c => if c.isSurrogate then Text.ofString "\\u" ++ Text.hex 4 c.val else [c]

end Utf8

end SelectorProse
