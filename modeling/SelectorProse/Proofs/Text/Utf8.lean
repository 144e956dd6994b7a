import SelectorProse.Proofs.Text.Numeral
import SelectorProse.Text.Utf8

/-!
Characters of ASCII are octets of their own.
-/

set_option autoImplicit false

namespace SelectorProse.Utf8

/-- The octets of a text in ASCII. -/
def asciiOctets (t : Text) : Octets := t.map fun c => UInt8.ofNat c.val

theorem decodeFrom_ascii {octet : UInt8} (ascii : octet < 0x80) (offset : Nat) (rest : Octets) :
    decodeFrom offset [] 0 [] (octet :: rest) =
      (CodePoint.ofNat octet.toNat :: ·) <$> decodeFrom (offset + 1) [] 0 [] rest := by
  have single : start? octet = some ⟨octet.toNat, []⟩ := if_pos ascii
  rw [decodeFrom, single]

theorem decodeFrom_asciiOctets {t : Text} (ascii : ∀ c ∈ t, c.val < 0x80) (offset : Nat) :
    decodeFrom offset [] 0 [] (asciiOctets t) = .ok t := by
  induction t generalizing offset with
  | nil => rfl
  | cons c t ih =>
    rw [List.forall_mem_cons] at ascii
    have value : (UInt8.ofNat c.val).toNat = c.val := by
      rw [UInt8.toNat_ofNat']
      omega
    have small : UInt8.ofNat c.val < 0x80 := by
      rw [UInt8.lt_iff_toNat_lt, value]
      exact ascii.1
    rw [asciiOctets, List.map_cons, decodeFrom_ascii small, value, CodePoint.ofNat_val]
    have later := ih ascii.2 (offset + 1)
    rw [asciiOctets] at later
    rw [later]
    rfl

/-- A text in ASCII is read from its octets. -/
theorem decode_asciiOctets {t : Text} (ascii : ∀ c ∈ t, c.val < 0x80) :
    decode (asciiOctets t) = .ok t := decodeFrom_asciiOctets ascii 0

theorem escapeSurrogates_append (t u : Text) :
    escapeSurrogates (t ++ u) = escapeSurrogates t ++ escapeSurrogates u := List.flatMap_append

theorem escapeSurrogates_eq_self {t : Text} (whole : ∀ c ∈ t, c.isSurrogate = false) :
    escapeSurrogates t = t := by
  induction t with
  | nil => rfl
  | cons c t ih =>
    rw [List.forall_mem_cons] at whole
    rw [escapeSurrogates, List.flatMap_cons, whole.1]
    exact congrArg (c :: ·) (ih whole.2)

end SelectorProse.Utf8
