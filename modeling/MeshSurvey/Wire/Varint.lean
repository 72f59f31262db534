/-!
# Numbers of variable length

A 64-bit number is written seven bits to a byte, the least significant first; every byte but the
last has its top bit set. Ten bytes suffice, and of a tenth byte only the lowest bit is left. A
number need not be written as short as possible.
-/

namespace MeshSurvey.Wire

/-- A text of bytes. -/
abbrev Bytes := List UInt8

namespace Varint

/-- Writes a number in at most `more + 1` bytes. -/
def encodeWithin : (more : Nat) → Nat → Bytes
  | 0, n => [.ofNat n]
  | more + 1, n =>
    if n < 128 then [.ofNat n] else .ofNat (n % 128 + 128) :: encodeWithin more (n / 128)

/-- The bytes of a number. -/
def encode (n : UInt64) : Bytes := encodeWithin 9 n.toNat

/-- Reads a number of at most `more + 1` bytes, of which the last has one bit. -/
def decodeWithin : (more : Nat) → Bytes → Option (Nat × Bytes)
  | _, [] => none
  | 0, b :: rest => if b < 2 then some (b.toNat, rest) else none
  | more + 1, b :: rest =>
    if b < 128 then some (b.toNat, rest)
    else (decodeWithin more rest).map fun (n, rest) ↦ (b.toNat - 128 + 128 * n, rest)

/-- Reads the number that a text begins with. -/
def decode (bytes : Bytes) : Option (UInt64 × Bytes) :=
  (decodeWithin 9 bytes).map fun (n, rest) ↦ (.ofNat n, rest)

end Varint

end MeshSurvey.Wire
