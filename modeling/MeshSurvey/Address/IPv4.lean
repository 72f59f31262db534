import MeshSurvey.Text.Numeral
import MeshSurvey.Text.Split

/-!
# IPv4 addresses

Four octets, written in decimal with dots between them. A written octet has one to three digits and
no leading zero.

The system's resolver takes more: one to four numbers with dots between them, each in decimal, in
hexadecimal after `0x` or in octal after `0`. The last number fills all the octets that the others
leave.
-/

namespace MeshSurvey

/-- An IPv4 address. -/
structure IPv4 where
  /-- The most significant octet. -/
  a : UInt8
  /-- The second octet. -/
  b : UInt8
  /-- The third octet. -/
  c : UInt8
  /-- The least significant octet. -/
  d : UInt8
  deriving DecidableEq, Repr, Inhabited

namespace IPv4

/-- The address in decimal, with dots. -/
def text (ip : IPv4) : String :=
  ".".intercalate ([ip.a, ip.b, ip.c, ip.d].map fun octet ↦ toString octet.toNat)

/-- The address whose octets, the most significant first, are the digits of `n` in base 256. -/
def ofBigEndian (n : Nat) : IPv4 :=
  ⟨.ofNat (n >>> 24), .ofNat (n >>> 16), .ofNat (n >>> 8), .ofNat n⟩

/-- The address whose octets, the least significant first, are the digits of `n` in base 256. -/
def ofLittleEndian (n : Nat) : IPv4 :=
  ⟨.ofNat n, .ofNat (n >>> 8), .ofNat (n >>> 16), .ofNat (n >>> 24)⟩

/-! ## Reading -/

/-- An octet: one to three digits below 256, without a leading zero. -/
def readOctet (digits : List Char) : Option UInt8 :=
  if digits.length ≤ 3 ∧ ¬ (digits.length ≠ 1 ∧ digits.head? = some '0') then
    ((Text.readDigits 10 digits).filter (· < 256)).map UInt8.ofNat
  else none

/-- Reads the octet that a text begins with. -/
def octetFront (cs : List Char) : Option (UInt8 × List Char) :=
  (readOctet (cs.takeWhile Char.isDigit)).map (·, cs.dropWhile Char.isDigit)

/-- Reads a dot and the octet after it. -/
def dottedOctet : List Char → Option (UInt8 × List Char)
  | '.' :: cs => octetFront cs
  | _ => none

/-- Reads the address that a text begins with. -/
def readFront (cs : List Char) : Option (IPv4 × List Char) := do
  let (a, cs) ← octetFront cs
  let (b, cs) ← dottedOctet cs
  let (c, cs) ← dottedOctet cs
  let (d, cs) ← dottedOctet cs
  return (⟨a, b, c, d⟩, cs)

/-- Reads the whole of a text as an address. -/
def read (cs : List Char) : Option IPv4 :=
  match readFront cs with
  | some (ip, []) => some ip
  | _ => none

/-! ## Reading as the resolver does -/

/-- Reads the whole of a text as a number in decimal, hexadecimal or octal. -/
def readNumber : List Char → Option Nat
  | '0' :: 'x' :: digits => Text.readDigits 16 digits
  | '0' :: 'X' :: digits => Text.readDigits 16 digits
  | '0' :: digits => Text.readDigits 8 ('0' :: digits)
  | digits => Text.readDigits 10 digits

/-- The number that `count` octets and a last part make, if every part fits into its place. -/
def ofParts : Nat → Nat → List Nat → Option Nat
  | _, _, [] => none
  | count, octets, [last] =>
    if last < Nat.pow 256 (4 - count) then some (octets * Nat.pow 256 (4 - count) + last) else none
  | count, octets, part :: parts =>
    if count < 3 ∧ part < 256 then ofParts (count + 1) (octets * 256 + part) parts else none

/-- Reads the whole of a text as an address in any form that the resolver takes. -/
def resolve (cs : List Char) : Option IPv4 := do
  let parts ← (Text.pieces '.' cs).mapM readNumber
  let n ← ofParts 0 0 parts
  return ofBigEndian n

/-! ## Networks of 256 addresses -/

/-- The address of host number `d` in the network of 256 addresses around `ip`. -/
def withLast (ip : IPv4) (d : UInt8) : IPv4 := { ip with d }

/-- The addresses of the hosts in the network of 256 addresses around `ip`: neither its first
address, which names the network, nor its last, which reaches every host. -/
def neighbours (ip : IPv4) : List IPv4 :=
  (List.range 254).map fun i ↦ ip.withLast (.ofNat (i + 1))

end IPv4

end MeshSurvey
