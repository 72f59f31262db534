import MeshSurvey.Address.IPv4

/-!
# IPv6 addresses

Eight groups of sixteen bits, written in hexadecimal with colons between them. One run of zero
groups may be written as two colons, and the last two groups as an IPv4 address. The canonical text
shortens the first of the longest runs of at least two zero groups; an address that embeds an IPv4
address after the group `ffff` shows that address in decimal.
-/

namespace MeshSurvey

/-- An IPv6 address. -/
structure IPv6 where
  /-- The groups, most significant first. -/
  groups : List UInt16
  /-- There are eight of them. -/
  length_groups : groups.length = 8
  deriving DecidableEq

namespace IPv6

/-! ## Reading -/

/-- Reads the group that a text begins with: one to four hexadecimal digits. -/
def groupFront (cs : List Char) : Option (UInt16 × List Char) :=
  let isHex := fun c ↦ (Text.digitIn 16 c).isSome
  let digits := cs.takeWhile isHex
  if digits.length ≤ 4 then
    (Text.readDigits 16 digits).map fun n ↦ (.ofNat n, cs.dropWhile isHex)
  else none

/-- What follows the colon that every group but the first needs before it. -/
def afterColon (isFirst : Bool) (cs : List Char) : Option (List Char) :=
  if isFirst then some cs
  else match cs with
    | ':' :: rest => some rest
    | _ => none

/-- The two groups that an IPv4 address stands for. -/
def groupsOfIPv4 (ip : IPv4) : List UInt16 :=
  [.ofNat (ip.a.toNat * 256 + ip.b.toNat), .ofNat (ip.c.toNat * 256 + ip.d.toNat)]

/-- Groups read from the front of a text. -/
structure Groups where
  /-- The groups. -/
  groups : List UInt16
  /-- Whether the last two were written as an IPv4 address. -/
  endsInIPv4 : Bool
  /-- What was not read. -/
  rest : List Char

/-- Reads as many groups as there are, up to a limit. -/
def groupsFront : Nat → Bool → List Char → Groups
  | 0, _, cs => ⟨[], false, cs⟩
  | limit + 1, isFirst, cs =>
    let here := afterColon isFirst cs
    match if limit = 0 then none else here.bind IPv4.readFront with
    | some (ip, rest) => ⟨groupsOfIPv4 ip, true, rest⟩
    | none =>
      match here.bind groupFront with
      | none => ⟨[], false, cs⟩
      | some (group, rest) =>
        let more := groupsFront limit false rest
        { more with groups := group :: more.groups }

/-- The address of eight groups, if there are eight. -/
def ofGroups (groups : List UInt16) : Option IPv6 :=
  if h : groups.length = 8 then some ⟨groups, h⟩ else none

/-- Reads the whole of a text as an address. -/
def read (cs : List Char) : Option IPv6 :=
  let front := groupsFront 8 true cs
  if front.groups.length = 8 then
    if front.rest.isEmpty then ofGroups front.groups else none
  else if front.endsInIPv4 then none
  else match front.rest with
    | ':' :: ':' :: rest =>
      let back := groupsFront (8 - (front.groups.length + 1)) true rest
      if back.rest.isEmpty then
        let zeros := 8 - (front.groups.length + back.groups.length)
        ofGroups (front.groups ++ List.replicate zeros 0 ++ back.groups)
      else none
    | _ => none

/-- Reads the whole of a text as an address, which may be followed by a percent sign and the zone in
which it holds: a number of 32 bits. -/
def readZoned (cs : List Char) : Option IPv6 :=
  match Text.cutFirst '%' cs with
  | none => read cs
  | some (front, zone) =>
    if (Text.readDigits 10 zone).any (· < UInt32.size) then read front else none

/-! ## Writing -/

/-- A run of groups: where it begins, and how many there are. -/
structure Run where
  /-- The position of its first group. -/
  start : Nat
  /-- The number of groups. -/
  length : Nat

/-- The first of the longest runs of zero groups, given the longest one so far and the run that ends
before position `i`. -/
def longestZeros (i : Nat) (longest current : Run) : List UInt16 → Run
  | [] => longest
  | g :: gs =>
    if g = 0 then
      let current := ⟨if current.length = 0 then i else current.start, current.length + 1⟩
      longestZeros (i + 1) (if longest.length < current.length then current else longest) current gs
    else longestZeros (i + 1) longest ⟨0, 0⟩ gs

/-- Groups in hexadecimal, with colons between them. -/
def groupsText (groups : List UInt16) : String :=
  ":".intercalate (groups.map fun g ↦ String.ofList (Nat.toDigits 16 g.toNat))

/-- The IPv4 address that the last two groups hold when the group before them is `ffff` and all
others are zero. -/
def embedded (ip : IPv6) : Option IPv4 :=
  match ip.groups with
  | [0, 0, 0, 0, 0, 0xFFFF, g, h] =>
    some ⟨.ofNat (g.toNat / 256), .ofNat g.toNat, .ofNat (h.toNat / 256), .ofNat h.toNat⟩
  | _ => none

/-- The canonical text of an address. -/
def text (ip : IPv6) : String :=
  match ip.embedded with
  | some v4 => "::ffff:" ++ v4.text
  | none =>
    let zeros := longestZeros 0 ⟨0, 0⟩ ⟨0, 0⟩ ip.groups
    if 1 < zeros.length then
      groupsText (ip.groups.take zeros.start) ++ "::" ++
        groupsText (ip.groups.drop (zeros.start + zeros.length))
    else groupsText ip.groups

end IPv6

end MeshSurvey
