import MeshSurvey.Wire.Varint

/-!
# Records

A message is a sequence of records. A record begins with a key, which holds the number of a field
and says how long the payload is: a number of variable length, four or eight bytes, a counted text
of bytes, or a group of records up to a closing key with the same field number. Groups nest only so
deep.
-/

namespace MeshSurvey.Wire

/-- The payload of a record. -/
inductive Payload where
  /-- A number of variable length. -/
  | varint (n : UInt64)
  /-- Eight bytes, least significant first. -/
  | fixed64 (n : UInt64)
  /-- A counted text of bytes. -/
  | bytes (text : Bytes)
  /-- Records between an opening and a closing key. -/
  | group (records : List (Nat × Payload))
  /-- Four bytes, least significant first. -/
  | fixed32 (n : UInt32)

/-- The number of a field, and a payload for it. -/
abbrev Record := Nat × Payload

/-! ## Keys -/

/-- How a payload is laid out, or the end of a group. -/
inductive Layout where
  /-- A number of variable length. -/
  | varint
  /-- Eight bytes. -/
  | fixed64
  /-- A counted text of bytes. -/
  | bytes
  /-- The beginning of a group. -/
  | groupStart
  /-- The end of a group. -/
  | groupEnd
  /-- Four bytes. -/
  | fixed32
  deriving DecidableEq, Repr

namespace Layout

/-- The number of a layout in a key. -/
def code : Layout → Nat
  | .varint => 0
  | .fixed64 => 1
  | .bytes => 2
  | .groupStart => 3
  | .groupEnd => 4
  | .fixed32 => 5

/-- The layout with a number. -/
def ofCode? : Nat → Option Layout
  | 0 => some .varint
  | 1 => some .fixed64
  | 2 => some .bytes
  | 3 => some .groupStart
  | 4 => some .groupEnd
  | 5 => some .fixed32
  | _ => none

theorem ofCode?_code (l : Layout) : ofCode? l.code = some l := by cases l <;> rfl

end Layout

/-- What a record begins with. -/
structure Key where
  /-- The number of the field. -/
  field : Nat
  /-- The layout of the payload. -/
  layout : Layout
  deriving DecidableEq, Repr

namespace Key

/-- The bytes of a key. -/
def encode (key : Key) : Bytes := Varint.encode (.ofNat (key.field * 8 + key.layout.code))

/-- Reads the key that a text begins with. A key has 32 bits, and no field has the number 0. -/
def decode (bytes : Bytes) : Option (Key × Bytes) := do
  let (n, rest) ← Varint.decode bytes
  let layout ← Layout.ofCode? (n.toNat % 8)
  if n.toNat < UInt32.size ∧ 8 ≤ n.toNat then return (⟨n.toNat / 8, layout⟩, rest) else none

end Key

/-! ## Writing -/

/-- The lowest `count` bytes of a number, least significant first. -/
def littleEndian : (count : Nat) → Nat → Bytes
  | 0, _ => []
  | count + 1, n => .ofNat n :: littleEndian count (n / 256)

mutual

/-- The bytes of a record of the given field. -/
def Payload.encode (field : Nat) : Payload → Bytes
  | .varint n => Key.encode ⟨field, .varint⟩ ++ Varint.encode n
  | .fixed64 n => Key.encode ⟨field, .fixed64⟩ ++ littleEndian 8 n.toNat
  | .bytes text => Key.encode ⟨field, .bytes⟩ ++ Varint.encode (.ofNat text.length) ++ text
  | .group records =>
    Key.encode ⟨field, .groupStart⟩ ++ encodeRecords records ++ Key.encode ⟨field, .groupEnd⟩
  | .fixed32 n => Key.encode ⟨field, .fixed32⟩ ++ littleEndian 4 n.toNat

/-- The bytes of records, one after another. -/
def encodeRecords : List (Nat × Payload) → Bytes
  | [] => []
  | (field, payload) :: records => payload.encode field ++ encodeRecords records

end

/-! ## Reading -/

/-- The number whose bytes, least significant first, a text is. -/
def ofLittleEndian (bytes : Bytes) : Nat :=
  bytes.foldr (fun b n ↦ b.toNat + 256 * n) 0

/-- Cuts off the first `count` bytes, if there are as many. -/
def cutBytes (count : Nat) (bytes : Bytes) : Option (Bytes × Bytes) :=
  if count ≤ bytes.length then some (bytes.take count, bytes.drop count) else none

/-- Reads a count and as many bytes. -/
def countedBytes (bytes : Bytes) : Option (Payload × Bytes) := do
  let (count, rest) ← Varint.decode bytes
  let (text, rest) ← cutBytes count.toNat rest
  return (.bytes text, rest)

/-- Reads records up to the closing key of a group. The second argument bounds their number. -/
def groupBody (payload : Key → Bytes → Option (Payload × Bytes)) (field : Nat) :
    Nat → Bytes → Option (List Record × Bytes)
  | 0, _ => none
  | bound + 1, bytes => do
    let (key, rest) ← Key.decode bytes
    if key.layout = .groupEnd then
      if key.field = field then return ([], rest) else none
    else
      let (p, rest) ← payload key rest
      let (ps, rest) ← groupBody payload field bound rest
      return ((key.field, p) :: ps, rest)

/-- Reads the payload that follows a key, of groups that nest fewer than `depth` deep. -/
def readPayload : (depth : Nat) → Key → Bytes → Option (Payload × Bytes)
  | 0, _, _ => none
  | depth + 1, key, bytes =>
    match key.layout with
    | .varint => (Varint.decode bytes).map fun (n, rest) ↦ (.varint n, rest)
    | .fixed64 =>
      (cutBytes 8 bytes).map fun (b, rest) ↦ (.fixed64 (.ofNat (ofLittleEndian b)), rest)
    | .bytes => countedBytes bytes
    | .groupStart =>
      (groupBody (readPayload depth) key.field bytes.length bytes).map fun (rs, rest) ↦
        (.group rs, rest)
    | .groupEnd => none
    | .fixed32 =>
      (cutBytes 4 bytes).map fun (b, rest) ↦ (.fixed32 (.ofNat (ofLittleEndian b)), rest)

/-- Reads the record that a text begins with. The payload of a `counted` field is taken to be
counted bytes whatever its key says. -/
def readRecord (counted : Nat → Bool) (depth : Nat) (bytes : Bytes) : Option (Record × Bytes) := do
  let (key, rest) ← Key.decode bytes
  let (payload, rest) ←
    if counted key.field then countedBytes rest else readPayload depth key rest
  return ((key.field, payload), rest)

/-- Reads a whole text as records. The third argument bounds their number. -/
def readRecordsWithin (counted : Nat → Bool) (depth : Nat) : Nat → Bytes → Option (List Record)
  | _, [] => some []
  | 0, _ :: _ => none
  | bound + 1, bytes@(_ :: _) => do
    let (record, rest) ← readRecord counted depth bytes
    let records ← readRecordsWithin counted depth bound rest
    return record :: records

/-- Reads a whole text as records. -/
def readRecords (counted : Nat → Bool) (depth : Nat) (bytes : Bytes) : Option (List Record) :=
  readRecordsWithin counted depth bytes.length bytes

end MeshSurvey.Wire
