import MeshSurvey.KeyMap
import MeshSurvey.Wire.Record

/-!
# Messages

A message type is a list of numbered fields over a structure. A field says which payloads carry its
value and how one more payload changes the value; a value's default takes no payload. To decode a
message is to merge its records, in the order in which they come, into the default structure;
records of other fields change nothing.

What a field does is a *codec* of its value. Scalars and texts take the last payload, lists append
it, messages merge it into the message that is there, and a map replaces the entry with its key.
-/

namespace MeshSurvey.Wire

/-- Messages and groups together nest at most this deep. -/
def maxDepth : Nat := 100

/-! ## Codecs -/

/-- How the value of a field is carried by payloads. -/
structure Codec (α : Type) where
  /-- The value of a field without payloads. -/
  default : α
  /-- The payloads that carry a value. -/
  write : α → List Payload
  /-- The value after one more payload, in a message below which others may nest `depth` deep. -/
  merge : (depth : Nat) → α → Payload → Option α
  /-- Whether payloads are counted bytes whatever their keys say. -/
  counted : Bool := false

/-- A field of a structure. -/
structure Field (σ : Type) where
  /-- The type of the value. -/
  Value : Type
  /-- The number of the field. -/
  number : Nat
  /-- The value in a structure. -/
  get : σ → Value
  /-- Puts a value into a structure. -/
  set : Value → σ → σ
  /-- How the value is carried. -/
  codec : Codec Value

namespace Field

variable {σ : Type}

/-- The records of a field. -/
def records (f : Field σ) (x : σ) : List Record :=
  (f.codec.write (f.get x)).map (f.number, ·)

/-- Merges one more payload into a structure. -/
def merge (f : Field σ) (depth : Nat) (x : σ) (p : Payload) : Option σ :=
  (f.codec.merge depth (f.get x) p).map (f.set · x)

end Field

/-- A message type over a structure. -/
structure Message (σ : Type) where
  /-- The structure in which every field has its default. -/
  empty : σ
  /-- The fields, in ascending order of their numbers. -/
  fields : List (Field σ)

namespace Message

variable {σ : Type}

/-- The field with a number. -/
def field? (m : Message σ) (number : Nat) : Option (Field σ) :=
  m.fields.find? (·.number = number)

/-- Whether payloads of a field are counted bytes whatever their keys say. -/
def isCounted (m : Message σ) (number : Nat) : Bool :=
  match m.field? number with
  | some f => f.codec.counted
  | none => false

/-- Merges a record. A record of a field that the type does not declare changes nothing. -/
def mergeRecord (m : Message σ) (depth : Nat) (x : σ) (r : Record) : Option σ :=
  match m.field? r.1 with
  | some f => f.merge depth x r.2
  | none => some x

/-- Merges a whole text of records into a structure. -/
def mergeBytes (m : Message σ) (depth : Nat) (x : σ) (bytes : Bytes) : Option σ := do
  (← readRecords m.isCounted depth bytes).foldlM (m.mergeRecord depth) x

/-- The records of a structure, field by field. -/
def records (m : Message σ) (x : σ) : List Record := m.fields.flatMap (·.records x)

/-- The bytes of a structure. -/
def encode (m : Message σ) (x : σ) : Bytes := encodeRecords (m.records x)

/-- The structure that a text of bytes denotes. -/
def decode (m : Message σ) (bytes : Bytes) : Option σ := m.mergeBytes maxDepth m.empty bytes

end Message

namespace Codec

/-! ## Scalars and texts -/

/-- The text whose UTF-8 encoding the bytes are. -/
def textOfBytes? (bytes : Bytes) : Option String := String.fromUTF8? ⟨bytes.toArray⟩

/-- The UTF-8 encoding of a text. -/
def bytesOfText (text : String) : Bytes := text.toUTF8.data.toList

/-- A text. -/
def text : Codec String where
  default := ""
  write s := if s = "" then [] else [.bytes (bytesOfText s)]
  merge
    | _, _, .bytes b => textOfBytes? b
    | _, _, _ => none

/-- Bytes. -/
def bytes : Codec Bytes where
  default := []
  write b := if b.isEmpty then [] else [.bytes b]
  merge
    | _, _, .bytes b => some b
    | _, _, _ => none

/-- A truth value: any number but zero is true. -/
def flag : Codec Bool where
  default := false
  write b := if b then [.varint 1] else []
  merge
    | _, _, .varint n => some (n ≠ 0)
    | _, _, _ => none

/-- An unsigned number of 32 bits: the lowest bits of the number carried. -/
def unsigned : Codec UInt32 where
  default := 0
  write n := if n = 0 then [] else [.varint n.toUInt64]
  merge
    | _, _, .varint n => some n.toUInt32
    | _, _, _ => none

/-- A signed number of 32 bits: the lowest bits of the number carried, which repeats the sign in its
higher bits. -/
def signed : Codec Int32 where
  default := 0
  write n := if n = 0 then [] else [.varint n.toInt64.toUInt64]
  merge
    | _, _, .varint n => some n.toUInt32.toInt32
    | _, _, _ => none

/-! ## Messages, lists and maps -/

/-- Merges counted bytes into a nested message. -/
def mergeNested {μ : Type} (m : Message μ) (depth : Nat) (x : μ) : Payload → Option μ
  | .bytes b =>
    match depth with
    | 0 => none
    | depth + 1 => m.mergeBytes depth x b
  | _ => none

/-- A message that may be absent. -/
def optional {μ : Type} (m : Message μ) : Codec (Option μ) where
  default := none
  write
    | some x => [.bytes (m.encode x)]
    | none => []
  merge depth old p := (mergeNested m depth (old.getD m.empty) p).map some

/-- A list of texts. -/
def texts : Codec (List String) where
  default := []
  write ss := ss.map fun s ↦ .bytes (bytesOfText s)
  merge depth ss p := (text.merge depth "" p).map fun s ↦ ss ++ [s]

/-- A list of messages. -/
def messages {μ : Type} (m : Message μ) : Codec (List μ) where
  default := []
  write xs := xs.map fun x ↦ .bytes (m.encode x)
  merge depth xs p := (mergeNested m depth m.empty p).map fun x ↦ xs ++ [x]

/-- A message as a value of its own, written only if it has any records. -/
def plain {μ : Type} (m : Message μ) : Codec μ where
  default := m.empty
  write x := if (m.records x).isEmpty then [] else [.bytes (m.encode x)]
  merge := mergeNested m

/-- An entry of a map: the key is its first field and the value its second. -/
def entry {κ ν : Type} (key : Codec κ) (value : Codec ν) : Message (κ × ν) where
  empty := (key.default, value.default)
  fields := [
    { Value := κ, number := 1, get := (·.1), set := fun k e ↦ (k, e.2), codec := key },
    { Value := ν, number := 2, get := (·.2), set := fun v e ↦ (e.1, v), codec := value }]

/-- A map, entry by entry. -/
def map {κ ν : Type} [Ord κ] [Std.TransOrd κ] [Std.LawfulEqOrd κ] (key : Codec κ)
    (value : Codec ν) : Codec (KeyMap κ ν) where
  default := .empty
  write m := m.entries.map fun e ↦ .bytes ((entry key value).encode e)
  merge depth m p :=
    (mergeNested (entry key value) depth (key.default, value.default) p).map fun e ↦
      m.insert e.1 e.2
  counted := true

end Codec

end MeshSurvey.Wire
