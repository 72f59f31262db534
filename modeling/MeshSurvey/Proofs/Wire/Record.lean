import MeshSurvey.Wire.Record

/-!
# Records survive their bytes

What is written can be read again. Each reader is shown to take exactly what the writer of the same
thing has put in front of any other bytes, so that the readers compose as the writers do: numbers,
keys, payloads, records, and lists of records.

A writer of counted bytes needs a count of 64 bits. Groups and payloads of fixed length are never
written by the codecs, and are left out here.
-/

namespace MeshSurvey.Wire

/-! ## Numbers -/

namespace Varint

/-- What is less than this fits into `more + 1` bytes. -/
def limit : (more : Nat) → Nat
  | 0 => 2
  | more + 1 => 128 * limit more

theorem limit_nine : limit 9 = UInt64.size := rfl

theorem decodeWithin_encodeWithin (more n : Nat) (h : n < limit more) (rest : Bytes) :
    decodeWithin more (encodeWithin more n ++ rest) = some (n, rest) := by
  induction more generalizing n with
  | zero =>
    have hn : n < 2 := h
    have hbyte : UInt8.ofNat n < 2 := by
      rw [UInt8.lt_iff_toNat_lt, UInt8.toNat_ofNat']
      exact Nat.lt_of_le_of_lt (Nat.mod_le n _) hn
    have hvalue : (UInt8.ofNat n).toNat = n := by
      rw [UInt8.toNat_ofNat', Nat.mod_eq_of_lt]
      omega
    rw [encodeWithin, List.singleton_append, decodeWithin, if_pos hbyte, hvalue]
  | succ more ih =>
    rw [encodeWithin]
    split
    next hn =>
      have hvalue : (UInt8.ofNat n).toNat = n := by
        rw [UInt8.toNat_ofNat', Nat.mod_eq_of_lt]
        omega
      have hbyte : UInt8.ofNat n < 128 := by
        rw [UInt8.lt_iff_toNat_lt, hvalue]
        exact hn
      rw [List.singleton_append, decodeWithin, if_pos hbyte, hvalue]
    next hn =>
      -- the byte keeps seven bits of the number and says that there are more
      have hvalue : (UInt8.ofNat (n % 128 + 128)).toNat = n % 128 + 128 := by
        rw [UInt8.toNat_ofNat', Nat.mod_eq_of_lt]
        omega
      have hbyte : ¬ UInt8.ofNat (n % 128 + 128) < 128 := by
        rw [UInt8.lt_iff_toNat_lt, hvalue]
        exact Nat.not_lt.mpr (Nat.le_add_left 128 _)
      have hdiv : n / 128 < limit more := by
        rw [Nat.div_lt_iff_lt_mul (by decide), Nat.mul_comm]
        exact h
      rw [List.cons_append, decodeWithin, if_neg hbyte, ih _ hdiv, Option.map_some, hvalue,
        Nat.add_sub_cancel]
      exact congrArg (fun m ↦ some (m, rest)) (Nat.mod_add_div n 128)

theorem decode_encode (n : UInt64) (rest : Bytes) : decode (encode n ++ rest) = some (n, rest) := by
  have hn : n.toNat < limit 9 := by
    rw [limit_nine]
    exact n.toNat_lt
  rw [decode, encode, decodeWithin_encodeWithin 9 _ hn, Option.map_some]
  exact congrArg (fun m ↦ some (m, rest)) UInt64.ofNat_toNat

theorem encodeWithin_ne_nil (more n : Nat) : encodeWithin more n ≠ [] := by
  cases more with
  | zero => exact List.cons_ne_nil _ _
  | succ more =>
    rw [encodeWithin]
    split
    · exact List.cons_ne_nil _ _
    · exact List.cons_ne_nil _ _

end Varint

/-! ## Keys -/

namespace Key

/-- The numbers that fields may have. -/
def IsField (number : Nat) : Prop := 1 ≤ number ∧ number < 536870912

instance (number : Nat) : Decidable (IsField number) :=
  inferInstanceAs (Decidable (1 ≤ number ∧ number < 536870912))

theorem code_lt (l : Layout) : l.code < 8 := by cases l <;> decide

theorem decode_encode {key : Key} (h : IsField key.field) (rest : Bytes) :
    decode (key.encode ++ rest) = some (key, rest) := by
  obtain ⟨hpos, hlt⟩ := h
  have hcode := code_lt key.layout
  have hvalue : (UInt64.ofNat (key.field * 8 + key.layout.code)).toNat =
      key.field * 8 + key.layout.code := by
    rw [UInt64.toNat_ofNat', Nat.mod_eq_of_lt]
    omega
  have hmod : (key.field * 8 + key.layout.code) % 8 = key.layout.code := by omega
  have hdiv : (key.field * 8 + key.layout.code) / 8 = key.field := by omega
  have hsize : key.field * 8 + key.layout.code < UInt32.size ∧
      8 ≤ key.field * 8 + key.layout.code := by
    rw [UInt32.size]
    omega
  simp only [decode, encode, Varint.decode_encode, Option.bind_eq_bind, Option.bind_some, hvalue,
    hmod, Layout.ofCode?_code, if_pos hsize, hdiv]
  rfl

theorem encode_ne_nil (key : Key) : key.encode ≠ [] := Varint.encodeWithin_ne_nil _ _

end Key

/-! ## Records -/

/-- A payload of the two forms that the codecs write. -/
inductive Payload.IsPlain : Payload → Prop where
  /-- A number. -/
  | varint (n : UInt64) : IsPlain (.varint n)
  /-- Counted bytes. -/
  | bytes (text : Bytes) : IsPlain (.bytes text)

/-- The bytes of a payload can be counted. -/
def Payload.Counts (p : Payload) : Prop := ∀ text, p = .bytes text → text.length < UInt64.size

theorem cutBytes_append (front back : Bytes) :
    cutBytes front.length (front ++ back) = some (front, back) := by
  rw [cutBytes, if_pos (by rw [List.length_append]; exact Nat.le_add_right _ _), List.take_left,
    List.drop_left]

theorem countedBytes_append {text : Bytes} (h : text.length < UInt64.size) (rest : Bytes) :
    countedBytes (Varint.encode (.ofNat text.length) ++ text ++ rest) =
      some (.bytes text, rest) := by
  have hcount : (UInt64.ofNat text.length).toNat = text.length := by
    rw [UInt64.toNat_ofNat', Nat.mod_eq_of_lt h]
  rw [countedBytes, List.append_assoc, Varint.decode_encode]
  simp only [Option.bind_eq_bind, Option.bind_some, hcount, cutBytes_append]
  rfl

/-- A record is read back in front of any other bytes. A field whose payloads are taken to be
counted bytes has to have such a payload. -/
theorem readRecord_append {counted : Nat → Bool} {depth : Nat} (hdepth : 1 ≤ depth) {field : Nat}
    (hfield : Key.IsField field) {p : Payload} (hp : p.IsPlain) (hcounts : p.Counts)
    (hcounted : counted field = true → ∃ text, p = .bytes text) (rest : Bytes) :
    readRecord counted depth (p.encode field ++ rest) = some ((field, p), rest) := by
  obtain ⟨depth, rfl⟩ : ∃ d, depth = d + 1 := ⟨depth - 1, by omega⟩
  cases hp with
  | varint n =>
    have hnot : ¬ counted field = true := fun h ↦ by
      obtain ⟨_, h⟩ := hcounted h
      cases h
    rw [Payload.encode, List.append_assoc, readRecord, Key.decode_encode hfield]
    simp only [Option.bind_eq_bind, Option.bind_some, if_neg hnot, readPayload,
      Varint.decode_encode, Option.map_some]
    rfl
  | bytes text =>
    have hread := countedBytes_append (hcounts text rfl) rest
    rw [Payload.encode, List.append_assoc, List.append_assoc, readRecord,
      Key.decode_encode hfield]
    rw [List.append_assoc] at hread
    simp only [Option.bind_eq_bind, Option.bind_some, readPayload, hread, ite_self]
    rfl

theorem encode_payload_ne_nil (field : Nat) (p : Payload) : p.encode field ≠ [] := by
  cases p with
  | varint n => exact List.append_ne_nil_of_left_ne_nil (Key.encode_ne_nil _) _
  | fixed64 n => exact List.append_ne_nil_of_left_ne_nil (Key.encode_ne_nil _) _
  | bytes text =>
    rw [Payload.encode, List.append_assoc]
    exact List.append_ne_nil_of_left_ne_nil (Key.encode_ne_nil _) _
  | group records =>
    rw [Payload.encode, List.append_assoc]
    exact List.append_ne_nil_of_left_ne_nil (Key.encode_ne_nil _) _
  | fixed32 n => exact List.append_ne_nil_of_left_ne_nil (Key.encode_ne_nil _) _

theorem length_le_length_encodeRecords (records : List Record) :
    records.length ≤ (encodeRecords records).length := by
  induction records with
  | nil => exact Nat.le_refl 0
  | cons r records ih =>
    have hpos := List.length_pos_iff.mpr (encode_payload_ne_nil r.1 r.2)
    rw [encodeRecords, List.length_append, List.length_cons]
    omega

theorem readRecordsWithin_encodeRecords {counted : Nat → Bool} {depth : Nat} (hdepth : 1 ≤ depth)
    {records : List Record} (hfields : ∀ r ∈ records, Key.IsField r.1)
    (hplain : ∀ r ∈ records, r.2.IsPlain) (hcounts : ∀ r ∈ records, r.2.Counts)
    (hcounted : ∀ r ∈ records, counted r.1 = true → ∃ text, r.2 = .bytes text) {bound : Nat}
    (hbound : records.length ≤ bound) :
    readRecordsWithin counted depth bound (encodeRecords records) = some records := by
  induction records generalizing bound with
  | nil => rw [encodeRecords, readRecordsWithin]
  | cons r records ih =>
    obtain ⟨bound, rfl⟩ : ∃ b, bound = b + 1 := by
      rw [List.length_cons] at hbound
      exact ⟨bound - 1, by omega⟩
    obtain ⟨hfield, hfields⟩ := List.forall_mem_cons.mp hfields
    obtain ⟨hpayload, hplain⟩ := List.forall_mem_cons.mp hplain
    obtain ⟨hcount, hcounts⟩ := List.forall_mem_cons.mp hcounts
    obtain ⟨hbytes, hcounted⟩ := List.forall_mem_cons.mp hcounted
    have hread := readRecord_append hdepth hfield hpayload hcount hbytes (encodeRecords records)
    have hrest := ih hfields hplain hcounts hcounted (Nat.le_of_succ_le_succ hbound)
    obtain ⟨b, bytes, hcons⟩ := List.exists_cons_of_ne_nil
      (List.append_ne_nil_of_left_ne_nil (encode_payload_ne_nil r.1 r.2) (encodeRecords records))
    rw [encodeRecords, hcons, readRecordsWithin, ← hcons, hread]
    simp only [Option.bind_eq_bind, Option.bind_some, hrest]
    rfl

theorem length_le_of_mem {field : Nat} {text : Bytes} {records : List Record}
    (h : (field, Payload.bytes text) ∈ records) :
    text.length ≤ (encodeRecords records).length := by
  induction records with
  | nil => cases h
  | cons r records ih =>
    rw [encodeRecords, List.length_append]
    rcases List.mem_cons.mp h with rfl | h
    · rw [Payload.encode, List.length_append]
      omega
    · exact Nat.le_add_left_of_le (ih h)

/-- **Records are read back.** -/
theorem readRecords_encodeRecords {counted : Nat → Bool} {depth : Nat} (hdepth : 1 ≤ depth)
    {records : List Record} (hfields : ∀ r ∈ records, Key.IsField r.1)
    (hplain : ∀ r ∈ records, r.2.IsPlain) (hcounts : ∀ r ∈ records, r.2.Counts)
    (hcounted : ∀ r ∈ records, counted r.1 = true → ∃ text, r.2 = .bytes text) :
    readRecords counted depth (encodeRecords records) = some records :=
  readRecordsWithin_encodeRecords hdepth hfields hplain hcounts hcounted
    (length_le_length_encodeRecords records)

end MeshSurvey.Wire
