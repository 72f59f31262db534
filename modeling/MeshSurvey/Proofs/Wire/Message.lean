import MeshSurvey.Proofs.Collect
import MeshSurvey.Proofs.Wire.Record
import MeshSurvey.Wire.Message

/-!
# Messages survive their bytes

A codec *restores* its values if their own payloads, merged in order into the default, give them
back. A message restores its structures if all its fields do and are *separate*: each field is read
and written by itself, and the fields together are the structure. The fields of a structure are
separate because they are its projections, so that every law but one holds by computation; what
carries a proof is the law that the codecs restore.

Nothing is restored whose bytes cannot be counted in 64 bits.
-/

namespace MeshSurvey.Wire

variable {σ α : Type}

/-- The codec restores its values, in messages below which others nest `depth` deep. -/
structure Codec.Restores (c : Codec α) (depth : Nat) : Prop where
  /-- What is written is numbers and bytes. -/
  isPlain : ∀ x, ∀ p ∈ c.write x, p.IsPlain
  /-- It is only bytes if it is read as such. -/
  isBytes : c.counted = true → ∀ x, ∀ p ∈ c.write x, ∃ text, p = .bytes text
  /-- It merges into the value again. -/
  merge_write : ∀ d, depth ≤ d → ∀ x, (∀ p ∈ c.write x, p.Counts) →
    (c.write x).foldlM (c.merge d) c.default = some x

/-- A payload is such as the codec may be given: numbers or bytes, and only bytes if it is read as
such. -/
def Codec.Admits (c : Codec α) (p : Payload) : Prop :=
  p.IsPlain ∧ (c.counted = true → ∃ text, p = .bytes text)

theorem Codec.admits_bytes (c : Codec α) (text : Bytes) : c.Admits (.bytes text) :=
  ⟨.bytes text, fun _ ↦ ⟨text, rfl⟩⟩

theorem Codec.Restores.admits {c : Codec α} {depth : Nat} (h : c.Restores depth) {x : α}
    {p : Payload} (hp : p ∈ c.write x) : c.Admits p :=
  ⟨h.isPlain x p hp, fun hcounted ↦ h.isBytes hcounted x p hp⟩

theorem Codec.Restores.mono {c : Codec α} {depth depth' : Nat} (h : c.Restores depth)
    (hle : depth ≤ depth') : c.Restores depth' where
  isPlain := h.isPlain
  isBytes := h.isBytes
  merge_write d hd := h.merge_write d (Nat.le_trans hle hd)

/-- The message restores its structures, if messages below it nest fewer than `depth` deep. -/
def Message.Restores (m : Message σ) (depth : Nat) : Prop :=
  ∀ d, depth ≤ d → ∀ x, (m.encode x).length < UInt64.size →
    m.mergeBytes d m.empty (m.encode x) = some x

theorem Message.Restores.mono {m : Message σ} {depth depth' : Nat} (h : m.Restores depth)
    (hle : depth ≤ depth') : m.Restores depth' :=
  fun d hd ↦ h d (Nat.le_trans hle hd)

/-- Putting a value into one of two fields does not change the other, and they have different
numbers. -/
def Field.Apart (f g : Field σ) : Prop :=
  f.number ≠ g.number ∧ (∀ v x, g.get (f.set v x) = g.get x) ∧ ∀ v x, f.get (g.set v x) = f.get x

theorem Field.Apart.symm {f g : Field σ} (h : f.Apart g) : g.Apart f :=
  ⟨h.1.symm, h.2.2, h.2.1⟩

/-- A field may have its number, holds what was put into it, has its default in the empty
structure, and is restored. -/
structure Field.Sound (f : Field σ) (empty : σ) (depth : Nat) : Prop where
  /-- The number is such as a field may have. -/
  isField : Key.IsField f.number
  /-- A value that was put into the field is there. -/
  get_set : ∀ v x, f.get (f.set v x) = v
  /-- The field of the empty structure has its default. -/
  get_empty : f.get empty = f.codec.default
  /-- The values are restored. -/
  restores : f.codec.Restores depth

/-- The message has sound fields apart from each other, and nothing besides. -/
structure Message.Lawful (m : Message σ) (depth : Nat) : Prop where
  /-- Reading a message at all takes one level. -/
  depth_pos : 1 ≤ depth
  /-- Fields are sound. -/
  sound : ∀ f ∈ m.fields, f.Sound m.empty depth
  /-- Fields are apart from each other. -/
  apart : m.fields.Pairwise Field.Apart
  /-- There is nothing in a structure besides its fields. -/
  ext : ∀ x y, (∀ f ∈ m.fields, f.get x = f.get y) → x = y

theorem Message.Lawful.mono {m : Message σ} {depth depth' : Nat} (h : m.Lawful depth)
    (hle : depth ≤ depth') : m.Lawful depth' where
  depth_pos := Nat.le_trans h.depth_pos hle
  sound f hf :=
    have hsound := h.sound f hf
    ⟨hsound.isField, hsound.get_set, hsound.get_empty, hsound.restores.mono hle⟩
  apart := h.apart
  ext := h.ext

namespace Message

variable {m : Message σ} {depth : Nat}

theorem Lawful.field?_eq (h : m.Lawful depth) {f : Field σ} (hf : f ∈ m.fields) :
    m.field? f.number = some f :=
  find?_key_eq_some (h.apart.imp fun hapart ↦ hapart.1) hf

theorem Lawful.get_set_of_ne (h : m.Lawful depth) {f g : Field σ} (hf : f ∈ m.fields)
    (hg : g ∈ m.fields) (hne : g.number ≠ f.number) (v : f.Value) (x : σ) :
    g.get (f.set v x) = g.get x := by
  have hapart : g.Apart f := rel_of_pairwise (fun _ _ ↦ Field.Apart.symm) h.apart hg hf hne
  exact hapart.2.2 v x

theorem exists_field_of_mem_records {x : σ} {r : Record} (hr : r ∈ m.records x) :
    ∃ f ∈ m.fields, r.1 = f.number ∧ r.2 ∈ f.codec.write (f.get x) := by
  obtain ⟨f, hf, hr⟩ := List.mem_flatMap.mp hr
  obtain ⟨p, hp, rfl⟩ := List.mem_map.mp hr
  exact ⟨f, hf, rfl, hp⟩

theorem length_le_of_mem_write {x : σ} {f : Field σ} (hf : f ∈ m.fields) {text : Bytes}
    (htext : .bytes text ∈ f.codec.write (f.get x)) : text.length ≤ (m.encode x).length :=
  length_le_of_mem (List.mem_flatMap.mpr ⟨f, hf, List.mem_map.mpr ⟨_, htext, rfl⟩⟩)

/-- The payloads of a field among records, in their order. -/
def payloadsOf (number : Nat) (records : List Record) : List Payload :=
  records.filterMap fun r ↦ if r.1 = number then some r.2 else none

@[simp] theorem payloadsOf_cons (number : Nat) (r : Record) (records : List Record) :
    payloadsOf number (r :: records) =
      if r.1 = number then r.2 :: payloadsOf number records else payloadsOf number records := by
  rw [payloadsOf, List.filterMap_cons]
  split <;> simp_all [payloadsOf]

theorem mem_payloadsOf {number : Nat} {records : List Record} {p : Payload} :
    p ∈ payloadsOf number records ↔ (number, p) ∈ records := by
  rw [payloadsOf, List.mem_filterMap]
  constructor
  · rintro ⟨r, hr, h⟩
    split at h
    next hnumber =>
      obtain rfl := Option.some.inj h
      exact hnumber ▸ hr
    next => cases h
  · exact fun h ↦ ⟨(number, p), h, if_pos rfl⟩

theorem payloadsOf_field_records (number : Nat) (f : Field σ) (x : σ) :
    payloadsOf number (f.records x) =
      if f.number = number then f.codec.write (f.get x) else [] := by
  rw [payloadsOf, Field.records, List.filterMap_map]
  split
  next h => simp only [Function.comp_def, if_pos h, List.filterMap_some]
  next h => exact List.filterMap_eq_nil_iff.mpr fun p _ ↦ if_neg h

/-- A field has its own payloads among the records of a structure. -/
theorem Lawful.payloadsOf_records (h : m.Lawful depth) {f : Field σ} (hf : f ∈ m.fields) (x : σ) :
    payloadsOf f.number (m.records x) = f.codec.write (f.get x) := by
  obtain ⟨before, after, hfields⟩ := List.append_of_mem hf
  have hdistinct := h.apart
  rw [hfields, List.pairwise_append, List.pairwise_cons] at hdistinct
  obtain ⟨-, ⟨hafter, -⟩, hbefore⟩ := hdistinct
  -- a field with another number, before this one or behind it, gives none of its payloads
  have hnone : ∀ fields : List (Field σ), (∀ g ∈ fields, g.number ≠ f.number) →
      fields.flatMap (fun g ↦ payloadsOf f.number (g.records x)) = [] := by
    intro fields hne
    refine List.flatMap_eq_nil_iff.mpr fun g hg ↦ ?_
    rw [payloadsOf_field_records, if_neg (hne g hg)]
  have hflat : payloadsOf f.number (m.records x) =
      m.fields.flatMap fun g ↦ payloadsOf f.number (g.records x) := List.filterMap_flatMap
  rw [hflat, hfields, List.flatMap_append, List.flatMap_cons,
    hnone before fun g hg ↦ (hbefore g hg f List.mem_cons_self).1,
    hnone after fun g hg ↦ (hafter g hg).1.symm, payloadsOf_field_records, if_pos rfl,
    List.nil_append, List.append_nil]

/-- Records make a structure if the payloads of each field make its value. Records of fields that
are not declared do not matter, nor does how the records of different fields follow each other. -/
theorem Lawful.foldlM_mergeRecord (h : m.Lawful depth) {d : Nat} {records : List Record} {x y : σ}
    (hfields : ∀ f ∈ m.fields,
      (payloadsOf f.number records).foldlM (f.codec.merge d) (f.get y) = some (f.get x)) :
    records.foldlM (m.mergeRecord d) y = some x := by
  -- by induction on the records that are left; what they change of a field is up to its payloads
  induction records generalizing y with
  | nil => exact congrArg some (h.ext y x fun f hf ↦ Option.some.inj (hfields f hf))
  | cons r records ih =>
    cases hfield : m.field? r.1 with
    | none =>
      have hmerge : m.mergeRecord d y r = some y := by simp only [mergeRecord, hfield]
      rw [List.foldlM_cons, hmerge]
      refine ih fun f hf ↦ ?_
      have hne : r.1 ≠ f.number := by
        intro heq
        rw [heq, h.field?_eq hf] at hfield
        cases hfield
      have hf' := hfields f hf
      rwa [payloadsOf_cons, if_neg hne] at hf'
    | some f =>
      have hf : f ∈ m.fields := List.mem_of_find?_eq_some hfield
      have hnumber : f.number = r.1 := by
        rw [field?] at hfield
        simpa using List.find?_some hfield
      have hf' := hfields f hf
      rw [payloadsOf_cons, if_pos hnumber.symm, List.foldlM_cons] at hf'
      obtain ⟨w, hw, hrest⟩ := Option.bind_eq_some_iff.mp hf'
      have hmerge : m.mergeRecord d y r = some (f.set w y) := by
        simp only [mergeRecord, hfield, Field.merge, hw, Option.map_some]
      rw [List.foldlM_cons, hmerge]
      refine ih fun g hg ↦ ?_
      by_cases hne : g.number = f.number
      · obtain rfl : g = f := by
          have hfind := h.field?_eq hg
          rw [hne, h.field?_eq hf] at hfind
          exact (Option.some.inj hfind).symm
        rwa [(h.sound g hg).get_set]
      · have hg' := hfields g hg
        rw [payloadsOf_cons, if_neg (hnumber ▸ Ne.symm hne)] at hg'
        rwa [h.get_set_of_ne hf hg hne]

theorem Lawful.mergeBytes_encodeRecords (h : m.Lawful depth) {d : Nat} (hd : depth ≤ d)
    {records : List Record}
    (hrecords : ∀ r ∈ records, ∃ f ∈ m.fields, r.1 = f.number ∧ f.codec.Admits r.2)
    (hcount : (encodeRecords records).length < UInt64.size) {x : σ}
    (hfields : ∀ f ∈ m.fields,
      (payloadsOf f.number records).foldlM (f.codec.merge d) f.codec.default = some (f.get x)) :
    m.mergeBytes d m.empty (encodeRecords records) = some x := by
  have hread : readRecords m.isCounted d (encodeRecords records) = some records := by
    refine readRecords_encodeRecords (Nat.le_trans h.depth_pos hd) ?_ ?_ ?_ ?_
    · intro r hr
      obtain ⟨f, hf, hnumber, _⟩ := hrecords r hr
      rw [hnumber]
      exact (h.sound f hf).isField
    · intro r hr
      obtain ⟨f, hf, _, hadmits⟩ := hrecords r hr
      exact hadmits.1
    · rintro ⟨number, p⟩ hr text rfl
      exact Nat.lt_of_le_of_lt (length_le_of_mem hr) hcount
    · intro r hr hcounted
      obtain ⟨f, hf, hnumber, hadmits⟩ := hrecords r hr
      rw [isCounted, hnumber, h.field?_eq hf] at hcounted
      exact hadmits.2 hcounted
  rw [mergeBytes, hread]
  refine h.foldlM_mergeRecord fun f hf ↦ ?_
  rw [(h.sound f hf).get_empty]
  exact hfields f hf

/-- **A message with separate fields that are restored is restored.** -/
theorem Lawful.restores_message (h : m.Lawful depth) : m.Restores depth := by
  intro d hd x hx
  refine h.mergeBytes_encodeRecords hd (fun r hr ↦ ?_) hx fun f hf ↦ ?_
  · obtain ⟨f, hf, hnumber, hp⟩ := exists_field_of_mem_records hr
    exact ⟨f, hf, hnumber, (h.sound f hf).restores.admits hp⟩
  · have hcounts : ∀ p ∈ f.codec.write (f.get x), p.Counts := by
      rintro p hp text rfl
      exact Nat.lt_of_le_of_lt (length_le_of_mem_write hf hp) hx
    rw [h.payloadsOf_records hf]
    exact (h.sound f hf).restores.merge_write d hd (f.get x) hcounts

theorem Restores.decode_encode (h : m.Restores depth) (hdepth : depth ≤ maxDepth) {x : σ}
    (hx : (m.encode x).length < UInt64.size) : m.decode (m.encode x) = some x :=
  h maxDepth hdepth x hx

end Message

end MeshSurvey.Wire
