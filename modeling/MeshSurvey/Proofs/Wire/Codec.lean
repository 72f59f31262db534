import MeshSurvey.Proofs.KeyMap
import MeshSurvey.Proofs.Wire.Message

/-!
# Codecs restore their values

A scalar is written as one payload or, when it is the default, as none; a list and a map as one
payload for each item. So there are two arguments, one for each, and every codec is a case of one of
them. A codec for nested messages takes one level more than the messages do.
-/

namespace MeshSurvey.Wire

variable {α β μ κ ν : Type} {depth : Nat}

/-! ## Texts and numbers in bytes -/

theorem textOfBytes?_bytesOfText (s : String) :
    Codec.textOfBytes? (Codec.bytesOfText s) = some s := by
  have hbytes : (⟨(Codec.bytesOfText s).toArray⟩ : ByteArray) = s.toByteArray := rfl
  rw [Codec.textOfBytes?, hbytes, String.fromUTF8?, dif_pos s.isValidUTF8]
  rfl

/-- The lowest bits of a number with its sign repeated are the number. -/
theorem toInt32_toUInt32_toUInt64_toInt64 (n : Int32) :
    n.toInt64.toUInt64.toUInt32.toInt32 = n := by
  have hwide : (n.toBitVec.signExtend 64).signExtend 32 = n.toBitVec :=
    congrArg Int32.toBitVec n.toInt32_toInt64
  rw [BitVec.signExtend_eq_setWidth_of_le _ (by decide)] at hwide
  refine Int32.toBitVec_inj.mp (Eq.trans ?_ hwide)
  exact UInt64.toBitVec_toUInt32 n.toInt64.toUInt64

namespace Codec

/-! ## Defaults -/

@[simp] theorem default_text : text.default = "" := rfl

@[simp] theorem default_bytes : bytes.default = [] := rfl

@[simp] theorem default_texts : texts.default = [] := rfl

@[simp] theorem default_optional (m : Message μ) : (optional m).default = none := rfl

@[simp] theorem default_messages (m : Message μ) : (messages m).default = [] := rfl

@[simp] theorem default_map [Ord κ] [Std.TransOrd κ] [Std.LawfulEqOrd κ] (key : Codec κ)
    (value : Codec ν) : (map key value).default = ∅ := rfl

/-! ## At most one payload -/

/-- A codec restores its values if each is the default and written as nothing, or written as one
payload that merges into it. -/
theorem restores_of_atMostOne {c : Codec α} (hcounted : c.counted = false)
    (h : ∀ x, c.write x = [] ∧ x = c.default ∨ ∃ p, c.write x = [p] ∧ p.IsPlain ∧
      ∀ d, depth ≤ d → p.Counts → c.merge d c.default p = some x) :
    c.Restores depth where
  isPlain x p hp := by
    rcases h x with ⟨hwrite, _⟩ | ⟨q, hwrite, hplain, _⟩
    · rw [hwrite] at hp
      cases hp
    · rw [hwrite] at hp
      rwa [List.mem_singleton.mp hp]
  isBytes hc := by
    rw [hcounted] at hc
    cases hc
  merge_write d hd x hcounts := by
    rcases h x with ⟨hwrite, hx⟩ | ⟨p, hwrite, _, hmerge⟩
    · rw [hwrite, hx]
      rfl
    · rw [hwrite] at hcounts ⊢
      rw [List.foldlM_cons, hmerge d hd (hcounts p List.mem_cons_self)]
      rfl

@[simp] theorem text_restores : text.Restores depth := by
  refine restores_of_atMostOne rfl fun s ↦ ?_
  by_cases hs : s = ""
  · exact .inl ⟨if_pos hs, hs⟩
  · exact .inr ⟨.bytes (bytesOfText s), if_neg hs, .bytes _,
      fun _ _ _ ↦ textOfBytes?_bytesOfText s⟩

@[simp] theorem bytes_restores : bytes.Restores depth := by
  refine restores_of_atMostOne rfl fun b ↦ ?_
  rcases b with _ | ⟨first, rest⟩
  · exact .inl ⟨rfl, rfl⟩
  · exact .inr ⟨.bytes (first :: rest), rfl, .bytes _, fun _ _ _ ↦ rfl⟩

theorem flag_restores : flag.Restores depth := by
  refine restores_of_atMostOne rfl fun b ↦ ?_
  cases b with
  | false => exact .inl ⟨rfl, rfl⟩
  | true => exact .inr ⟨.varint 1, rfl, .varint _, fun _ _ _ ↦ rfl⟩

theorem unsigned_restores : unsigned.Restores depth := by
  refine restores_of_atMostOne rfl fun n ↦ ?_
  by_cases hn : n = 0
  · exact .inl ⟨if_pos hn, hn⟩
  · exact .inr ⟨.varint n.toUInt64, if_neg hn, .varint _,
      fun _ _ _ ↦ congrArg some n.toUInt32_toUInt64⟩

theorem signed_restores : signed.Restores depth := by
  refine restores_of_atMostOne rfl fun n ↦ ?_
  by_cases hn : n = 0
  · exact .inl ⟨if_pos hn, hn⟩
  · exact .inr ⟨.varint n.toInt64.toUInt64, if_neg hn, .varint _,
      fun _ _ _ ↦ congrArg some (toInt32_toUInt32_toUInt64_toInt64 n)⟩

/-! ## Nested messages -/

theorem mergeNested_encode {m : Message μ} (h : m.Restores depth) {d : Nat} (hd : depth + 1 ≤ d)
    {x : μ} (hx : (Payload.bytes (m.encode x)).Counts) :
    mergeNested m d m.empty (.bytes (m.encode x)) = some x := by
  obtain ⟨d, rfl⟩ : ∃ e, d = e + 1 := ⟨d - 1, by omega⟩
  exact h d (Nat.le_of_succ_le_succ hd) x (hx _ rfl)

theorem optional_restores {m : Message μ} (h : m.Restores depth) :
    (optional m).Restores (depth + 1) := by
  refine restores_of_atMostOne rfl fun o ↦ ?_
  cases o with
  | none => exact .inl ⟨rfl, rfl⟩
  | some x =>
    refine .inr ⟨.bytes (m.encode x), rfl, .bytes _, fun d hd hx ↦ ?_⟩
    exact congrArg (Option.map some) (mergeNested_encode h hd hx)

theorem eq_empty_of_records_eq_nil {m : Message μ} (h : m.Restores depth) {x : μ}
    (hx : m.records x = []) : x = m.empty := by
  have hencode : m.encode x = [] := by rw [Message.encode, hx, encodeRecords]
  have hmerge := h depth (Nat.le_refl depth) x (by rw [hencode]; decide)
  rw [hencode] at hmerge
  exact (Option.some.inj hmerge).symm

theorem plain_restores {m : Message μ} (h : m.Restores depth) :
    (plain m).Restores (depth + 1) := by
  refine restores_of_atMostOne rfl fun x ↦ ?_
  -- the test for being written is on the records, not on the structure
  cases hrecords : m.records x with
  | nil =>
    have hempty : (m.records x).isEmpty = true := by rw [hrecords, List.isEmpty_nil]
    exact .inl ⟨if_pos hempty, eq_empty_of_records_eq_nil h hrecords⟩
  | cons r rs =>
    have hempty : ¬ (m.records x).isEmpty = true := by
      rw [hrecords, List.isEmpty_cons]
      exact Bool.false_ne_true
    exact .inr ⟨.bytes (m.encode x), if_neg hempty, .bytes _,
      fun d hd hx ↦ mergeNested_encode h hd hx⟩

/-! ## One payload for each item -/

theorem foldlM_map_payload {merge : β → Payload → Option β} {payload : α → Payload}
    {step : β → α → β} {xs : List α}
    (hmerge : ∀ x ∈ xs, ∀ y, (payload x).Counts → merge y (payload x) = some (step y x))
    (hxs : ∀ p ∈ xs.map payload, p.Counts) (y : β) :
    (xs.map payload).foldlM merge y = some (xs.foldl step y) := by
  induction xs generalizing y with
  | nil => rfl
  | cons x xs ih =>
    obtain ⟨hx, hxs⟩ := List.forall_mem_cons.mp hxs
    obtain ⟨hhead, hmerge⟩ := List.forall_mem_cons.mp hmerge
    rw [List.map_cons, List.foldlM_cons, hhead y hx, List.foldl_cons]
    exact ih hmerge hxs (step y x)

theorem foldl_append_singleton (xs ys : List α) :
    xs.foldl (fun zs x ↦ zs ++ [x]) ys = ys ++ xs := by
  induction xs generalizing ys with
  | nil => rw [List.foldl_nil, List.append_nil]
  | cons x xs ih => rw [List.foldl_cons, ih, List.append_assoc, List.singleton_append]

@[simp] theorem texts_restores : texts.Restores depth where
  isPlain ss p hp := by
    obtain ⟨s, _, rfl⟩ := List.mem_map.mp hp
    exact .bytes _
  isBytes hc := by cases hc
  merge_write d _ ss hcounts := by
    have hmerge : ∀ (ys : List String) (s : String), (Payload.bytes (bytesOfText s)).Counts →
        texts.merge d ys (.bytes (bytesOfText s)) = some (ys ++ [s]) :=
      fun ys s _ ↦ congrArg (Option.map fun s ↦ ys ++ [s]) (textOfBytes?_bytesOfText s)
    refine (foldlM_map_payload (fun s _ ys ↦ hmerge ys s) hcounts []).trans ?_
    rw [foldl_append_singleton, List.nil_append]

theorem messages_restores {m : Message μ} (h : m.Restores depth) :
    (messages m).Restores (depth + 1) where
  isPlain xs p hp := by
    obtain ⟨x, _, rfl⟩ := List.mem_map.mp hp
    exact .bytes _
  isBytes hc := by cases hc
  merge_write d hd xs hcounts := by
    have hmerge : ∀ (ys : List μ) (x : μ), (Payload.bytes (m.encode x)).Counts →
        (messages m).merge d ys (.bytes (m.encode x)) = some (ys ++ [x]) :=
      fun ys x hx ↦ congrArg (Option.map fun x ↦ ys ++ [x]) (mergeNested_encode h hd hx)
    refine (foldlM_map_payload (fun x _ ys ↦ hmerge ys x) hcounts []).trans ?_
    rw [foldl_append_singleton, List.nil_append]

theorem entry_lawful {key : Codec κ} {value : Codec ν} (hkey : key.Restores depth)
    (hvalue : value.Restores depth) (hdepth : 1 ≤ depth) : (entry key value).Lawful depth where
  depth_pos := hdepth
  sound := by
    refine List.forall_mem_cons.mpr ⟨?_, List.forall_mem_singleton.mpr ?_⟩
    · exact ⟨(by decide : Key.IsField 1), fun _ _ ↦ rfl, rfl, hkey⟩
    · exact ⟨(by decide : Key.IsField 2), fun _ _ ↦ rfl, rfl, hvalue⟩
  apart := by
    refine List.pairwise_cons.mpr ⟨?_, List.pairwise_singleton _ _⟩
    exact List.forall_mem_singleton.mpr
      ⟨(by decide : (1 : Nat) ≠ 2), fun _ _ ↦ rfl, fun _ _ ↦ rfl⟩
  ext x y h := by
    obtain ⟨hkey, hvalue⟩ := List.forall_mem_cons.mp h
    exact Prod.ext hkey (hvalue _ List.mem_cons_self)

theorem foldlM_map_entry [Ord κ] [Std.TransOrd κ] [Std.LawfulEqOrd κ] {key : Codec κ}
    {value : Codec ν} (hkey : key.Restores depth) (hvalue : value.Restores depth)
    (hdepth : 1 ≤ depth) {d : Nat} (hd : depth + 1 ≤ d) {es : List (κ × ν)}
    (hcounts : ∀ p ∈ es.map fun e ↦ Payload.bytes ((entry key value).encode e), p.Counts)
    (m : KeyMap κ ν) :
    (es.map fun e ↦ Payload.bytes ((entry key value).encode e)).foldlM ((map key value).merge d) m =
      some (es.foldl (fun m e ↦ m.insert e.1 e.2) m) := by
  have hentry := (entry_lawful hkey hvalue hdepth).restores_message
  have hmerge : ∀ (n : KeyMap κ ν) (e : κ × ν),
      (Payload.bytes ((entry key value).encode e)).Counts →
      (map key value).merge d n (.bytes ((entry key value).encode e)) =
        some (n.insert e.1 e.2) :=
    fun n e he ↦ congrArg (Option.map fun e : κ × ν ↦ n.insert e.1 e.2)
      (mergeNested_encode hentry hd he)
  exact foldlM_map_payload (fun e _ n ↦ hmerge n e) hcounts m

/-- The entries of a map come in their order, and so make the map again. -/
theorem map_restores [Ord κ] [Std.TransOrd κ] [Std.LawfulEqOrd κ] {key : Codec κ}
    {value : Codec ν} (hkey : key.Restores depth) (hvalue : value.Restores depth)
    (hdepth : 1 ≤ depth) : (map key value).Restores (depth + 1) where
  isPlain m p hp := by
    obtain ⟨e, _, rfl⟩ := List.mem_map.mp hp
    exact .bytes _
  isBytes _ m p hp := by
    obtain ⟨e, _, rfl⟩ := List.mem_map.mp hp
    exact ⟨_, rfl⟩
  merge_write d hd m hcounts :=
    (foldlM_map_entry hkey hvalue hdepth hd hcounts .empty).trans (congrArg some m.ofList_entries)

end Codec

end MeshSurvey.Wire
