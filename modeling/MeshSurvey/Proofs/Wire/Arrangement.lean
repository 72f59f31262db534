import Mathlib.Data.List.Perm.Basic
import MeshSurvey.Proofs.Wire.Codec

/-!
# Arrangements

A map is written entry by entry, and nothing says which entry comes first: whoever writes one goes
through it in an order of their own. Since the map may stand in a message within a list within
another message, the bytes that can be written for one structure differ at any level, counts of
bytes included. Records that can be written for a structure are said to *arrange* it.

A reader takes every arrangement for the structure. The reader of one level needs no more than that
the readers of the level below do the same, so that the proof is by induction on the levels.
-/

namespace MeshSurvey.Wire

variable {σ α κ ν : Type} {depth : Nat}

/-- The payloads *arrange* a value: they are the codec's own, or hold messages as they are arranged
on the level `below`. A list keeps its order, and a map may come in any order. -/
inductive Codec.Arranges (below : ∀ μ : Type, Message μ → μ → List Record → Prop) :
    ∀ {α : Type}, Codec α → α → List Payload → Prop where
  /-- The codec's own payloads. -/
  | own {α : Type} (c : Codec α) (x : α) : Arranges below c x (c.write x)
  /-- A message that is there. -/
  | optional {μ : Type} {m : Message μ} {x : μ} {records : List Record}
      (h : below μ m x records) :
      Arranges below (.optional m) (some x) [.bytes (encodeRecords records)]
  /-- A message as a value of its own, be it the default or not. -/
  | plain {μ : Type} {m : Message μ} {x : μ} {records : List Record} (h : below μ m x records) :
      Arranges below (.plain m) x [.bytes (encodeRecords records)]
  /-- A list of messages, each with its records. -/
  | messages {μ : Type} {m : Message μ} {items : List (μ × List Record)}
      (h : ∀ i ∈ items, below μ m i.1 i.2) :
      Arranges below (.messages m) (items.map (·.1)) (items.map fun i ↦ .bytes (encodeRecords i.2))
  /-- The entries of a map in any order, each with its records. -/
  | map {κ ν : Type} [Ord κ] [Std.TransOrd κ] [Std.LawfulEqOrd κ] {key : Codec κ}
      {value : Codec ν} {m : KeyMap κ ν} {items : List ((κ × ν) × List Record)}
      (hentries : (items.map (·.1)).Perm m.entries)
      (h : ∀ i ∈ items, below (κ × ν) (entry key value) i.1 i.2) :
      Arranges below (.map key value) m (items.map fun i ↦ .bytes (encodeRecords i.2))

/-- The records *arrange* a structure of a lawful message, for a reader that has `depth` levels
left: they are records of its fields, and those of each field arrange the value. Records of
different fields may follow each other in any order. -/
def Message.Arranges : (depth : Nat) → ∀ σ : Type, Message σ → σ → List Record → Prop
  | 0, _, _, _, _ => False
  | depth + 1, _, m, x, records =>
    m.Lawful (depth + 1) ∧ (∀ r ∈ records, ∃ f ∈ m.fields, r.1 = f.number) ∧
      ∀ f ∈ m.fields,
        f.codec.Arranges (Message.Arranges depth) (f.get x) (payloadsOf f.number records)

namespace Codec

variable {below : ∀ μ : Type, Message μ → μ → List Record → Prop}

/-! ## Reading the payloads of a field -/

theorem Arranges.admits {c : Codec α} {x : α} {ps : List Payload} (h : c.Arranges below x ps)
    (hc : c.Restores depth) {p : Payload} (hp : p ∈ ps) : c.Admits p := by
  cases h with
  | own => exact hc.admits hp
  | optional => exact List.mem_singleton.mp hp ▸ admits_bytes _ _
  | plain => exact List.mem_singleton.mp hp ▸ admits_bytes _ _
  | messages =>
    obtain ⟨i, _, rfl⟩ := List.mem_map.mp hp
    exact admits_bytes _ _
  | map =>
    obtain ⟨i, _, rfl⟩ := List.mem_map.mp hp
    exact admits_bytes _ _

/-- Arranged payloads make their value, if what is arranged on the level below is read there. -/
theorem Arranges.foldlM_merge {c : Codec α} {x : α} {ps : List Payload}
    (h : c.Arranges below x ps) (hc : c.Restores (depth + 1))
    (hbelow : ∀ (μ : Type) (m : Message μ) (y : μ) (records : List Record), below μ m y records →
      (encodeRecords records).length < UInt64.size →
      m.mergeBytes depth m.empty (encodeRecords records) = some y)
    (hcounts : ∀ p ∈ ps, p.Counts) :
    ps.foldlM (c.merge (depth + 1)) c.default = some x := by
  cases h with
  | own => exact hc.merge_write (depth + 1) (Nat.le_refl _) x hcounts
  | optional hx =>
    have hread := hbelow _ _ _ _ hx (hcounts _ List.mem_cons_self _ rfl)
    exact congrArg (fun o ↦ (o.map some).bind some) hread
  | plain hx =>
    have hread := hbelow _ _ _ _ hx (hcounts _ List.mem_cons_self _ rfl)
    exact congrArg (Option.bind · some) hread
  | @messages μ m items hitems =>
    have hmerge : ∀ i ∈ items, ∀ ys : List μ, (Payload.bytes (encodeRecords i.2)).Counts →
        (Codec.messages m).merge (depth + 1) ys (.bytes (encodeRecords i.2)) = some (ys ++ [i.1]) :=
      fun i hi ys hcount ↦ congrArg (Option.map fun y ↦ ys ++ [y])
        (hbelow _ _ _ _ (hitems i hi) (hcount _ rfl))
    -- the messages come one behind the other
    have happend := foldl_append_singleton (items.map (·.1)) []
    rw [List.foldl_map, List.nil_append] at happend
    exact (foldlM_map_payload hmerge hcounts []).trans (congrArg some happend)
  | @map κ ν _ _ _ key value m items hentries hitems =>
    have hmerge : ∀ i ∈ items, ∀ n : KeyMap κ ν, (Payload.bytes (encodeRecords i.2)).Counts →
        (Codec.map key value).merge (depth + 1) n (.bytes (encodeRecords i.2)) =
          some (n.insert i.1.1 i.1.2) :=
      fun i hi n hcount ↦ congrArg (Option.map fun e : κ × ν ↦ n.insert e.1 e.2)
        (hbelow _ _ _ _ (hitems i hi) (hcount _ rfl))
    -- the entries make the map in any order
    refine (foldlM_map_payload hmerge hcounts KeyMap.empty).trans (congrArg some ?_)
    rw [← KeyMap.ofList_eq_of_perm hentries, KeyMap.ofList, List.foldl_map]

end Codec

namespace Message

variable {m : Message σ} {x : σ} {records : List Record}

/-! ## Reading a structure -/

/-- **A reader takes an arrangement for the structure that it arranges**, on every level that it has
left. -/
theorem Arranges.mergeBytes (h : Message.Arranges depth σ m x records)
    (hcount : (encodeRecords records).length < UInt64.size) :
    m.mergeBytes depth m.empty (encodeRecords records) = some x := by
  induction depth generalizing σ m x records with
  | zero => exact h.elim
  | succ depth ih =>
    obtain ⟨hlawful, hdeclared, hfields⟩ := h
    refine hlawful.mergeBytes_encodeRecords (Nat.le_refl _) (fun r hr ↦ ?_) hcount fun f hf ↦ ?_
    · obtain ⟨f, hf, hnumber⟩ := hdeclared r hr
      have hmem : r.2 ∈ payloadsOf f.number records := mem_payloadsOf.mpr (hnumber ▸ hr)
      exact ⟨f, hf, hnumber, (hfields f hf).admits (hlawful.sound f hf).restores hmem⟩
    · have hcounts : ∀ p ∈ payloadsOf f.number records, p.Counts := by
        rintro p hp text rfl
        exact Nat.lt_of_le_of_lt (length_le_of_mem (mem_payloadsOf.mp hp)) hcount
      exact (hfields f hf).foldlM_merge (hlawful.sound f hf).restores
        (fun _ _ _ _ hy hlength ↦ ih hy hlength) hcounts

/-! ## What arranges a structure -/

theorem Lawful.arranges (h : m.Lawful (depth + 1))
    (hdeclared : ∀ r ∈ records, ∃ f ∈ m.fields, r.1 = f.number)
    (hfields : ∀ f ∈ m.fields,
      f.codec.Arranges (Message.Arranges depth) (f.get x) (payloadsOf f.number records)) :
    Message.Arranges (depth + 1) σ m x records :=
  ⟨h, hdeclared, hfields⟩

theorem Lawful.arranges_records (h : m.Lawful depth) (x : σ) :
    Message.Arranges depth σ m x (m.records x) := by
  obtain ⟨depth, rfl⟩ : ∃ d, depth = d + 1 := Nat.exists_eq_add_of_le' h.depth_pos
  refine h.arranges (fun r hr ↦ ?_) fun f hf ↦ ?_
  · obtain ⟨f, hf, hnumber, _⟩ := exists_field_of_mem_records hr
    exact ⟨f, hf, hnumber⟩
  · rw [h.payloadsOf_records hf]
    exact .own f.codec (f.get x)

theorem Lawful.arranges_of_perm (h : m.Lawful (depth + 1))
    (hfields : ∀ f ∈ m.fields, ∀ v ps, ps.Perm (f.codec.write v) →
      f.codec.Arranges (Message.Arranges depth) v ps)
    (hperm : records.Perm (m.records x)) : Message.Arranges (depth + 1) σ m x records := by
  refine h.arranges (fun r hr ↦ ?_) fun f hf ↦ hfields f hf _ _ ?_
  · obtain ⟨f, hf, hnumber, _⟩ := exists_field_of_mem_records (hperm.mem_iff.mp hr)
    exact ⟨f, hf, hnumber⟩
  · rw [← h.payloadsOf_records hf]
    exact hperm.filterMap _

end Message

namespace Codec

variable {below : ∀ μ : Type, Message μ → μ → List Record → Prop}

/-- At most one payload comes in one order only. -/
theorem eq_write_of_perm {c : Codec α} {x : α} {ps : List Payload} (hone : (c.write x).length ≤ 1)
    (hperm : ps.Perm (c.write x)) : ps = c.write x := by
  cases hwrite : c.write x with
  | nil => exact List.perm_nil.mp (hwrite ▸ hperm)
  | cons p rest =>
    obtain rfl : rest = [] := by
      rw [hwrite, List.length_cons] at hone
      exact List.eq_nil_of_length_eq_zero (by omega)
    exact List.perm_singleton.mp (hwrite ▸ hperm)

theorem text_arranges_of_perm {s : String} {ps : List Payload} (hperm : ps.Perm (text.write s)) :
    text.Arranges below s ps := by
  have hone : (text.write s).length ≤ 1 := by
    by_cases hs : s = ""
    · simp [text, hs]
    · simp [text, hs]
  rw [eq_write_of_perm hone hperm]
  exact .own text s

theorem map_arranges_of_perm [Ord κ] [Std.TransOrd κ] [Std.LawfulEqOrd κ] {key : Codec κ}
    {value : Codec ν} (hkey : key.Restores depth) (hvalue : value.Restores depth)
    (hdepth : 1 ≤ depth) {m : KeyMap κ ν} {ps : List Payload}
    (hperm : ps.Perm ((map key value).write m)) :
    (map key value).Arranges (Message.Arranges depth) m ps := by
  -- payloads in another order are those of the entries in another order
  have hentries := congrFun₂ (List.eq_map_comp_perm fun e : κ × ν ↦
    Payload.bytes ((entry key value).encode e)) ps m.entries
  obtain ⟨es, rfl, hes⟩ := hentries.mpr hperm
  have hitems : (es.map fun e ↦ (e, (entry key value).records e)).map (·.1) = es := by
    rw [List.map_map]
    exact List.map_id es
  have harranges := Arranges.map (hitems ▸ hes) fun i hi ↦ by
    obtain ⟨e, _, rfl⟩ := List.mem_map.mp hi
    exact (entry_lawful hkey hvalue hdepth).arranges_records e
  rwa [List.map_map] at harranges

end Codec

end MeshSurvey.Wire
