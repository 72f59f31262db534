/-!
# Finite maps in key order

A map is the list of its entries in strictly ascending order of keys, so that two maps with the same
entries are equal and every listing of a map is in key order. Adding an entry under a key that is
already there replaces the value.
-/

namespace MeshSurvey

/-- A finite map, as the list of its entries in ascending order of keys. -/
structure KeyMap (κ ν : Type) [Ord κ] where
  /-- The entries, each key once. -/
  entries : List (κ × ν)
  /-- Keys ascend strictly. -/
  ascending : entries.Pairwise fun a b ↦ compare a.1 b.1 = .lt

namespace KeyMap

variable {κ ν : Type} [Ord κ]

@[ext] theorem ext {m n : KeyMap κ ν} (h : m.entries = n.entries) : m = n := by
  cases m; cases n; simp_all

instance [DecidableEq κ] [DecidableEq ν] : DecidableEq (KeyMap κ ν) := fun m n ↦
  decidable_of_iff (m.entries = n.entries) ⟨ext, congrArg entries⟩

/-- The map without entries. -/
def empty : KeyMap κ ν := ⟨[], .nil⟩

instance : EmptyCollection (KeyMap κ ν) := ⟨empty⟩

instance : Inhabited (KeyMap κ ν) := ⟨empty⟩

/-- Whether the map has no entries. -/
def isEmpty (m : KeyMap κ ν) : Bool := m.entries.isEmpty

/-- The value under a key. -/
def get? (m : KeyMap κ ν) (k : κ) : Option ν :=
  (m.entries.find? fun e ↦ compare k e.1 = .eq).map (·.2)

/-- Puts an entry into its place in an ascending list, over an entry with the same key. -/
def insertEntry (k : κ) (v : ν) : List (κ × ν) → List (κ × ν)
  | [] => [(k, v)]
  | e :: es =>
    match compare k e.1 with
    | .lt => (k, v) :: e :: es
    | .eq => (k, v) :: es
    | .gt => e :: insertEntry k v es

theorem mem_insertEntry {k : κ} {v : ν} {e : κ × ν} {es : List (κ × ν)}
    (h : e ∈ insertEntry k v es) : e = (k, v) ∨ e ∈ es := by
  induction es with
  | nil => simpa [insertEntry] using h
  | cons a es ih =>
    simp only [insertEntry] at h
    split at h <;> simp only [List.mem_cons] at h ⊢
    · exact h
    · exact h.imp_right .inr
    · rcases h with rfl | h
      · exact .inr (.inl rfl)
      · exact (ih h).imp_right .inr

theorem find?_insertEntry [Std.LawfulEqOrd κ] [DecidableEq κ] (k k' : κ) (v : ν)
    (es : List (κ × ν)) :
    (insertEntry k v es).find? (fun e ↦ compare k' e.1 = .eq) =
      if k' = k then some (k, v) else es.find? fun e ↦ compare k' e.1 = .eq := by
  induction es with
  | nil => by_cases h : k' = k <;> simp [insertEntry, h]
  | cons e es ih =>
    simp only [insertEntry]
    split
    next => by_cases h : k' = k <;> simp [List.find?_cons, h]
    next heq =>
      have hk : k = e.1 := Std.LawfulEqCmp.eq_of_compare heq
      by_cases h : k' = k <;> simp [h, ← hk]
    next hgt =>
      have hne : compare k e.1 ≠ .eq := by simp [hgt]
      rw [List.find?_cons, ih, List.find?_cons]
      by_cases h : k' = k
      · rw [h, decide_eq_false hne, if_pos rfl]
      · simp only [if_neg h]

variable [Std.TransOrd κ] [Std.LawfulEqOrd κ]

theorem ascending_insertEntry (k : κ) (v : ν) {es : List (κ × ν)}
    (h : es.Pairwise fun a b ↦ compare a.1 b.1 = .lt) :
    (insertEntry k v es).Pairwise fun a b ↦ compare a.1 b.1 = .lt := by
  induction es with
  | nil => simp [insertEntry]
  | cons e es ih =>
    obtain ⟨hhead, htail⟩ := List.pairwise_cons.1 h
    simp only [insertEntry]
    split
    next hlt =>
      refine List.pairwise_cons.2 ⟨fun a ha ↦ ?_, h⟩
      rcases List.mem_cons.1 ha with rfl | ha
      · exact hlt
      · exact Std.TransCmp.lt_trans hlt (hhead a ha)
    next heq =>
      obtain rfl := Std.LawfulEqCmp.eq_of_compare heq
      exact List.pairwise_cons.2 ⟨hhead, htail⟩
    next hgt =>
      refine List.pairwise_cons.2 ⟨fun a ha ↦ ?_, ih htail⟩
      rcases mem_insertEntry ha with rfl | ha
      · exact Std.OrientedCmp.lt_of_gt hgt
      · exact hhead a ha

/-- The map with one more entry, over an entry with the same key. -/
def insert (m : KeyMap κ ν) (k : κ) (v : ν) : KeyMap κ ν :=
  ⟨insertEntry k v m.entries, ascending_insertEntry k v m.ascending⟩

theorem get?_insert [DecidableEq κ] (m : KeyMap κ ν) (k k' : κ) (v : ν) :
    (m.insert k v).get? k' = if k' = k then some v else m.get? k' := by
  simp only [get?, insert, find?_insertEntry]
  split <;> rfl

/-- The map of a list of entries, of which a later one replaces an earlier one with its key. -/
def ofList (entries : List (κ × ν)) : KeyMap κ ν :=
  entries.foldl (fun m e ↦ m.insert e.1 e.2) empty

end KeyMap

end MeshSurvey
