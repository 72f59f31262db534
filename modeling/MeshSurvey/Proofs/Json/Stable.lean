import MeshSurvey.Proofs.Json.Codec

/-!
# Codecs that do not mind how members are arranged

Whoever reads JSON may get the members of an object as they were written, or sorted by name with the
last of several members of one name. A codec is *stable* if it reads what it wrote without anything
being arranged, and if it reads whatever it can read as the same value after it has been arranged.

A structure refuses two members of one name, and of the entries of a map the last one counts. So
nothing is lost when members are arranged, as long as a key has one name only: the name of a number
has no leading zeros.
-/

namespace MeshSurvey.Json

namespace Codec

variable {α κ ν : Type}

/-- The codec reads what it wrote, arranged or not, and arranging a value does not change what is
read from it. -/
structure Stable (c : Codec α) : Prop where
  /-- What was written is read as what it was. -/
  read_write : ∀ x, c.read (c.write x) = .ok x
  /-- What can be read is read as the same after it has been arranged. -/
  read_arranged : ∀ v x, c.read v = .ok x → c.read v.arranged = .ok x

/-! ## Scalars -/

/-- Where arrays and objects cannot be read, there is nothing to arrange. -/
theorem Stable.of_scalar {c : Codec α} (hwrite : ∀ x, c.read (c.write x) = .ok x)
    (harray : ∀ vs x, c.read (.array vs) ≠ .ok x)
    (hobject : ∀ ms x, c.read (.object ms) ≠ .ok x) : c.Stable where
  read_write := hwrite
  read_arranged v x hread := by
    cases v with
    | array vs => exact absurd hread (harray vs x)
    | object ms => exact absurd hread (hobject ms x)
    | _ => exact hread

theorem text_stable : text.Stable := .of_scalar (fun _ ↦ rfl) nofun nofun

theorem flag_stable : flag.Stable := .of_scalar (fun _ ↦ rfl) nofun nofun

theorem unsigned_stable : unsigned.Stable := by
  have hrestores : unsigned.Restores 0 := unsigned_restores
  exact .of_scalar hrestores.read_write nofun nofun

theorem signed_stable : signed.Stable := by
  have hrestores : signed.Restores 0 := signed_restores
  exact .of_scalar hrestores.read_write nofun nofun

/-! ## Options and lists -/

theorem optional_read (item : Codec α) {v : Json} (h : v.isNull = false) :
    (optional item).read v = (item.read v).map some := by
  cases v with
  | null => cases h
  | _ => rfl

theorem optional_stable {item : Codec α} (h : item.Stable)
    (hnull : ∀ x, (item.write x).isNull = false) : (optional item).Stable where
  read_write o := by
    cases o with
    | none => rfl
    | some x =>
      change (optional item).read (item.write x) = _
      rw [optional_read item (hnull x), h.read_write]
      rfl
  read_arranged v o hread := by
    by_cases hv : v.isNull = true
    · cases v with
      | null => exact hread
      | _ => cases hv
    · have hnot := eq_false_of_ne_true hv
      rw [optional_read item hnot] at hread
      rw [optional_read item (by rw [isNull_arranged, hnot])]
      obtain ⟨x, hx, rfl⟩ := map_eq_ok_iff.mp hread
      rw [h.read_arranged v x hx]
      rfl

theorem Stable.map_read_arranged {item : Codec α} (h : item.Stable) {vs : List Json} {xs : List α}
    (hread : vs.map item.read = xs.map .ok) :
    (vs.map arranged).map item.read = xs.map .ok := by
  induction vs generalizing xs with
  | nil => exact hread
  | cons v vs ih =>
    rw [List.map_cons, eq_comm, List.map_eq_cons_iff] at hread
    obtain ⟨x, xs, rfl, hx, hxs⟩ := hread
    rw [List.map_cons, List.map_cons, List.map_cons, h.read_arranged v x hx.symm, ih hxs.symm]

theorem list_stable {item : Codec α} (h : item.Stable) : (list item).Stable where
  read_write xs := by
    refine mapM_eq_ok_iff.mpr ?_
    rw [List.map_map]
    exact List.map_congr_left fun x _ ↦ h.read_write x
  read_arranged v xs hread := by
    cases v with
    | array vs =>
      rw [arranged_array]
      exact mapM_eq_ok_iff.mpr (h.map_read_arranged (mapM_eq_ok_iff.mp hread))
    | _ => cases hread

/-! ## Maps -/

/-- Keys are read from their names, and from nothing else. -/
structure KeyCodec.Exact (key : KeyCodec κ) : Prop where
  /-- A key is read from its name. -/
  restores : key.Restores
  /-- What is read as a key is its name. -/
  name_of_read : ∀ s k, key.read s = .ok k → s = key.name k

theorem KeyCodec.text_exact : KeyCodec.text.Exact where
  restores := KeyCodec.text_restores
  name_of_read _ _ h := Except.ok.inj h

theorem KeyCodec.unsigned_exact : KeyCodec.unsigned.Exact where
  restores := KeyCodec.unsigned_restores
  name_of_read s k hread := by
    simp only [unsigned] at hread
    split at hread
    next digits hfront =>
      split at hread
      next hlt =>
        obtain rfl := Except.ok.inj hread
        refine String.toList_injective ?_
        change s.toList =
          (toString (UInt32.ofNat (Reader.digitsValue digits)).toNat).toList
        rw [UInt32.toNat_ofNat_of_lt' hlt, Nat.toString_eq_repr, Nat.toList_repr]
        exact Reader.toDigits_digitsValue hfront
      next => cases hread
    next => cases hread

section Map

variable [Ord κ] [Std.TransOrd κ] [Std.LawfulEqOrd κ]

/-- Reads a member as an entry of a map. -/
def readEntry (key : KeyCodec κ) (value : Codec ν) (m : String × Json) :
    Except Mismatch (κ × ν) := do
  let k ← key.read m.1
  let x ← value.read m.2
  return (k, x)

variable {key : KeyCodec κ} {value : Codec ν}

omit [Ord κ] [Std.TransOrd κ] [Std.LawfulEqOrd κ] in
theorem readEntry_eq_ok_iff {m : String × Json} {e : κ × ν} :
    readEntry key value m = .ok e ↔ key.read m.1 = .ok e.1 ∧ value.read m.2 = .ok e.2 := by
  rw [readEntry]
  cases key.read m.1 with
  | error _ => exact ⟨nofun, fun h ↦ nomatch h.1⟩
  | ok k =>
    cases value.read m.2 with
    | error _ => exact ⟨nofun, fun h ↦ nomatch h.2⟩
    | ok x =>
      constructor
      · intro h
        obtain rfl := Except.ok.inj h
        exact ⟨rfl, rfl⟩
      · rintro ⟨hk, hx⟩
        rw [Except.ok.inj hk, Except.ok.inj hx]
        rfl

/-- A map is read from an object of which each member is read as an entry. -/
theorem map_read_object_iff {members : List (String × Json)} {m : KeyMap κ ν} :
    (map key value).read (.object members) = .ok m ↔
      ∃ es, members.map (readEntry key value) = es.map .ok ∧ KeyMap.ofList es = m := by
  change (members.mapM (readEntry key value)).map KeyMap.ofList = _ ↔ _
  rw [map_eq_ok_iff]
  simp only [mapM_eq_ok_iff]

variable [DecidableEq κ]

omit [Ord κ] [Std.TransOrd κ] [Std.LawfulEqOrd κ] in
theorem map_read_valuesUnder (hkey : key.Exact) {members : List (String × Json)}
    {es : List (κ × ν)} (h : members.map (readEntry key value) = es.map .ok) (k : κ) :
    (valuesUnder (key.name k) members).map value.read = (valuesUnder k es).map .ok := by
  induction members generalizing es with
  | nil =>
    obtain rfl := List.map_eq_nil_iff.mp h.symm
    rfl
  | cons m members ih =>
    rw [List.map_cons, eq_comm, List.map_eq_cons_iff] at h
    obtain ⟨e, es, rfl, he, hes⟩ := h
    obtain ⟨hk, hx⟩ := readEntry_eq_ok_iff.mp he.symm
    obtain ⟨name, v⟩ := m
    obtain ⟨k', x⟩ := e
    obtain rfl := hkey.name_of_read name k' hk
    by_cases hne : k' = k
    · subst hne
      rw [valuesUnder_cons_self, valuesUnder_cons_self, List.map_cons, List.map_cons, ih hes.symm,
        hx]
    · rw [valuesUnder_cons_of_ne (hkey.restores.name_ne hne), valuesUnder_cons_of_ne hne,
        ih hes.symm]

omit [Ord κ] [Std.TransOrd κ] [Std.LawfulEqOrd κ] in
/-- After the members have been arranged, the last of the values under a key is left. -/
theorem valuesUnder_of_arranged (hkey : key.Exact) (hvalue : value.Stable)
    {members : List (String × Json)} {es es' : List (κ × ν)}
    (hes : members.map (readEntry key value) = es.map .ok)
    (hes' : (sortMembers (members.map fun m ↦ (m.1, m.2.arranged))).map (readEntry key value) =
      es'.map .ok) (k : κ) :
    valuesUnder k es' = (valuesUnder k es).getLast?.toList := by
  -- the last value under the key is read from the last member of its name, which is the one left
  have hlast := congrArg List.getLast? (map_read_valuesUnder hkey hes k)
  rw [List.getLast?_map, List.getLast?_map] at hlast
  have hleft := map_read_valuesUnder hkey hes' k
  rw [valuesUnder_arranged] at hleft
  cases hv : (valuesUnder (key.name k) members).getLast? with
  | none =>
    rw [hv] at hlast hleft
    rw [Option.map_eq_none_iff.mp hlast.symm]
    exact List.map_eq_nil_iff.mp hleft.symm
  | some v =>
    rw [hv] at hlast hleft
    obtain ⟨x, hx, hread⟩ := Option.map_eq_some_iff.mp hlast.symm
    rw [hx]
    simp only [Option.map_some, Option.toList_some, List.map_cons, List.map_nil,
      hvalue.read_arranged v x hread.symm] at hleft
    obtain ⟨_, _, h, hx', hnil⟩ := List.map_eq_cons_iff.mp hleft.symm
    rw [h, List.map_eq_nil_iff.mp hnil, Except.ok.inj hx', Option.toList_some]

omit [Ord κ] [Std.TransOrd κ] [Std.LawfulEqOrd κ] [DecidableEq κ] in
theorem exists_entries_of_arranged (hvalue : value.Stable) {members : List (String × Json)}
    {es : List (κ × ν)} (hes : members.map (readEntry key value) = es.map .ok) :
    ∃ es' : List (κ × ν), (sortMembers (members.map fun m ↦ (m.1, m.2.arranged))).map
      (readEntry key value) = es'.map .ok := by
  refine exists_map_eq_ok fun ⟨name, w⟩ hw ↦ ?_
  rw [← mem_valuesUnder_iff, valuesUnder_arranged, Option.mem_toList,
    Option.map_eq_some_iff] at hw
  obtain ⟨v, hv, rfl⟩ := hw
  have hmem := mem_valuesUnder_iff.mp (List.mem_of_getLast? hv)
  have hread := List.mem_map_of_mem (f := readEntry key value) hmem
  rw [hes] at hread
  obtain ⟨e, _, he⟩ := List.mem_map.mp hread
  obtain ⟨hk, hx⟩ := readEntry_eq_ok_iff.mp he.symm
  exact ⟨e, readEntry_eq_ok_iff.mpr ⟨hk, hvalue.read_arranged v e.2 hx⟩⟩

theorem map_stable (hkey : key.Exact) (hvalue : value.Stable) : (map key value).Stable where
  read_write m := by
    refine map_read_object_iff.mpr ⟨m.entries, ?_, KeyMap.ofList_entries m⟩
    rw [List.map_map]
    refine List.map_congr_left fun e _ ↦ ?_
    exact readEntry_eq_ok_iff.mpr ⟨hkey.restores e.1, hvalue.read_write e.2⟩
  read_arranged v m hread := by
    cases v with
    | object members =>
      obtain ⟨es, hes, rfl⟩ := map_read_object_iff.mp hread
      obtain ⟨es', hes'⟩ := exists_entries_of_arranged hvalue hes
      rw [arranged_object]
      -- the entries come in another order, but every key leads to the same value
      refine map_read_object_iff.mpr ⟨es', hes', KeyMap.ext_get? fun k ↦ ?_⟩
      rw [KeyMap.get?_ofList, KeyMap.get?_ofList, valuesUnder_of_arranged hkey hvalue hes hes' k]
      cases (valuesUnder k es).getLast? <;> rfl
    | _ => cases hread

end Map

end Codec

end MeshSurvey.Json
