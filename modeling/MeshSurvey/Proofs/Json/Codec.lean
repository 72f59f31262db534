import Mathlib.Data.List.Perm.Basic
import MeshSurvey.Json.Codec
import MeshSurvey.Proofs.Collect
import MeshSurvey.Proofs.Json.Text

/-!
# Codecs restore values from arranged JSON

What a codec writes is not what it is given to read: on the way through text the members of objects
are sorted. A codec *restores* its values if it reads each of them back from the arranged form of
what it wrote, and if what it writes fits a depth.

Objects written by a codec have distinct names, so that sorting only changes the order of members.
-/

namespace MeshSurvey

universe u

namespace Json

/-! ## Arranged values -/

theorem arranged_array (items : List Json) :
    (array items).arranged = .array (items.map arranged) := by
  rw [arranged, arrangedBy, arrangedItems_eq_map]
  rfl

theorem arranged_object (members : List (String × Json)) :
    (object members).arranged =
      .object (sortMembers (members.map fun m ↦ (m.1, m.2.arranged))) := by
  rw [arranged, arrangedBy, arrangedMembers_eq_map]
  rfl

@[simp] theorem isNull_arranged (v : Json) : v.arranged.isNull = v.isNull := by
  cases v <;> rfl

theorem perm_sortMembers {members : List (String × Json)}
    (h : members.Pairwise fun a b ↦ a.1 ≠ b.1) : (sortMembers members).Perm members :=
  KeyMap.perm_entries_ofList h

theorem valuesUnder_sortMembers (name : String) (members : List (String × Json)) :
    valuesUnder name (sortMembers members) = (valuesUnder name members).getLast?.toList := by
  rw [sortMembers, KeyMap.valuesUnder_entries, KeyMap.get?_ofList]

theorem valuesUnder_map_arranged (name : String) (members : List (String × Json)) :
    valuesUnder name (members.map fun m ↦ (m.1, m.2.arranged)) =
      (valuesUnder name members).map arranged := by
  induction members with
  | nil => rfl
  | cons m members ih =>
    rw [List.map_cons]
    by_cases hname : m.1 = name
    · obtain ⟨_, v⟩ := m
      subst hname
      rw [valuesUnder_cons_self, valuesUnder_cons_self, ih, List.map_cons]
    · have hname' : (m.1, m.2.arranged).1 ≠ name := hname
      rw [valuesUnder_cons_of_ne hname', valuesUnder_cons_of_ne hname, ih]

theorem valuesUnder_arranged (name : String) (members : List (String × Json)) :
    valuesUnder name (sortMembers (members.map fun m ↦ (m.1, m.2.arranged))) =
      ((valuesUnder name members).getLast?.map arranged).toList := by
  rw [valuesUnder_sortMembers, valuesUnder_map_arranged, List.getLast?_map]

/-- Members in order of their names stay as they are. -/
theorem arranged_object_of_ascending {members : List (String × Json)}
    (h : (members.map (·.1)).Pairwise fun a b ↦ compare a b = .lt) :
    (object members).arranged = .object (members.map fun m ↦ (m.1, m.2.arranged)) := by
  have hmembers : (members.map fun m ↦ (m.1, m.2.arranged)).Pairwise
      fun a b ↦ compare a.1 b.1 = .lt := List.pairwise_map.mpr (List.pairwise_map.mp h)
  rw [arranged_object]
  exact congrArg object (KeyMap.entries_ofList_of_ascending hmembers)

/-- What is read of an object that was written from a list: its members in some order. -/
theorem exists_arranged_eq {α : Type u} {xs : List α} {name : α → String} (value : α → Json)
    (h : xs.Pairwise fun x y ↦ name x ≠ name y) :
    ∃ ys : List α, ys.Perm xs ∧ (object (xs.map fun x ↦ (name x, value x))).arranged =
      .object (ys.map fun x ↦ (name x, (value x).arranged)) := by
  have hnames : (xs.map fun x ↦ (name x, (value x).arranged)).Pairwise fun a b ↦ a.1 ≠ b.1 :=
    List.pairwise_map.mpr h
  -- members in another order are those of the items in another order
  have hitems := congrFun (List.eq_map_comp_perm fun x ↦ (name x, (value x).arranged))
  obtain ⟨ys, hmembers, hys⟩ := (congrFun (hitems _) xs).mpr (perm_sortMembers hnames)
  refine ⟨ys, hys, ?_⟩
  rw [arranged_object, List.map_map]
  exact congrArg object hmembers

namespace Codec

variable {α κ ν : Type} {depth : Nat}

/-- The codec restores its values, which it writes at most `depth` deep. -/
structure Restores (c : Codec α) (depth : Nat) : Prop where
  /-- What is written can be read. -/
  fits : ∀ x, (c.write x).Fits depth
  /-- It is read as what it was. -/
  read_write : ∀ x, c.read (c.write x).arranged = .ok x

/-- The codec restores one value, which it writes at most `depth` deep. -/
structure RestoresAt (c : Codec α) (depth : Nat) (x : α) : Prop where
  /-- What is written can be read. -/
  fits : (c.write x).Fits depth
  /-- It is read as what it was. -/
  read_write : c.read (c.write x).arranged = .ok x

theorem Restores.at {c : Codec α} (h : c.Restores depth) (x : α) : c.RestoresAt depth x :=
  ⟨h.fits x, h.read_write x⟩

theorem RestoresAt.mono {c : Codec α} {depth' : Nat} {x : α} (h : c.RestoresAt depth x)
    (hle : depth ≤ depth') : c.RestoresAt depth' x :=
  ⟨h.fits.mono hle, h.read_write⟩

theorem Restores.mono {c : Codec α} {depth' : Nat} (h : c.Restores depth) (hle : depth ≤ depth') :
    c.Restores depth' where
  fits x := (h.fits x).mono hle
  read_write := h.read_write

/-! ## Scalars -/

theorem minInteger_eq : minInteger = -9223372036854775808 := rfl

theorem maxInteger_eq : maxInteger = 18446744073709551615 := rfl

theorem text_restores : text.Restores depth where
  fits _ := Fits.mono (Nat.zero_le depth) trivial
  read_write _ := rfl

theorem flag_restores : flag.Restores depth where
  fits _ := Fits.mono (Nat.zero_le depth) trivial
  read_write _ := rfl

theorem unsigned_restores : unsigned.Restores depth where
  fits n := by
    have hn := n.toNat_lt
    refine Fits.mono (Nat.zero_le depth) (v := .integer n.toNat) ⟨?_, ?_⟩
    · rw [minInteger_eq]
      omega
    · rw [maxInteger_eq]
      omega
  read_write n := by
    have hrange : 0 ≤ (n.toNat : Int) ∧ (n.toNat : Int).toNat < UInt32.size :=
      ⟨Int.natCast_nonneg _, by rw [Int.toNat_natCast]; exact n.toNat_lt⟩
    refine (if_pos hrange).trans ?_
    rw [Int.toNat_natCast, UInt32.ofNat_toNat]

theorem signed_restores : signed.Restores depth where
  fits n := by
    have hmin := n.minValue_le_toInt
    have hmax := n.toInt_le
    rw [Int32.toInt_minValue] at hmin
    rw [Int32.toInt_maxValue] at hmax
    refine Fits.mono (Nat.zero_le depth) (v := .integer n.toInt) ⟨?_, ?_⟩
    · rw [minInteger_eq]
      omega
    · rw [maxInteger_eq]
      omega
  read_write n := by
    refine (if_pos ⟨n.minValue_le_toInt, n.toInt_le⟩).trans ?_
    rw [Int32.ofInt_toInt]

/-! ## Options, lists and maps -/

theorem RestoresAt.read_optional {item : Codec α} {x : α} (h : item.RestoresAt depth x)
    (hnull : (item.write x).isNull = false) :
    (optional item).read (item.write x).arranged = .ok (some x) := by
  have hread := h.read_write
  have hnot : (item.write x).arranged.isNull = false := by rw [isNull_arranged, hnull]
  cases hv : (item.write x).arranged with
  | null =>
    rw [hv] at hnot
    cases hnot
  | _ =>
    rw [hv] at hread
    exact congrArg (Except.map some) hread

/-- What is never written as `null` may be absent. -/
theorem optional_restores {item : Codec α} (h : item.Restores depth)
    (hnull : ∀ x, (item.write x).isNull = false) : (optional item).Restores depth where
  fits o := by
    cases o with
    | none => exact Fits.mono (Nat.zero_le depth) (v := .null) trivial
    | some x => exact h.fits x
  read_write o := by
    cases o with
    | none => rfl
    | some x => exact (h.at x).read_optional (hnull x)

theorem list_restores {item : Codec α} (h : item.Restores depth) :
    (list item).Restores (depth + 1) where
  fits xs := by
    intro v hv
    obtain ⟨x, _, rfl⟩ := List.mem_map.mp hv
    exact h.fits x
  read_write xs := by
    have hitems : ((xs.map item.write).map arranged).map item.read = xs.map .ok := by
      rw [List.map_map, List.map_map]
      exact List.map_congr_left fun x _ ↦ h.read_write x
    rw [list, arranged_array]
    exact mapM_eq_ok_iff.mpr hitems

/-- Keys are read from their names. -/
def KeyCodec.Restores (key : KeyCodec κ) : Prop := ∀ k, key.read (key.name k) = .ok k

theorem KeyCodec.Restores.name_ne {key : KeyCodec κ} (h : key.Restores) {k k' : κ} (hne : k ≠ k') :
    key.name k ≠ key.name k' := by
  intro hname
  have hread := h k
  rw [hname, h k'] at hread
  exact hne (Except.ok.inj hread).symm

theorem KeyCodec.text_restores : KeyCodec.text.Restores := fun _ ↦ rfl

theorem KeyCodec.unsigned_restores : KeyCodec.unsigned.Restores := by
  intro n
  have hends : Reader.EndsDigits [] := fun _ hc ↦ by cases hc
  have hfront := Reader.wholeFront_toDigits n.toNat hends
  rw [List.append_nil] at hfront
  simp only [unsigned, Nat.toString_eq_repr, Nat.toList_repr, hfront, Reader.digitsValue_toDigits,
    if_pos n.toNat_lt, UInt32.ofNat_toNat]

/-- A map is restored although its members may come in another order than its entries. -/
theorem map_restores [Ord κ] [Std.TransOrd κ] [Std.LawfulEqOrd κ] {key : KeyCodec κ}
    {value : Codec ν} (hkey : key.Restores) (hvalue : value.Restores depth) :
    (map key value).Restores (depth + 1) where
  fits m := by
    intro v hv
    obtain ⟨e, _, rfl⟩ := List.mem_map.mp hv
    exact hvalue.fits e.2
  read_write m := by
    -- numbers as names are not in the order of the numbers
    obtain ⟨es, hes, harranged⟩ := exists_arranged_eq (fun e : κ × ν ↦ value.write e.2)
      (m.distinct.imp hkey.name_ne)
    have hentries : (es.map fun e ↦ (key.name e.1, (value.write e.2).arranged)).map
        (fun e ↦ do
          let k ← key.read e.1
          let x ← value.read e.2
          return (k, x)) = es.map .ok := by
      rw [List.map_map]
      refine List.map_congr_left fun e _ ↦ ?_
      simp only [Function.comp_apply, hkey e.1, hvalue.read_write e.2]
      rfl
    have hread := mapM_eq_ok_iff.mpr hentries
    change (map key value).read (object (m.entries.map _)).arranged = _
    rw [harranged]
    change (do return KeyMap.ofList (← (es.map _).mapM _)) = Except.ok m
    rw [hread, ← KeyMap.ofList_eq_of_perm hes]
    rfl

end Codec

end Json

end MeshSurvey
