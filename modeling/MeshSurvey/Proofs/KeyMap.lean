import Mathlib.Data.List.Induction
import MeshSurvey.KeyMap
import MeshSurvey.Proofs.Collect

/-!
# Maps of lists

A map is determined by its entries up to order. So a list of entries with distinct keys makes the
same map in any order, and the map that a map's own entries make, in whatever order they come, is
that map. This is what lets a map survive a form that lists its entries in another order of keys.
The map of any list has under each key the last value that the list has there.
-/

namespace MeshSurvey.KeyMap

variable {κ ν : Type} [Ord κ] [Std.TransOrd κ] [Std.LawfulEqOrd κ]

omit [Std.LawfulEqOrd κ] in
theorem eq_of_perm {m n : KeyMap κ ν} (h : m.entries.Perm n.entries) : m = n := by
  refine ext (List.Perm.eq_of_pairwise ?_ m.ascending n.ascending h)
  intro a b _ _ hab hba
  exact absurd hba (Std.OrientedCmp.not_lt_of_lt hab)

omit [Std.LawfulEqOrd κ] in
theorem ne_of_compare_lt {a b : κ} (h : compare a b = .lt) : a ≠ b := by
  rintro rfl
  cases (Std.ReflOrd.compare_self (a := a)).symm.trans h

omit [Std.LawfulEqOrd κ] in
theorem distinct (m : KeyMap κ ν) : m.entries.Pairwise fun a b ↦ a.1 ≠ b.1 :=
  m.ascending.imp ne_of_compare_lt

omit [Std.TransOrd κ] in
theorem perm_insertEntry {k : κ} (v : ν) {es : List (κ × ν)} (h : ∀ e ∈ es, k ≠ e.1) :
    (insertEntry k v es).Perm ((k, v) :: es) := by
  induction es with
  | nil => exact .refl _
  | cons e es ih =>
    obtain ⟨hne, hrest⟩ := List.forall_mem_cons.mp h
    rw [insertEntry]
    split
    next => exact .refl _
    next heq => exact absurd (Std.LawfulEqCmp.compare_eq_iff_eq.mp heq) hne
    next => exact ((ih hrest).cons e).trans (.swap (k, v) e es)

private theorem perm_entries_foldl {es : List (κ × ν)} (m : KeyMap κ ν)
    (hnew : ∀ a ∈ m.entries, ∀ e ∈ es, a.1 ≠ e.1) (hes : es.Pairwise fun a b ↦ a.1 ≠ b.1) :
    (es.foldl (fun m e ↦ m.insert e.1 e.2) m).entries.Perm (m.entries ++ es) := by
  induction es generalizing m with
  | nil => rw [List.append_nil, List.foldl_nil]
  | cons e es ih =>
    obtain ⟨hhead, htail⟩ := List.pairwise_cons.mp hes
    have hinsert : (m.insert e.1 e.2).entries.Perm (e :: m.entries) :=
      perm_insertEntry e.2 fun a ha ↦ (hnew a ha e List.mem_cons_self).symm
    have hnew' : ∀ a ∈ (m.insert e.1 e.2).entries, ∀ e' ∈ es, a.1 ≠ e'.1 := by
      intro a ha e' he'
      rcases List.mem_cons.mp (hinsert.mem_iff.mp ha) with rfl | ha
      · exact hhead e' he'
      · exact hnew a ha e' (List.mem_cons_of_mem e he')
    rw [List.foldl_cons]
    exact (ih _ hnew' htail).trans ((hinsert.append_right es).trans List.perm_middle.symm)

theorem perm_entries_ofList {es : List (κ × ν)} (h : es.Pairwise fun a b ↦ a.1 ≠ b.1) :
    (ofList es).entries.Perm es :=
  perm_entries_foldl empty (fun _ ha ↦ by cases ha) h

/-- The entries of a map, in any order, make the map. -/
theorem ofList_eq_of_perm {m : KeyMap κ ν} {es : List (κ × ν)} (h : es.Perm m.entries) :
    ofList es = m :=
  eq_of_perm ((perm_entries_ofList (h.symm.pairwise m.distinct Ne.symm)).trans h)

@[simp] theorem ofList_entries (m : KeyMap κ ν) : ofList m.entries = m :=
  ofList_eq_of_perm (.refl _)

theorem entries_ofList_of_ascending {es : List (κ × ν)}
    (h : es.Pairwise fun a b ↦ compare a.1 b.1 = .lt) : (ofList es).entries = es :=
  congrArg entries (ofList_entries ⟨es, h⟩)

/-! ## Values under a key -/

section ValuesUnder

variable [DecidableEq κ] {k : κ} {v : ν}

theorem valuesUnder_entries (m : KeyMap κ ν) (k : κ) :
    valuesUnder k m.entries = (m.get? k).toList := by
  obtain ⟨es, hascending⟩ := m
  change valuesUnder k es = ((es.find? fun e ↦ compare k e.1 = .eq).map (·.2)).toList
  induction es with
  | nil => rfl
  | cons e es ih =>
    obtain ⟨hhead, htail⟩ := List.pairwise_cons.mp hascending
    by_cases hk : compare k e.1 = .eq
    · obtain rfl := Std.LawfulEqCmp.eq_of_compare hk
      have hnone : valuesUnder e.1 es = [] := by
        refine List.filterMap_eq_nil_iff.mpr ?_
        intro a ha
        exact if_neg (ne_of_compare_lt (hhead a ha)).symm
      rw [List.find?_cons, decide_eq_true hk, valuesUnder_cons_self, hnone]
      rfl
    · have hne : e.1 ≠ k := by
        rintro rfl
        exact hk Std.ReflOrd.compare_self
      rw [List.find?_cons, decide_eq_false hk, valuesUnder_cons_of_ne hne]
      exact ih htail

theorem mem_entries_iff (m : KeyMap κ ν) : (k, v) ∈ m.entries ↔ m.get? k = some v := by
  rw [← mem_valuesUnder_iff, valuesUnder_entries, Option.mem_toList]

theorem ext_get? {m n : KeyMap κ ν} (h : ∀ k, m.get? k = n.get? k) : m = n := by
  have hm : m.entries.Nodup := m.distinct.imp fun hne heq ↦ hne (congrArg Prod.fst heq)
  have hn : n.entries.Nodup := n.distinct.imp fun hne heq ↦ hne (congrArg Prod.fst heq)
  refine eq_of_perm ((List.perm_ext_iff_of_nodup hm hn).mpr ?_)
  rintro ⟨k, v⟩
  rw [mem_entries_iff, mem_entries_iff, h]

/-- Of several values under a key a map has the last. -/
theorem get?_ofList (k : κ) (es : List (κ × ν)) :
    (ofList es).get? k = (valuesUnder k es).getLast? := by
  induction es using List.reverseRecOn with
  | nil => rfl
  | append_singleton es e ih =>
    have hlast : ofList (es ++ [e]) = (ofList es).insert e.1 e.2 := by
      rw [ofList, List.foldl_append]
      rfl
    rw [hlast, get?_insert, ih, valuesUnder_append]
    by_cases hk : k = e.1
    · subst hk
      rw [if_pos rfl, valuesUnder_cons_self, valuesUnder_nil, List.getLast?_concat]
    · rw [if_neg hk, valuesUnder_cons_of_ne (Ne.symm hk), valuesUnder_nil, List.append_nil]

end ValuesUnder

end MeshSurvey.KeyMap
