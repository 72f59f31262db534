/-!
# Collecting results and finding by key

Reading a list means reading its items one after another, up to the first that cannot be read. It
succeeds if and only if all of them can be read, and fails as the first of them does that cannot.
That all items can be read is an equation between lists of results.

What is listed under distinct keys is found by its key; under one key a list may have many values.
-/

namespace MeshSurvey

universe u v

variable {α β ε : Type} {f : α → Except ε β}

theorem map_eq_ok_iff {g : α → β} {r : Except ε α} {y : β} :
    r.map g = .ok y ↔ ∃ x, r = .ok x ∧ g x = y := by
  cases r with
  | error e => exact ⟨nofun, fun ⟨_, h, _⟩ ↦ nomatch h⟩
  | ok x =>
    constructor
    · intro h
      exact ⟨x, rfl, Except.ok.inj h⟩
    · rintro ⟨_, h, rfl⟩
      rw [Except.ok.inj h]
      rfl

theorem mapM_eq_ok_iff {items : List α} {results : List β} :
    items.mapM f = .ok results ↔ items.map f = results.map .ok := by
  induction items generalizing results with
  | nil =>
    rw [List.mapM_nil, List.map_nil, eq_comm (a := []), List.map_eq_nil_iff]
    exact ⟨fun h ↦ (Except.ok.inj h).symm, fun h ↦ h ▸ rfl⟩
  | cons x items ih =>
    rw [List.mapM_cons, List.map_cons, eq_comm (a := f x :: _), List.map_eq_cons_iff]
    cases hx : f x with
    | error e => exact ⟨nofun, fun ⟨_, _, _, h, _⟩ ↦ nomatch h⟩
    | ok y =>
      constructor
      · intro h
        cases hitems : items.mapM f with
        | error e =>
          rw [hitems] at h
          cases h
        | ok ys =>
          rw [hitems] at h
          exact ⟨y, ys, (Except.ok.inj h).symm, rfl, (ih.mp hitems).symm⟩
      · rintro ⟨_, ys, rfl, hy, hys⟩
        rw [ih.mpr hys.symm, Except.ok.inj hy]
        rfl

/-- Collecting fails as the first item does that fails. -/
theorem mapM_eq_error_iff {items : List α} {e : ε} :
    items.mapM f = .error e ↔
      ∃ good bad rest, items = good ++ bad :: rest ∧ (∀ x ∈ good, ∃ y, f x = .ok y) ∧
        f bad = .error e := by
  induction items with
  | nil =>
    refine ⟨nofun, ?_⟩
    rintro ⟨good, bad, rest, h, -⟩
    exact absurd h (List.append_ne_nil_of_right_ne_nil good (List.cons_ne_nil bad rest)).symm
  | cons x items ih =>
    rw [List.mapM_cons]
    constructor
    · intro h
      cases hx : f x with
      | error e' =>
        rw [hx] at h
        obtain rfl : e' = e := Except.error.inj h
        exact ⟨[], x, items, rfl, List.forall_mem_nil _, hx⟩
      | ok y =>
        rw [hx] at h
        cases hitems : items.mapM f with
        | ok ys =>
          rw [hitems] at h
          cases h
        | error e' =>
          rw [hitems] at h
          obtain rfl : e' = e := Except.error.inj h
          obtain ⟨good, bad, rest, rfl, hgood, hbad⟩ := ih.mp hitems
          exact ⟨x :: good, bad, rest, rfl, List.forall_mem_cons.mpr ⟨⟨y, hx⟩, hgood⟩, hbad⟩
    · rintro ⟨good, bad, rest, hsplit, hgood, hbad⟩
      rcases good with _ | ⟨first, good⟩
      · obtain ⟨rfl, rfl⟩ := List.cons.inj hsplit
        rw [hbad]
        rfl
      · obtain ⟨rfl, rfl⟩ := List.cons.inj hsplit
        obtain ⟨⟨y, hy⟩, hgood⟩ := List.forall_mem_cons.mp hgood
        rw [hy, ih.mpr ⟨good, bad, rest, rfl, hgood, hbad⟩]
        rfl

/-- A run through a list succeeds only if it takes every item. -/
theorem exists_step_of_foldlM {step : β → α → Except ε β} {items : List α} {x : α} (hx : x ∈ items)
    {b b' : β} (h : items.foldlM step b = .ok b') : ∃ c c', step c x = .ok c' := by
  induction items generalizing b with
  | nil => cases hx
  | cons y items ih =>
    rw [List.foldlM_cons] at h
    cases hy : step b y with
    | error e =>
      rw [hy] at h
      cases h
    | ok c =>
      rw [hy] at h
      rcases List.mem_cons.mp hx with rfl | hx
      · exact ⟨b, c, hy⟩
      · exact ih hx h

theorem exists_map_eq_ok {items : List α} (h : ∀ x ∈ items, ∃ y, f x = .ok y) :
    ∃ results : List β, items.map f = results.map .ok := by
  cases hitems : items.mapM f with
  | ok results => exact ⟨results, mapM_eq_ok_iff.mp hitems⟩
  | error e =>
    obtain ⟨good, bad, rest, rfl, _, hbad⟩ := mapM_eq_error_iff.mp hitems
    obtain ⟨y, hy⟩ := h bad (List.mem_append_right good List.mem_cons_self)
    cases hbad.symm.trans hy

theorem exists_eq_ok_of_mem {items : List α} {results : List β} (h : items.map f = results.map .ok)
    {x : α} (hx : x ∈ items) : ∃ y, f x = .ok y := by
  have hmem : f x ∈ results.map Except.ok := h ▸ List.mem_map_of_mem hx
  obtain ⟨y, _, hy⟩ := List.mem_map.mp hmem
  exact ⟨y, hy.symm⟩

theorem map_eq_ok_of_replaced {x y : α} (h : ∀ z, f x = .ok z → f y = .ok z)
    {before after : List α} {results : List β}
    (hread : (before ++ x :: after).map f = results.map .ok) :
    (before ++ y :: after).map f = results.map .ok := by
  obtain ⟨z, hz⟩ := exists_eq_ok_of_mem hread (List.mem_append_right before List.mem_cons_self)
  have hsame : f y = f x := (h z hz).trans hz.symm
  rw [List.map_append, List.map_cons] at hread ⊢
  rwa [hsame]

theorem rel_of_pairwise {α : Type u} {κ : Type v} {key : α → κ} {R : α → α → Prop}
    (hsymm : ∀ x y, R x y → R y x) {items : List α} (h : items.Pairwise R) {x y : α}
    (hx : x ∈ items) (hy : y ∈ items) (hne : key x ≠ key y) : R x y := by
  have hforth : items.Pairwise fun x y ↦ key x ≠ key y → R x y := by
    refine h.imp ?_
    exact fun hxy _ ↦ hxy
  have hback : items.Pairwise (flip fun x y ↦ key x ≠ key y → R x y) := by
    refine h.imp ?_
    exact fun hxy _ ↦ hsymm _ _ hxy
  exact List.Pairwise.forall_of_forall_of_flip (fun _ _ hself ↦ absurd rfl hself) hforth hback
    hx hy hne

theorem find?_key_eq_some {α : Type u} {κ : Type v} [DecidableEq κ] {key : α → κ} {items : List α}
    (h : items.Pairwise fun x y ↦ key x ≠ key y) {x : α} (hx : x ∈ items) :
    items.find? (key · = key x) = some x := by
  induction items with
  | nil => cases hx
  | cons y items ih =>
    obtain ⟨hhead, htail⟩ := List.pairwise_cons.mp h
    rcases List.mem_cons.mp hx with rfl | hx
    · rw [List.find?_cons, decide_eq_true rfl]
    · rw [List.find?_cons, decide_eq_false (hhead x hx)]
      exact ih htail hx

/-! ## Values under a key -/

section ValuesUnder

variable {κ ν : Type} [DecidableEq κ] {k : κ} {v : ν} {e : κ × ν} {es es' : List (κ × ν)}

/-- The values that a list has under a key, in their order. -/
def valuesUnder (k : κ) (es : List (κ × ν)) : List ν :=
  es.filterMap fun e ↦ if e.1 = k then some e.2 else none

@[simp] theorem valuesUnder_nil : valuesUnder k ([] : List (κ × ν)) = [] := rfl

@[simp] theorem valuesUnder_cons_self : valuesUnder k ((k, v) :: es) = v :: valuesUnder k es :=
  List.filterMap_cons_some (if_pos rfl)

theorem valuesUnder_cons_of_ne (h : e.1 ≠ k) : valuesUnder k (e :: es) = valuesUnder k es :=
  List.filterMap_cons_none (if_neg h)

@[simp] theorem valuesUnder_append :
    valuesUnder k (es ++ es') = valuesUnder k es ++ valuesUnder k es' :=
  List.filterMap_append

theorem mem_valuesUnder_iff : v ∈ valuesUnder k es ↔ (k, v) ∈ es := by
  simp only [valuesUnder, List.mem_filterMap, Option.ite_none_right_eq_some, Option.some.injEq]
  constructor
  · rintro ⟨⟨_, _⟩, he, rfl, rfl⟩
    exact he
  · intro he
    exact ⟨(k, v), he, rfl, rfl⟩

theorem valuesUnder_map_of_distinct {α : Type u} {key : α → κ} (value : α → ν) {items : List α}
    (h : items.Pairwise fun x y ↦ key x ≠ key y) {x : α} (hx : x ∈ items) :
    valuesUnder (key x) (items.map fun x ↦ (key x, value x)) = [value x] := by
  induction items with
  | nil => cases hx
  | cons y items ih =>
    obtain ⟨hhead, htail⟩ := List.pairwise_cons.mp h
    rw [List.map_cons]
    rcases List.mem_cons.mp hx with rfl | hx
    · have hnone : valuesUnder (key x) (items.map fun x ↦ (key x, value x)) = [] := by
        refine List.filterMap_eq_nil_iff.mpr (List.forall_mem_map.mpr fun y hy ↦ ?_)
        exact if_neg (hhead y hy).symm
      rw [valuesUnder_cons_self, hnone]
    · have hne : (key y, value y).1 ≠ key x := hhead x hx
      rw [valuesUnder_cons_of_ne hne]
      exact ih htail hx

end ValuesUnder

end MeshSurvey
