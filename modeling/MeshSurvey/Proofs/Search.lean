import Mathlib.Data.List.Lex

/-!
# Searching in order

A search through lists within lists finds what stands first. A place is a list of positions, from
the outermost list inwards, and places are ordered as words are: an earlier item comes before a
later one, with all that stands within it. So what a search finds is described by the place where it
stands and by there being nothing at any place before, and how the search goes about it need not be
said.
-/

namespace MeshSurvey

universe u v

variable {α : Type u} {β : Type v}

/-! ## Searching through a list -/

theorem findSome?_filterMap {γ : Type u} (g : γ → Option α) (f : α → Option β) (xs : List γ) :
    (xs.filterMap g).findSome? f = xs.findSome? fun x ↦ (g x).bind f := by
  induction xs with
  | nil => rfl
  | cons x xs ih =>
    rw [List.findSome?_cons, ← ih]
    cases hx : g x with
    | none => rw [List.filterMap_cons_none hx, Option.bind_none]
    | some y => rw [List.filterMap_cons_some hx, Option.bind_some, List.findSome?_cons]

theorem findSome?_flatMap {γ : Type u} (g : γ → List α) (f : α → Option β) (xs : List γ) :
    (xs.flatMap g).findSome? f = xs.findSome? fun x ↦ (g x).findSome? f := by
  induction xs with
  | nil => rfl
  | cons x xs ih =>
    rw [List.flatMap_cons, List.findSome?_append, ih, List.findSome?_cons]
    cases (g x).findSome? f <;> rfl

theorem findSome?_congr {f g : α → Option β} {xs : List α} (h : ∀ x ∈ xs, f x = g x) :
    xs.findSome? f = xs.findSome? g := by
  induction xs with
  | nil => rfl
  | cons x xs ih =>
    obtain ⟨hx, hxs⟩ := List.forall_mem_cons.mp h
    rw [List.findSome?_cons, List.findSome?_cons, hx, ih hxs]

theorem find?_eq_find?_of_imp {p q : α → Bool} {xs : List α} (himp : ∀ x, q x = true → p x = true)
    (hfirst : ∀ x, xs.find? p = some x → q x = true) : xs.find? p = xs.find? q := by
  cases hp : xs.find? p with
  | none =>
    rw [List.find?_eq_none] at hp
    exact (List.find?_eq_none.mpr fun x hx hq ↦ hp x hx (himp x hq)).symm
  | some x =>
    obtain ⟨-, front, back, rfl, hfront⟩ := List.find?_eq_some_iff_append.mp hp
    refine (List.find?_eq_some_iff_append.mpr ⟨hfirst x hp, front, back, rfl, ?_⟩).symm
    intro y hy
    have hnot : p y = false := by simpa using hfront y hy
    cases hq : q y with
    | false => rfl
    | true => exact absurd (himp y hq) (by simp [hnot])

/-! ## What is found first -/

/-- What is found is what stands at the first place where anything stands. -/
structure FindsFirst (found : Option β) (StandsAt : List Nat → β → Prop) : Prop where
  /-- At one place there is at most one thing. -/
  unique {place : List Nat} {b b' : β} (h : StandsAt place b) (h' : StandsAt place b') : b = b'
  /-- What is found stands somewhere, and nothing stands before. -/
  of_some {b : β} (h : found = some b) :
    ∃ place, StandsAt place b ∧ ∀ earlier < place, ∀ other, ¬ StandsAt earlier other
  /-- If nothing is found, there is nothing. -/
  of_none (h : found = none) (place : List Nat) (b : β) : ¬ StandsAt place b

/-- Something stands within one of the items of a list. -/
inductive Within (items : List α) (StandsAt : α → List Nat → β → Prop) : List Nat → β → Prop where
  /-- The position of the item comes before the place within it. -/
  | item {i : Nat} {x : α} {place : List Nat} {b : β} (hitem : items[i]? = some x)
    (h : StandsAt x place b) : Within items StandsAt (i :: place) b

/-- Something stands where the first of two searches goes, or else where the second one does. -/
inductive InTurn (FirstAt SecondAt : List Nat → β → Prop) : List Nat → β → Prop where
  /-- It stands where the first one goes. -/
  | first {place : List Nat} {b : β} (h : FirstAt place b) : InTurn FirstAt SecondAt (0 :: place) b
  /-- It stands where the second one goes. -/
  | second {place : List Nat} {b : β} (h : SecondAt place b) :
    InTurn FirstAt SecondAt (1 :: place) b

namespace FindsFirst

variable {found : Option β} {StandsAt : List Nat → β → Prop}

/-- What is found is said by the places alone. -/
theorem eq_some_iff (h : FindsFirst found StandsAt) {b : β} :
    found = some b ↔
      ∃ place, StandsAt place b ∧ ∀ earlier < place, ∀ other, ¬ StandsAt earlier other := by
  refine ⟨h.of_some, ?_⟩
  rintro ⟨place, hb, hfirst⟩
  cases hfound : found with
  | none => exact absurd hb (h.of_none hfound place b)
  | some c =>
    obtain ⟨place', hc, hfirst'⟩ := h.of_some hfound
    rcases lt_trichotomy place place' with hlt | rfl | hlt
    · exact absurd hb (hfirst' place hlt b)
    · rw [h.unique hb hc]
    · exact absurd hc (hfirst place' hlt c)

theorem eq_none_iff (h : FindsFirst found StandsAt) :
    found = none ↔ ∀ place b, ¬ StandsAt place b := by
  refine ⟨h.of_none, fun hnone ↦ ?_⟩
  cases hfound : found with
  | none => rfl
  | some b =>
    obtain ⟨place, hb, -⟩ := h.of_some hfound
    exact absurd hb (hnone place b)

theorem single (found : Option β) : FindsFirst found fun place b ↦ place = [] ∧ found = some b where
  unique := fun ⟨_, hb⟩ ⟨_, hb'⟩ ↦ Option.some.inj (hb.symm.trans hb')
  of_some hb := ⟨[], ⟨rfl, hb⟩, fun earlier hlt ↦ absurd hlt (List.not_lt_nil earlier)⟩
  of_none := by
    rintro hnone place b ⟨-, hb⟩
    rw [hnone] at hb
    cases hb

theorem congr {StandsAt' : List Nat → β → Prop} (h : FindsFirst found StandsAt)
    (heq : ∀ place b, StandsAt' place b ↔ StandsAt place b) : FindsFirst found StandsAt' := by
  obtain rfl : StandsAt' = StandsAt := by
    funext place b
    exact propext (heq place b)
  exact h

/-- A list is searched item by item, each of them to its end before the next. -/
theorem within {f : α → Option β} {StandsAt : α → List Nat → β → Prop} {items : List α}
    (h : ∀ x ∈ items, FindsFirst (f x) (StandsAt x)) :
    FindsFirst (items.findSome? f) (Within items StandsAt) where
  unique := by
    rintro _ b b' ⟨hx, hb⟩ ⟨hx', hb'⟩
    obtain rfl := Option.some.inj (hx.symm.trans hx')
    exact (h _ (List.mem_of_getElem? hx)).unique hb hb'
  of_some := by
    intro b hb
    obtain ⟨before, x, after, rfl, hx, hbefore⟩ := List.findSome?_eq_some_iff.mp hb
    obtain ⟨place, hplace, hfirst⟩ := (h x (by simp)).of_some hx
    refine ⟨before.length :: place, .item (by simp) hplace, ?_⟩
    rintro _ hlt other ⟨hitem, hother⟩
    rcases List.cons_lt_cons_iff.mp hlt with hindex | ⟨rfl, hwithin⟩
    · -- in front of the item nothing is found, so nothing stands there
      rw [List.getElem?_append_left hindex] at hitem
      have hmem := List.mem_of_getElem? hitem
      have hfinds := h _ (List.mem_append_left _ hmem)
      exact hfinds.of_none (hbefore _ hmem) _ _ hother
    · rw [List.getElem?_append_right (Nat.le_refl _), Nat.sub_self, List.getElem?_cons_zero] at hitem
      obtain rfl := Option.some.inj hitem
      exact hfirst _ hwithin other hother
  of_none := by
    rintro hnone _ b ⟨hitem, hb⟩
    have hmem := List.mem_of_getElem? hitem
    exact (h _ hmem).of_none (List.findSome?_eq_none_iff.mp hnone _ hmem) _ _ hb

/-- The second of two searches is for what the first one does not find. -/
theorem inTurn {first second : Option β} {FirstAt SecondAt : List Nat → β → Prop}
    (hfirst : FindsFirst first FirstAt) (hsecond : FindsFirst second SecondAt) :
    FindsFirst (first.or second) (InTurn FirstAt SecondAt) := by
  -- two searches in turn are a search through a list of two
  have hlist : FindsFirst ([(first, FirstAt), (second, SecondAt)].findSome? Prod.fst)
      (Within [(first, FirstAt), (second, SecondAt)] Prod.snd) :=
    within (by simpa using ⟨hfirst, hsecond⟩)
  have hor : [(first, FirstAt), (second, SecondAt)].findSome? Prod.fst = first.or second := by
    rw [List.findSome?_cons, List.findSome?_cons, List.findSome?_nil]
    cases first <;> cases second <;> rfl
  rw [hor] at hlist
  refine hlist.congr fun place b ↦ ⟨?_, ?_⟩
  · rintro (h | h)
    · exact .item rfl h
    · exact .item rfl h
  · rintro (@⟨i, x, place, _, hitem, h⟩)
    match i, hitem with
    | 0, rfl => exact .first h
    | 1, rfl => exact .second h

end FindsFirst

end MeshSurvey
