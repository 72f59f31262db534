import MeshSurvey.Text.Split

/-!
# Cuts and what they are cut from

Cutting a text and joining its parts undo each other, as long as the separator does not stand within
the parts. So a cut is described by the text that the parts make up, and nothing has to be said
about how it is found.
-/

namespace MeshSurvey.Text

/-! ## One separator -/

theorem toList_append_slash (front back : String) :
    (front ++ "/" ++ back).toList = front.toList ++ '/' :: back.toList := by
  rw [String.toList_append, String.toList_append, List.append_assoc]
  rfl

theorem cutFirst_append {sep : Char} {front : List Char} (h : sep ∉ front) (back : List Char) :
    cutFirst sep (front ++ sep :: back) = some (front, back) := by
  induction front with
  | nil => rw [List.nil_append, cutFirst, if_pos rfl]
  | cons c front ih =>
    have hc : c ≠ sep := fun heq ↦ h (heq ▸ List.mem_cons_self)
    rw [List.cons_append, cutFirst, if_neg hc, ih fun hmem ↦ h (List.mem_cons_of_mem c hmem)]
    rfl

theorem cutFirst_eq_some_iff {sep : Char} {cs front back : List Char} :
    cutFirst sep cs = some (front, back) ↔ cs = front ++ sep :: back ∧ sep ∉ front := by
  constructor
  · intro h
    induction cs generalizing front with
    | nil => cases h
    | cons c cs ih =>
      rw [cutFirst] at h
      split at h
      next hc =>
        obtain ⟨rfl, rfl⟩ := Prod.mk.inj (Option.some.inj h)
        exact ⟨congrArg (· :: cs) hc, List.not_mem_nil⟩
      next hc =>
        obtain ⟨⟨front', back'⟩, hcut, heq⟩ := Option.map_eq_some_iff.mp h
        obtain ⟨rfl, rfl⟩ := Prod.mk.inj heq
        obtain ⟨rfl, hfront⟩ := ih hcut
        exact ⟨rfl, List.not_mem_cons_of_ne_of_not_mem (Ne.symm hc) hfront⟩
  · rintro ⟨rfl, hfront⟩
    exact cutFirst_append hfront back

theorem cutLast_append_cons {sep : Char} (front : List Char) {back : List Char} (h : sep ∉ back) :
    cutLast sep (front ++ sep :: back) = some (front, back) := by
  induction front with
  | nil => rw [List.nil_append, cutLast, cutLast_eq_none_iff.mpr h, if_pos rfl]
  | cons c front ih => rw [List.cons_append, cutLast, ih]

theorem cutLast_append {sep : Char} (front : List Char) {back : List Char} (h : sep ∉ back) :
    cutLast sep (front ++ back) = (cutLast sep front).map fun (a, b) ↦ (a, b ++ back) := by
  induction front with
  | nil => exact cutLast_eq_none_iff.mpr h
  | cons c front ih =>
    rw [List.cons_append, cutLast, cutLast, ih]
    cases cutLast sep front with
    | some _ => rfl
    | none => by_cases hc : c = sep <;> simp [hc]

theorem exists_eq_append_cons {sep : Char} {cs : List Char} (h : sep ∈ cs) :
    ∃ front back, cs = front ++ sep :: back ∧ sep ∉ back := by
  induction cs with
  | nil => cases h
  | cons c cs ih =>
    by_cases hmem : sep ∈ cs
    · obtain ⟨front, back, rfl, hback⟩ := ih hmem
      exact ⟨c :: front, back, rfl, hback⟩
    · rcases List.mem_cons.mp h with rfl | hmem'
      · exact ⟨[], cs, rfl, hmem⟩
      · exact absurd hmem' hmem

theorem cutLast_eq_some_iff {sep : Char} {cs front back : List Char} :
    cutLast sep cs = some (front, back) ↔ cs = front ++ sep :: back ∧ sep ∉ back := by
  constructor
  · intro h
    have hmem : sep ∈ cs := Decidable.not_not.mp fun hnot ↦ by
      rw [cutLast_eq_none_iff.mpr hnot] at h
      cases h
    obtain ⟨front', back', rfl, hback⟩ := exists_eq_append_cons hmem
    rw [cutLast_append_cons front' hback] at h
    obtain ⟨rfl, rfl⟩ := Prod.mk.inj (Option.some.inj h)
    exact ⟨rfl, hback⟩
  · rintro ⟨rfl, hback⟩
    exact cutLast_append_cons front hback

/-- A text is cut at its last separator in one way only. -/
theorem append_cons_inj {sep : Char} {front front' back back' : List Char} (h : sep ∉ back)
    (h' : sep ∉ back') :
    front ++ sep :: back = front' ++ sep :: back' ↔ front = front' ∧ back = back' := by
  constructor
  · intro heq
    have hcut := cutLast_append_cons front h
    rw [heq, cutLast_append_cons front' h'] at hcut
    obtain ⟨hfront, hback⟩ := Prod.mk.inj (Option.some.inj hcut)
    exact ⟨hfront.symm, hback.symm⟩
  · rintro ⟨rfl, rfl⟩
    rfl

/-! ## Every separator -/

theorem forall_mem_intercalate {p : Char → Prop} {sep : List Char} (hsep : ∀ c ∈ sep, p c)
    {pieces : List (List Char)} (hpieces : ∀ piece ∈ pieces, ∀ c ∈ piece, p c) :
    ∀ c ∈ sep.intercalate pieces, p c := by
  induction pieces with
  | nil => exact fun c hc ↦ absurd hc List.not_mem_nil
  | cons piece pieces ih =>
    obtain ⟨hpiece, hrest⟩ := List.forall_mem_cons.mp hpieces
    by_cases hne : pieces = []
    · subst hne
      rw [List.intercalate_singleton]
      exact hpiece
    · rw [List.intercalate_cons_of_ne_nil hne]
      simp only [List.forall_mem_append]
      exact ⟨⟨hpiece, hsep⟩, ih hrest⟩

theorem count_intercalate_le {sep : Char} {pieces : List (List Char)}
    (hpieces : ∀ piece ∈ pieces, sep ∉ piece) :
    ([sep].intercalate pieces).count sep ≤ pieces.length := by
  induction pieces with
  | nil => exact Nat.le_refl 0
  | cons piece pieces ih =>
    obtain ⟨hpiece, hrest⟩ := List.forall_mem_cons.mp hpieces
    have hcount : piece.count sep = 0 := List.count_eq_zero.mpr hpiece
    by_cases hne : pieces = []
    · subst hne
      rw [List.intercalate_singleton, hcount]
      exact Nat.zero_le _
    · rw [List.intercalate_cons_of_ne_nil hne, List.count_append, List.count_append, hcount,
        List.count_singleton_self, List.length_cons]
      have hle := ih hrest
      omega

theorem piecesBy_eq_singleton {separates : Char → Bool} {cs : List Char}
    (h : ∀ c ∈ cs, separates c = false) : piecesBy separates cs = [cs] := by
  induction cs with
  | nil => rfl
  | cons c cs ih =>
    obtain ⟨hc, hcs⟩ := List.forall_mem_cons.mp h
    rw [piecesBy, if_neg (by simp [hc]), ih hcs, List.modifyHead_cons]

theorem piecesBy_append_cons {separates : Char → Bool} {front : List Char}
    (h : ∀ c ∈ front, separates c = false) {sep : Char} (hsep : separates sep = true)
    (back : List Char) :
    piecesBy separates (front ++ sep :: back) = front :: piecesBy separates back := by
  induction front with
  | nil => rw [List.nil_append, piecesBy, if_pos hsep]
  | cons c front ih =>
    obtain ⟨hc, hfront⟩ := List.forall_mem_cons.mp h
    rw [List.cons_append, piecesBy, if_neg (by simp [hc]), ih hfront, List.modifyHead_cons]

theorem pieces_cons_self (sep : Char) (cs : List Char) :
    pieces sep (sep :: cs) = [] :: pieces sep cs := by
  rw [pieces, piecesBy, if_pos (decide_eq_true rfl)]

theorem pieces_cons_of_ne {sep c : Char} (h : c ≠ sep) (cs : List Char) :
    pieces sep (c :: cs) = (pieces sep cs).modifyHead (c :: ·) := by
  rw [pieces, piecesBy, if_neg (by simpa using h)]

theorem forall_ne_of_notMem {sep : Char} {cs : List Char} (h : sep ∉ cs) :
    ∀ c ∈ cs, decide (c = sep) = false := by
  intro c hc
  rw [decide_eq_false_iff_not]
  rintro rfl
  exact h hc

theorem pieces_eq_singleton {sep : Char} {cs : List Char} (h : sep ∉ cs) :
    pieces sep cs = [cs] :=
  piecesBy_eq_singleton (forall_ne_of_notMem h)

theorem pieces_append_cons {sep : Char} {front : List Char} (h : sep ∉ front) (back : List Char) :
    pieces sep (front ++ sep :: back) = front :: pieces sep back :=
  piecesBy_append_cons (forall_ne_of_notMem h) (decide_eq_true rfl) back

theorem intercalate_pieces (sep : Char) (cs : List Char) :
    [sep].intercalate (pieces sep cs) = cs := by
  induction cs with
  | nil => rfl
  | cons c cs ih =>
    obtain ⟨piece, others, hpieces⟩ :=
      List.exists_cons_of_ne_nil (piecesBy_ne_nil (fun c ↦ decide (c = sep)) cs)
    change pieces sep cs = piece :: others at hpieces
    by_cases hc : c = sep
    · subst hc
      rw [pieces_cons_self, List.intercalate_cons_of_ne_nil (by simp [hpieces]), ih]
      rfl
    · rw [pieces_cons_of_ne hc, hpieces, List.modifyHead_cons]
      rw [hpieces] at ih
      cases others with
      | nil =>
        rw [List.intercalate_singleton] at ih ⊢
        rw [ih]
      | cons other others =>
        rw [List.intercalate_cons_cons] at ih ⊢
        rw [← ih]
        rfl

theorem notMem_of_mem_pieces {sep : Char} {cs piece : List Char} (h : piece ∈ pieces sep cs) :
    sep ∉ piece := by
  induction cs generalizing piece with
  | nil =>
    obtain rfl := List.mem_singleton.mp h
    exact List.not_mem_nil
  | cons c cs ih =>
    by_cases hc : c = sep
    · subst hc
      rw [pieces_cons_self] at h
      rcases List.mem_cons.mp h with rfl | h
      · exact List.not_mem_nil
      · exact ih h
    · rw [pieces_cons_of_ne hc] at h
      cases hpieces : pieces sep cs with
      | nil => exact absurd hpieces (piecesBy_ne_nil _ cs)
      | cons first others =>
        rw [hpieces] at h ih
        rcases List.mem_cons.mp h with rfl | h
        · rw [List.mem_cons, not_or]
          exact ⟨Ne.symm hc, ih List.mem_cons_self⟩
        · exact ih (List.mem_cons_of_mem first h)

theorem mem_of_mem_pieces {sep c : Char} {cs piece : List Char} (h : piece ∈ pieces sep cs)
    (hc : c ∈ piece) : c ∈ cs := by
  have hflat : c ∈ (pieces sep cs).flatten := List.mem_flatten_of_mem h hc
  rw [pieces, flatten_piecesBy] at hflat
  exact (List.mem_filter.mp hflat).1

/-- There is one way to cut a text into pieces that do not contain the separator. -/
theorem pieces_eq_iff {sep : Char} {cs piece : List Char} {others : List (List Char)} :
    pieces sep cs = piece :: others ↔
      cs = [sep].intercalate (piece :: others) ∧ ∀ p ∈ piece :: others, sep ∉ p := by
  constructor
  · intro h
    exact ⟨h ▸ (intercalate_pieces sep cs).symm, fun p hp ↦ notMem_of_mem_pieces (h ▸ hp)⟩
  · rintro ⟨rfl, hpieces⟩
    induction others generalizing piece with
    | nil =>
      rw [List.intercalate_singleton]
      exact pieces_eq_singleton (hpieces piece List.mem_cons_self)
    | cons other others ih =>
      obtain ⟨hpiece, hothers⟩ := List.forall_mem_cons.mp hpieces
      rw [List.intercalate_cons_cons, List.append_assoc, List.singleton_append,
        pieces_append_cons hpiece, ih hothers]

end MeshSurvey.Text
