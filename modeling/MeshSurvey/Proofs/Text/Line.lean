import MeshSurvey.Proofs.Text.Split

/-!
# Lines and their words

A text with words is described by what stands where: words and blanks, and a blank or the end behind
every word. Every text has its words in one way, and these are the ones that cutting finds. Lines
that are each ended by a line feed are found again by cutting, apart from carriage returns at their
ends; and these are blanks, so that the words stay the same.
-/

namespace MeshSurvey.Text

/-! ## Words -/

/-- A word: some characters, none of them blank. -/
structure IsWord (cs : List Char) : Prop where
  ne_nil : cs ≠ []
  notBlank : ∀ c ∈ cs, isBlank c = false

theorem isWord_iff {cs : List Char} : IsWord cs ↔ cs ≠ [] ∧ cs.all (!isBlank ·) = true := by
  simp only [List.all_eq_true, Bool.not_eq_true']
  exact ⟨fun ⟨hne, hblank⟩ ↦ ⟨hne, hblank⟩, fun ⟨hne, hblank⟩ ↦ ⟨hne, hblank⟩⟩

instance (cs : List Char) : Decidable (IsWord cs) := decidable_of_iff' _ isWord_iff

/-- The words of a text, in their order. -/
inductive HasWords : List (List Char) → List Char → Prop where
  /-- The empty text has no words. -/
  | nil : HasWords [] []
  /-- A blank stands before the rest. -/
  | blank {ws : List (List Char)} {text : List Char} {c : Char} (hc : isBlank c = true)
    (h : HasWords ws text) : HasWords ws (c :: text)
  /-- A word stands before the rest, and it ends there. -/
  | word {w : List Char} {ws : List (List Char)} {text : List Char} (hw : IsWord w)
    (hend : ∀ c ∈ text.head?, isBlank c = true) (h : HasWords ws text) :
    HasWords (w :: ws) (w ++ text)

theorem words_cons_of_blank {c : Char} (hc : isBlank c = true) (cs : List Char) :
    words (c :: cs) = words cs := by
  rw [words, piecesBy, if_pos hc]
  exact List.filter_cons_of_neg (by simp)

theorem words_append {w : List Char} (hw : IsWord w) {text : List Char}
    (hend : ∀ c ∈ text.head?, isBlank c = true) : words (w ++ text) = w :: words text := by
  have hkept : (!w.isEmpty) = true := by simpa using hw.ne_nil
  cases text with
  | nil =>
    rw [List.append_nil, words, piecesBy_eq_singleton hw.notBlank]
    exact List.filter_cons_of_pos hkept
  | cons c rest =>
    have hc : isBlank c = true := hend c rfl
    rw [words_cons_of_blank hc, words, piecesBy_append_cons hw.notBlank hc]
    exact List.filter_cons_of_pos hkept

theorem HasWords.exists_cons {ws : List (List Char)} {text : List Char} (h : HasWords ws text)
    {c : Char} (hc : isBlank c = false) : ∃ ws', HasWords ws' (c :: text) := by
  have hsingle : IsWord [c] := ⟨List.cons_ne_nil _ _, List.forall_mem_singleton.mpr hc⟩
  induction h with
  | nil => exact ⟨_, .word hsingle nofun .nil⟩
  | blank hb h => exact ⟨_, .word hsingle (fun _ hhead ↦ Option.some.inj hhead ▸ hb) (.blank hb h)⟩
  | @word w _ _ hw hend h =>
    have hlonger : IsWord (c :: w) :=
      ⟨List.cons_ne_nil _ _, List.forall_mem_cons.mpr ⟨hc, hw.notBlank⟩⟩
    exact ⟨_, .word hlonger hend h⟩

theorem exists_hasWords (text : List Char) : ∃ ws, HasWords ws text := by
  induction text with
  | nil => exact ⟨_, .nil⟩
  | cons c cs ih =>
    obtain ⟨ws, h⟩ := ih
    by_cases hc : isBlank c = true
    · exact ⟨ws, .blank hc h⟩
    · exact h.exists_cons (Bool.eq_false_iff.mpr hc)

theorem HasWords.words_eq {ws : List (List Char)} {text : List Char} (h : HasWords ws text) :
    words text = ws := by
  induction h with
  | nil => rfl
  | blank hc _ ih => rw [words_cons_of_blank hc, ih]
  | word hw hend _ ih => rw [words_append hw hend, ih]

/-- Cutting finds the words that a text has. -/
theorem hasWords_iff {ws : List (List Char)} {text : List Char} :
    HasWords ws text ↔ words text = ws := by
  constructor
  · exact HasWords.words_eq
  · rintro rfl
    obtain ⟨ws, h⟩ := exists_hasWords text
    exact h.words_eq ▸ h

theorem hasWords_nil {gap : List Char} (h : ∀ c ∈ gap, isBlank c = true) : HasWords [] gap := by
  induction gap with
  | nil => exact .nil
  | cons c gap ih =>
    obtain ⟨hc, hgap⟩ := List.forall_mem_cons.mp h
    exact .blank hc (ih hgap)

theorem hasWords_intercalate {sep : Char} (hsep : isBlank sep = true) {gap : List Char}
    (hgap : ∀ c ∈ gap, isBlank c = true) {ws : List (List Char)} (hws : ∀ w ∈ ws, IsWord w) :
    HasWords ws ([sep].intercalate ws ++ gap) := by
  induction ws with
  | nil => exact hasWords_nil hgap
  | cons w ws ih =>
    obtain ⟨hw, hws⟩ := List.forall_mem_cons.mp hws
    by_cases hne : ws = []
    · subst hne
      rw [List.intercalate_singleton]
      exact .word hw (fun c hc ↦ hgap c (List.mem_of_mem_head? hc)) (hasWords_nil hgap)
    · rw [List.intercalate_cons_of_ne_nil hne, List.append_assoc, List.append_assoc]
      exact .word hw (fun _ hc ↦ Option.some.inj hc ▸ hsep) (.blank hsep (ih hws))

theorem HasWords.append_blank {ws : List (List Char)} {text : List Char} (h : HasWords ws text)
    {b : Char} (hb : isBlank b = true) : HasWords ws (text ++ [b]) := by
  induction h with
  | nil => exact .blank hb .nil
  | blank hc _ ih => exact .blank hc ih
  | @word w _ text hw hend _ ih =>
    rw [List.append_assoc]
    refine .word hw ?_ ih
    cases text with
    | nil => exact fun _ hc ↦ Option.some.inj hc ▸ hb
    | cons c rest => exact hend

theorem words_dropReturn (line : List Char) : words (dropReturn line) = words line := by
  rw [dropReturn]
  split
  next h =>
    obtain ⟨front, rfl⟩ := List.getLast?_eq_some_iff.mp h
    rw [List.dropLast_concat]
    have hwords := (hasWords_iff.mpr (rfl : words front = _)).append_blank (b := '\r') (by decide)
    exact hwords.words_eq.symm
  next => rfl

/-! ## Lines -/

theorem pieces_flatMap {sep : Char} {ls : List (List Char)} (h : ∀ l ∈ ls, sep ∉ l) :
    pieces sep (ls.flatMap (· ++ [sep])) = ls ++ [[]] := by
  induction ls with
  | nil => rfl
  | cons l ls ih =>
    obtain ⟨hl, hls⟩ := List.forall_mem_cons.mp h
    rw [List.flatMap_cons, List.append_assoc, List.singleton_append, pieces_append_cons hl, ih hls,
      List.cons_append]

theorem lines_flatMap {ls : List (List Char)} (h : ∀ l ∈ ls, '\n' ∉ l) :
    lines (ls.flatMap (· ++ ['\n'])) = ls.map dropReturn := by
  rw [lines, pieces_flatMap h, List.dropLast_concat, List.getLastD_concat, List.isEmpty_nil,
    if_pos rfl, List.append_nil]

end MeshSurvey.Text
