/-!
# Cutting text at separators

Cuts of a list of characters at the first, the last or every occurrence of a separator, at the ends
of lines, and at blanks.
-/

namespace MeshSurvey.Text

/-! ## One separator -/

/-- What stands before the first separator, and what follows it. -/
def cutFirst (sep : Char) : List Char → Option (List Char × List Char)
  | [] => none
  | c :: cs =>
    if c = sep then some ([], cs)
    else (cutFirst sep cs).map fun (front, back) ↦ (c :: front, back)

/-- What stands before the last separator, and what follows it. -/
def cutLast (sep : Char) : List Char → Option (List Char × List Char)
  | [] => none
  | c :: cs =>
    match cutLast sep cs with
    | some (front, back) => some (c :: front, back)
    | none => if c = sep then some ([], cs) else none

theorem cutLast_eq_none_iff {sep : Char} {cs : List Char} :
    cutLast sep cs = none ↔ sep ∉ cs := by
  induction cs with
  | nil => simp [cutLast]
  | cons c cs ih =>
    cases hc : cutLast sep cs with
    | none =>
      by_cases h : c = sep
      · simp [cutLast, hc, h]
      · simp [cutLast, hc, h, Ne.symm h, ← ih]
    | some p =>
      have : sep ∈ cs := Decidable.not_not.1 fun hn ↦ by simp [ih.2 hn] at hc
      simp [cutLast, hc, this]

/-! ## Every separator -/

/-- The pieces between the separating characters: one more than there are such characters. -/
def piecesBy (separates : Char → Bool) : List Char → List (List Char)
  | [] => [[]]
  | c :: cs =>
    if separates c then [] :: piecesBy separates cs
    else (piecesBy separates cs).modifyHead (c :: ·)

/-- The pieces between occurrences of one separator. -/
def pieces (sep : Char) : List Char → List (List Char) := piecesBy (· = sep)

theorem piecesBy_ne_nil (separates : Char → Bool) (cs : List Char) :
    piecesBy separates cs ≠ [] := by
  induction cs with
  | nil => simp [piecesBy]
  | cons c cs ih => by_cases h : separates c <;> simp [piecesBy, h, ih]

theorem flatten_piecesBy (separates : Char → Bool) (cs : List Char) :
    (piecesBy separates cs).flatten = cs.filter (!separates ·) := by
  induction cs with
  | nil => rfl
  | cons c cs ih =>
    by_cases h : separates c
    · simp [piecesBy, h, ih]
    · obtain ⟨p, ps, hp⟩ := List.exists_cons_of_ne_nil (piecesBy_ne_nil separates cs)
      simp_all [piecesBy]

/-! ## Blanks and lines -/

/-- Whether a character separates words: the property `White_Space`. -/
def isBlank (c : Char) : Bool :=
  let n := c.toNat
  0x09 ≤ n && n ≤ 0x0D || n = 0x20 || n = 0x85 || n = 0xA0 || n = 0x1680 ||
    0x2000 ≤ n && n ≤ 0x200A || n = 0x2028 || n = 0x2029 || n = 0x202F || n = 0x205F || n = 0x3000

/-- The words of a text: its longest stretches without blanks. -/
def words (text : List Char) : List (List Char) :=
  (piecesBy isBlank text).filter (!·.isEmpty)

/-- A line without the carriage return that ends it. -/
def dropReturn (line : List Char) : List Char :=
  if line.getLast? = some '\r' then line.dropLast else line

/-- The lines of a text. A line feed ends a line, together with a carriage return before it; the
empty piece after a final line feed is no line. -/
def lines (text : List Char) : List (List Char) :=
  let ps := pieces '\n' text
  let last := ps.getLastD []
  ps.dropLast.map dropReturn ++ if last.isEmpty then [] else [last]

end MeshSurvey.Text
