import MeshSurvey.Json.Bytes
import MeshSurvey.Proofs.Json.Scalar
import MeshSurvey.Proofs.Wire.Codec

/-!
# Values survive their text

The text of a value is read back as the value with the members of its objects *arranged* as the
reader arranges them. This needs that the value *fits*: numbers have to be such as a text can
denote, and arrays and objects must not nest too deep for the reader.

Neither array nor object is read differently for what stands behind it, but a number is, so that
each value is read in front of something that ends numbers.
-/

namespace MeshSurvey.Json

/-! ## What is read -/

section Arranged

variable (arrange : List (String × Json) → List (String × Json))

mutual

/-- The value in which the members of all objects are arranged. -/
def arrangedBy : Json → Json
  | .null => .null
  | .bool b => .bool b
  | .integer n => .integer n
  | .real digits exponent => .real digits exponent
  | .string s => .string s
  | .array items => .array (arrangedItems items)
  | .object members => .object (arrange (arrangedMembers members))

/-- The items, each arranged. -/
def arrangedItems : List Json → List Json
  | [] => []
  | v :: vs => arrangedBy v :: arrangedItems vs

/-- The members, each value arranged. -/
def arrangedMembers : List (String × Json) → List (String × Json)
  | [] => []
  | (name, v) :: ms => (name, arrangedBy v) :: arrangedMembers ms

end

theorem arrangedItems_eq_map (items : List Json) :
    arrangedItems arrange items = items.map (arrangedBy arrange) := by
  induction items with
  | nil => rw [arrangedItems, List.map_nil]
  | cons v vs ih => rw [arrangedItems, ih, List.map_cons]

theorem arrangedMembers_eq_map (members : List (String × Json)) :
    arrangedMembers arrange members = members.map fun m ↦ (m.1, m.2.arrangedBy arrange) := by
  induction members with
  | nil => rw [arrangedMembers, List.map_nil]
  | cons m ms ih => rw [arrangedMembers, ih, List.map_cons]

end Arranged

/-- The value can be read from its text by a reader of values that nest `depth` deep. -/
def Fits : (depth : Nat) → Json → Prop
  | _, .null | _, .bool _ | _, .string _ => True
  | _, .integer n => minInteger ≤ n ∧ n ≤ maxInteger
  | _, .real digits exponent =>
    Reader.overflows (Nat.toDigits 10 digits.natAbs).length digits.natAbs exponent = false
  | 0, .array _ | 0, .object _ => False
  | depth + 1, .array items => ∀ v ∈ items, v.Fits depth
  | depth + 1, .object members => ∀ m ∈ members, m.2.Fits depth

theorem Fits.succ {depth : Nat} {v : Json} (h : v.Fits depth) : v.Fits (depth + 1) := by
  induction depth generalizing v with
  | zero =>
    cases v with
    | array => exact h.elim
    | object => exact h.elim
    | _ => exact h
  | succ depth ih =>
    cases v with
    | array items => exact fun v hv ↦ ih (h v hv)
    | object members => exact fun m hm ↦ ih (h m hm)
    | _ => exact h

theorem Fits.mono {depth depth' : Nat} (hle : depth ≤ depth') {v : Json} (h : v.Fits depth) :
    v.Fits depth' := by
  induction hle with
  | refl => exact h
  | step _ ih => exact ih.succ

namespace Writer

theorem toList_text (s : String) :
    (text s).toList = '"' :: (s.toList.flatMap escapeChar ++ ['"']) := by
  simp only [text, String.toList_append, String.toList_ofList]
  rfl

/-- A member of an object: its name, a colon and its value. -/
def member (m : String × Json) : List Char := (text m.1).toList ++ ':' :: (value m.2).toList

theorem toList_values (items : List Json) :
    (values items).toList = [','].intercalate (items.map fun v ↦ (value v).toList) := by
  induction items with
  | nil => rw [values]; rfl
  | cons v vs ih =>
    cases vs with
    | nil => rw [values, List.map_cons, List.map_nil, List.intercalate_singleton]
    | cons w vs =>
      have hne : (w :: vs).map (fun v ↦ (value v).toList) ≠ [] := List.cons_ne_nil _ _
      rw [List.map_cons, List.intercalate_cons_of_ne_nil hne, ← ih, values,
        String.toList_append, String.toList_append]
      rfl

theorem toList_members (ms : List (String × Json)) :
    (members ms).toList = [','].intercalate (ms.map member) := by
  induction ms with
  | nil => rw [members]; rfl
  | cons m ms ih =>
    cases ms with
    | nil =>
      rw [members, List.map_cons, List.map_nil, List.intercalate_singleton, member,
        String.toList_append, String.toList_append, List.append_assoc]
      rfl
    | cons m' ms =>
      have hne : (m' :: ms).map member ≠ [] := List.cons_ne_nil _ _
      rw [List.map_cons, List.intercalate_cons_of_ne_nil hne, ← ih, members, member]
      simp only [String.toList_append, List.append_assoc]
      rfl

theorem toList_array (items : List Json) (rest : List Char) :
    (value (.array items)).toList ++ rest =
      '[' :: ([','].intercalate (items.map fun v ↦ (value v).toList) ++ ']' :: rest) := by
  rw [value, String.toList_append, String.toList_append, toList_values]
  simp only [List.append_assoc]
  rfl

theorem toList_object (ms : List (String × Json)) (rest : List Char) :
    (value (.object ms)).toList ++ rest =
      '\x7b' :: ([','].intercalate (ms.map member) ++ '\x7d' :: rest) := by
  rw [value, String.toList_append, String.toList_append, toList_members]
  simp only [List.append_assoc]
  rfl

end Writer

/-! ## Scalars -/

namespace Reader

theorem skipBlanks_cons {c : Char} (h : isBlank c = false) (cs : List Char) :
    skipBlanks (c :: cs) = c :: cs := by
  rw [skipBlanks, List.dropWhile_cons_of_neg (ne_true_of_eq_false h)]

/-- A character with which the text of a scalar may begin. -/
structure BeginsScalar (c : Char) : Prop where
  /-- It is not skipped. -/
  notBlank : isBlank c = false
  /-- It does not close an array. -/
  notClosing : c ≠ ']'
  /-- It does not open one. -/
  notArray : c ≠ '['
  /-- It does not open an object. -/
  notObject : c ≠ '\x7b'

/-- A character with which a number may begin. -/
def BeginsNumber (c : Char) : Prop := c = '-' ∨ c.isDigit = true

theorem BeginsNumber.ne {c d : Char} (h : BeginsNumber c) (hsign : d ≠ '-')
    (hdigit : d.isDigit = false) : c ≠ d := by
  rintro rfl
  rcases h with hd | hd
  · exact hsign hd
  · rw [hdigit] at hd
    cases hd

theorem BeginsNumber.beginsScalar {c : Char} (h : BeginsNumber c) : BeginsScalar c where
  notBlank := by
    simp only [isBlank, Bool.or_eq_false_iff, decide_eq_false_iff_not]
    exact ⟨⟨⟨h.ne (by decide) rfl, h.ne (by decide) rfl⟩, h.ne (by decide) rfl⟩,
      h.ne (by decide) rfl⟩
  notClosing := h.ne (by decide) rfl
  notArray := h.ne (by decide) rfl
  notObject := h.ne (by decide) rfl

theorem exists_toString_eq_cons (n : Int) :
    ∃ c cs, (toString n).toList = c :: cs ∧ BeginsNumber c := by
  rw [Text.toList_toString]
  by_cases hneg : n < 0
  · exact ⟨'-', _, by rw [if_pos hneg]; rfl, .inl rfl⟩
  · obtain ⟨d, ds, hds, hd⟩ := exists_toDigits_eq_digit n.natAbs
    exact ⟨d, ds, by rw [if_neg hneg, hds]; rfl, .inr hd⟩

theorem scalar_eq_number {c : Char} (h : BeginsNumber c) (cs : List Char) :
    scalar (c :: cs) = number (c :: cs) := by
  rw [scalar.eq_def]
  split
  next heq => exact absurd (List.cons.inj heq).1 (h.ne (by decide) rfl)
  next heq => exact absurd (List.cons.inj heq).1 (h.ne (by decide) rfl)
  next heq => exact absurd (List.cons.inj heq).1 (h.ne (by decide) rfl)
  next heq => exact absurd (List.cons.inj heq).1 (h.ne (by decide) rfl)
  next => rfl

theorem scalar_value {v : Json} (h : v.Fits 0) :
    ∃ c cs, (Writer.value v).toList = c :: cs ∧ BeginsScalar c ∧
      ∀ rest, EndsNumber rest → scalar (c :: cs ++ rest) = some (v, rest) := by
  cases v with
  | null => exact ⟨'n', ['u', 'l', 'l'], rfl, ⟨rfl, by decide, by decide, by decide⟩, fun _ _ ↦ rfl⟩
  | bool b =>
    cases b with
    | true =>
      exact ⟨'t', ['r', 'u', 'e'], rfl, ⟨rfl, by decide, by decide, by decide⟩, fun _ _ ↦ rfl⟩
    | false =>
      exact ⟨'f', ['a', 'l', 's', 'e'], rfl, ⟨rfl, by decide, by decide, by decide⟩, fun _ _ ↦ rfl⟩
  | string s =>
    refine ⟨'"', _, Writer.toList_text s, ⟨rfl, by decide, by decide, by decide⟩, fun rest _ ↦ ?_⟩
    rw [List.cons_append, List.append_assoc, List.singleton_append]
    simp only [scalar, textBody_flatMap, Option.map_some, String.ofList_toList]
  | integer n =>
    obtain ⟨c, cs, hcs, hc⟩ := exists_toString_eq_cons n
    refine ⟨c, cs, hcs, hc.beginsScalar, fun rest hrest ↦ ?_⟩
    rw [List.cons_append, scalar_eq_number hc, ← List.cons_append, ← hcs,
      number_integer h.1 h.2 hrest]
  | real digits exponent =>
    obtain ⟨c, cs, hcs, hc⟩ := exists_toString_eq_cons digits
    refine ⟨c, cs ++ 'e' :: (toString exponent).toList, ?_, hc.beginsScalar, fun rest hrest ↦ ?_⟩
    · simp only [Writer.value, String.toList_append, hcs, List.append_assoc]
      rfl
    · rw [List.cons_append, scalar_eq_number hc, ← List.cons_append, ← List.cons_append, ← hcs,
        List.append_assoc, List.cons_append, number_real h hrest.endsDigits]
  | array => exact h.elim
  | object => exact h.elim

theorem value_eq_scalar (arrange : List (String × Json) → List (String × Json)) (depth : Nat)
    {c : Char} (h : BeginsScalar c) (cs : List Char) :
    value arrange depth (c :: cs) = scalar (c :: cs) := by
  cases depth with
  | zero => rw [value, skipBlanks_cons h.notBlank]
  | succ depth =>
    rw [value, skipBlanks_cons h.notBlank]
    split
    next heq => exact absurd (List.cons.inj heq).1 h.notArray
    next heq => exact absurd (List.cons.inj heq).1 h.notObject
    next => rfl

/-! ## Arrays and objects -/

/-- A character that closes an array or an object. -/
def Closes (c : Char) : Prop := c = ']' ∨ c = '\x7d'

theorem Closes.notBlank {c : Char} (h : Closes c) : isBlank c = false := by
  rcases h with rfl | rfl <;> rfl

theorem Closes.ne_comma {c : Char} (h : Closes c) : c ≠ ',' := by
  rcases h with rfl | rfl <;> decide

theorem Closes.endsNumber {c : Char} (h : Closes c) (rest : List Char) :
    EndsNumber (c :: rest) := by
  intro d hd
  obtain rfl := Option.some.inj hd
  rcases h with rfl | rfl <;> decide

theorem endsNumber_comma (rest : List Char) : EndsNumber (',' :: rest) := by
  intro d hd
  obtain rfl := Option.some.inj hd
  decide

section Items

variable {α β : Type} {item : List Char → Option (α × List Char)} {write : β → List Char}
  {read : β → α} {close : Char}

theorem separated_intercalate (hclose : Closes close) {xs : List β} (hne : xs ≠ [])
    (hitem : ∀ x ∈ xs, ∀ rest, EndsNumber rest → item (write x ++ rest) = some (read x, rest))
    {bound : Nat} (hbound : xs.length ≤ bound) (rest : List Char) :
    separated item close bound ([','].intercalate (xs.map write) ++ close :: rest) =
      some (xs.map read, rest) := by
  induction xs generalizing bound with
  | nil => exact absurd rfl hne
  | cons x xs ih =>
    obtain ⟨bound, rfl⟩ : ∃ b, bound = b + 1 := by
      rw [List.length_cons] at hbound
      exact ⟨bound - 1, by omega⟩
    obtain ⟨hx, hxs⟩ := List.forall_mem_cons.mp hitem
    -- the last item stands before the closing character, and every other one before a comma
    cases xs with
    | nil =>
      rw [List.map_cons, List.map_nil, List.intercalate_singleton, separated,
        hx _ (hclose.endsNumber rest)]
      simp only [Option.bind_eq_bind, Option.bind_some, skipBlanks_cons hclose.notBlank]
      split
      next heq => exact absurd (List.cons.inj heq).1 hclose.ne_comma
      next heq =>
        obtain ⟨rfl, rfl⟩ := List.cons.inj heq
        rw [if_pos rfl]
        rfl
      next heq => cases heq
    | cons y ys =>
      have hrest := ih (List.cons_ne_nil _ _) hxs (Nat.le_of_succ_le_succ hbound)
      have hcons : (y :: ys).map write ≠ [] := List.cons_ne_nil _ _
      rw [List.map_cons, List.intercalate_cons_of_ne_nil hcons, List.append_assoc,
        List.append_assoc, List.singleton_append, separated, hx _ (endsNumber_comma _)]
      simp only [Option.bind_eq_bind, Option.bind_some, skipBlanks_cons (c := ',') rfl, hrest]
      rfl

theorem length_le_length_intercalate {xs : List β} (hne : ∀ x ∈ xs, write x ≠ []) :
    xs.length ≤ ([','].intercalate (xs.map write)).length := by
  induction xs with
  | nil => exact Nat.le_refl 0
  | cons x xs ih =>
    obtain ⟨hx, hxs⟩ := List.forall_mem_cons.mp hne
    have hpos := List.length_pos_iff.mpr hx
    cases xs with
    | nil =>
      rw [List.map_cons, List.map_nil, List.intercalate_singleton]
      exact hpos
    | cons y ys =>
      have hrest := ih hxs
      have hcons : (y :: ys).map write ≠ [] := List.cons_ne_nil _ _
      rw [List.map_cons, List.intercalate_cons_of_ne_nil hcons, List.length_append,
        List.length_append, List.length_singleton, List.length_cons]
      omega

/-- Items with commas between them, possibly none, are read back up to the closing character, if
none of them begins with a blank or with that character. -/
theorem items_intercalate (item : List Char → Option (α × List Char)) (write : β → List Char)
    (read : β → α) (hclose : Closes close) {xs : List β}
    (hbegin : ∀ x ∈ xs, ∃ c cs, write x = c :: cs ∧ isBlank c = false ∧ c ≠ close)
    (hitem : ∀ x ∈ xs, ∀ rest, EndsNumber rest → item (write x ++ rest) = some (read x, rest))
    (rest : List Char) :
    items item close ([','].intercalate (xs.map write) ++ close :: rest) =
      some (xs.map read, rest) := by
  cases xs with
  | nil =>
    rw [List.map_nil, List.intercalate_nil, List.nil_append, items,
      skipBlanks_cons hclose.notBlank]
    exact if_pos rfl
  | cons x xs =>
    -- the reader allows as many items as there are characters, and no item is empty
    have hne : ∀ y ∈ x :: xs, write y ≠ [] := by
      intro y hy
      obtain ⟨c, cs, hcs, _⟩ := hbegin y hy
      rw [hcs]
      exact List.cons_ne_nil c cs
    have hbound : (x :: xs).length ≤
        ([','].intercalate ((x :: xs).map write) ++ close :: rest).length := by
      rw [List.length_append]
      exact Nat.le_add_right_of_le (length_le_length_intercalate hne)
    have hread := separated_intercalate hclose (List.cons_ne_nil x xs) hitem hbound rest
    obtain ⟨c, cs, hcs, hblank, hother⟩ := hbegin x List.mem_cons_self
    obtain ⟨more, hmore⟩ : ∃ more,
        [','].intercalate ((x :: xs).map write) ++ close :: rest = c :: more := by
      rw [List.map_cons, hcs, List.intercalate_cons_cons_left]
      exact ⟨_, rfl⟩
    rw [hmore] at hread ⊢
    rw [items, skipBlanks_cons hblank]
    exact (if_neg hother).trans hread

end Items

/-- The text of a value begins with a character that is neither a blank nor closes an array. -/
theorem exists_value_eq_cons {depth : Nat} {v : Json} (h : v.Fits depth) :
    ∃ c cs, (Writer.value v).toList = c :: cs ∧ isBlank c = false ∧ c ≠ ']' := by
  have hscalar : v.Fits 0 → ∃ c cs, (Writer.value v).toList = c :: cs ∧ isBlank c = false ∧
      c ≠ ']' := by
    intro h
    obtain ⟨c, cs, hcs, hc, _⟩ := scalar_value h
    exact ⟨c, cs, hcs, hc.notBlank, hc.notClosing⟩
  cases v with
  | array items =>
    have hlist := Writer.toList_array items []
    rw [List.append_nil] at hlist
    exact ⟨'[', _, hlist, rfl, by decide⟩
  | object ms =>
    have hlist := Writer.toList_object ms []
    rw [List.append_nil] at hlist
    exact ⟨'\x7b', _, hlist, rfl, by decide⟩
  | null => exact hscalar trivial
  | bool b => exact hscalar trivial
  | string s => exact hscalar trivial
  | integer n => cases depth <;> exact hscalar h
  | real digits exponent => cases depth <;> exact hscalar h

theorem member_append {readValue : List Char → Option (Json × List Char)} {m : String × Json}
    {v : Json} {rest : List Char}
    (hvalue : readValue ((Writer.value m.2).toList ++ rest) = some (v, rest)) :
    member readValue (Writer.member m ++ rest) = some ((m.1, v), rest) := by
  rw [Writer.member, Writer.toList_text, member, List.cons_append, List.cons_append,
    skipBlanks_cons (c := '"') rfl]
  simp only [List.append_assoc, List.cons_append, List.nil_append, textBody_flatMap,
    Option.bind_eq_bind, Option.bind_some, skipBlanks_cons (c := ':') rfl, hvalue,
    String.ofList_toList]
  rfl

theorem value_text_of_fits_zero (arrange : List (String × Json) → List (String × Json))
    (depth : Nat) {v : Json} (h : v.Fits 0) {rest : List Char} (hrest : EndsNumber rest) :
    value arrange depth ((Writer.value v).toList ++ rest) =
      some (v.arrangedBy arrange, rest) := by
  obtain ⟨c, cs, hcs, hc, hread⟩ := scalar_value h
  have hsame : v.arrangedBy arrange = v := by cases v <;> first | rfl | exact h.elim
  rw [hcs, List.cons_append, value_eq_scalar arrange depth hc, ← List.cons_append,
    hread rest hrest, hsame]

/-- **A value is read back from its text**, in front of what ends numbers, if it fits. -/
theorem value_text (arrange : List (String × Json) → List (String × Json)) {depth : Nat}
    {v : Json} (h : v.Fits depth) {rest : List Char} (hrest : EndsNumber rest) :
    value arrange depth ((Writer.value v).toList ++ rest) =
      some (v.arrangedBy arrange, rest) := by
  -- by induction on the depth, since items and members are read at a smaller one
  induction depth generalizing v rest with
  | zero => exact value_text_of_fits_zero arrange 0 h hrest
  | succ depth ih =>
    cases v with
    | array items =>
      have hitems := items_intercalate (value arrange depth) (fun v ↦ (Writer.value v).toList)
        (arrangedBy arrange) (.inl rfl) (fun v hv ↦ exists_value_eq_cons (h v hv))
        (fun v hv rest hrest ↦ ih (h v hv) hrest) rest
      rw [Writer.toList_array, value, skipBlanks_cons (c := '[') rfl]
      simp only [hitems, Option.map_some, arrangedBy, arrangedItems_eq_map]
    | object ms =>
      have hmembers := items_intercalate (member (value arrange depth)) Writer.member
        (fun m ↦ (m.1, m.2.arrangedBy arrange)) (.inr rfl)
        (fun m _ ↦ ⟨'"', _, by rw [Writer.member, Writer.toList_text]; rfl, rfl, by decide⟩)
        (fun m hm rest hrest ↦ member_append (ih (h m hm) hrest)) rest
      rw [Writer.toList_object, value, skipBlanks_cons (c := '\x7b') rfl]
      simp only [hmembers, Option.map_some, arrangedBy, arrangedMembers_eq_map]
    | null => exact value_text_of_fits_zero arrange _ (v := .null) trivial hrest
    | bool b => exact value_text_of_fits_zero arrange _ (v := .bool b) trivial hrest
    | string s => exact value_text_of_fits_zero arrange _ (v := .string s) trivial hrest
    | integer n => exact value_text_of_fits_zero arrange _ (v := .integer n) h hrest
    | real digits exponent =>
      exact value_text_of_fits_zero arrange _ (v := .real digits exponent) h hrest

theorem document_text (arrange : List (String × Json) → List (String × Json)) {v : Json}
    (h : v.Fits maxDepth) : document arrange v.text.toList = some (v.arrangedBy arrange) := by
  have hends : EndsNumber [] := fun _ hc ↦ by cases hc
  have hread := value_text arrange h hends
  rw [List.append_nil] at hread
  rw [document, text, hread]
  rfl

end Reader

/-- The members of an object in order of their names, of several with one name the last. -/
def sortMembers (members : List (String × Json)) : List (String × Json) :=
  (KeyMap.ofList members).entries

/-- The value as it is read from its text. -/
def arranged (v : Json) : Json := v.arrangedBy sortMembers

theorem arrangedBy_id {depth : Nat} {v : Json} (h : v.Fits depth) : v.arrangedBy id = v := by
  induction depth generalizing v with
  | zero =>
    cases v with
    | array => exact h.elim
    | object => exact h.elim
    | _ => rfl
  | succ depth ih =>
    cases v with
    | array items =>
      have hitems : items.map (arrangedBy id) = items.map id :=
        List.map_congr_left fun w hw ↦ ih (h w hw)
      rw [arrangedBy, arrangedItems_eq_map, hitems, List.map_id]
    | object members =>
      have hmembers : (members.map fun m ↦ (m.1, m.2.arrangedBy id)) = members.map id :=
        List.map_congr_left fun m hm ↦ Prod.ext rfl (ih (h m hm))
      rw [arrangedBy, arrangedMembers_eq_map, hmembers, List.map_id, id]
    | _ => rfl

theorem ofTextAsWritten?_text {v : Json} (h : v.Fits Reader.maxDepth) :
    ofTextAsWritten? v.text = some v := by
  rw [ofTextAsWritten?, Reader.document_text id h, arrangedBy_id h]

theorem ofText?_text {v : Json} (h : v.Fits Reader.maxDepth) : ofText? v.text = some v.arranged :=
  Reader.document_text sortMembers h

theorem ofBytes?_bytesOfText_text {v : Json} (h : v.Fits Reader.maxDepth) :
    ofBytes? (Wire.Codec.bytesOfText v.text) = some v.arranged := by
  rw [ofBytes?, Wire.textOfBytes?_bytesOfText, Option.bind_some, ofText?_text h]

end MeshSurvey.Json
