import Mathlib.Data.List.TakeWhile
import MeshSurvey.Json.Reader
import MeshSurvey.Json.Writer
import MeshSurvey.Proofs.Text.Numeral

/-!
# Texts and numbers survive their characters

The reader of texts takes back what the writer makes of each character, escape by escape. A number
has no end of its own: it is read back in front of anything that could not belong to it.
-/

namespace MeshSurvey.Json.Reader

/-! ## Texts -/

theorem hex4_control {n : Nat} (h : n < 0x20) :
    hex4 '0' '0' (Nat.digitChar (n / 16)) (Nat.digitChar (n % 16)) = some n := by
  have hall : ∀ n : Fin 0x20,
      hex4 '0' '0' (Nat.digitChar (n.val / 16)) (Nat.digitChar (n.val % 16)) = some n.val := by
    decide
  exact hall ⟨n, h⟩

theorem textBody_escapeChar (c : Char) (cs : List Char) :
    textBody (Writer.escapeChar c ++ cs) = prepend c (textBody cs) := by
  -- the characters with an escape of their own come first, and what the last two cases need of
  -- them is that the character is neither a quote nor a backslash
  rw [Writer.escapeChar]
  split
  next h => rw [h]; rfl
  next hquote =>
  split
  next h => rw [h]; rfl
  next hslash =>
  split
  next h => rw [h]; rfl
  split
  next h => rw [h]; rfl
  split
  next h => rw [h]; rfl
  split
  next h => rw [h]; rfl
  split
  next h => rw [h]; rfl
  split
  next h =>
    have hnot : ¬ (0xD800 ≤ c.toNat ∧ c.toNat < 0xDC00) := by omega
    have hnot' : ¬ (0xDC00 ≤ c.toNat ∧ c.toNat < 0xE000) := by omega
    simp only [List.cons_append, List.nil_append, textBody, hex4_control h, if_neg hnot,
      if_neg hnot', Char.ofNat_toNat]
  next h =>
    have hplain : ¬ (c.toNat < 0x20 ∨ c = '\\') := not_or.mpr ⟨h, hslash⟩
    rw [List.singleton_append, textBody.eq_def]
    split
    next heq => cases heq
    next heq => exact absurd (List.cons.inj heq).1 hquote
    next heq => exact absurd (List.cons.inj heq).1 hslash
    next heq => exact absurd (List.cons.inj heq).1 hslash
    next heq =>
      obtain ⟨rfl, rfl⟩ := List.cons.inj heq
      rw [if_neg hplain]

theorem textBody_flatMap (s rest : List Char) :
    textBody (s.flatMap Writer.escapeChar ++ '"' :: rest) = some (s, rest) := by
  induction s with
  | nil => rfl
  | cons c s ih =>
    rw [List.flatMap_cons, List.append_assoc, textBody_escapeChar, ih]
    rfl

/-! ## Digits -/

/-- Nothing that could belong to a number comes first. -/
def EndsNumber (rest : List Char) : Prop :=
  ∀ c ∈ rest.head?, c.isDigit = false ∧ c ≠ '.' ∧ c ≠ 'e' ∧ c ≠ 'E'

/-- No digit comes first. -/
def EndsDigits (rest : List Char) : Prop := ∀ c ∈ rest.head?, c.isDigit = false

theorem EndsNumber.endsDigits {rest : List Char} (h : EndsNumber rest) : EndsDigits rest :=
  fun c hc ↦ (h c hc).1

theorem takeWhile_digits {ds rest : List Char} (hds : ∀ c ∈ ds, c.isDigit = true)
    (hrest : EndsDigits rest) : (ds ++ rest).takeWhile Char.isDigit = ds := by
  rw [List.takeWhile_append_of_pos hds]
  cases rest with
  | nil => rw [List.takeWhile_nil, List.append_nil]
  | cons c rest =>
    rw [List.takeWhile_cons_of_neg (ne_true_of_eq_false (hrest c rfl)), List.append_nil]

theorem dropWhile_digits {ds rest : List Char} (hds : ∀ c ∈ ds, c.isDigit = true)
    (hrest : EndsDigits rest) : (ds ++ rest).dropWhile Char.isDigit = rest := by
  rw [List.dropWhile_append_of_pos hds]
  cases rest with
  | nil => rfl
  | cons c rest =>
    rw [List.dropWhile_cons_of_neg (ne_true_of_eq_false (hrest c rfl))]

theorem digitsValue_eq_ofDigitChars (cs : List Char) :
    digitsValue cs = Nat.ofDigitChars 10 cs 0 := by
  rw [digitsValue, Nat.ofDigitChars_eq_foldl]
  simp only [Nat.mul_comm 10]

theorem digitsValue_toDigits (n : Nat) : digitsValue (Nat.toDigits 10 n) = n := by
  rw [digitsValue_eq_ofDigitChars, Nat.ofDigitChars_ten_toDigits]

theorem exists_toDigits_eq_cons {n : Nat} (h : 0 < n) :
    ∃ d ds, Nat.toDigits 10 n = d :: ds ∧ d ≠ '0' := by
  induction n using Nat.strongRecOn with
  | ind n ih =>
    rw [Nat.toDigits_eq_if (by decide)]
    split
    next hlt =>
      refine ⟨n.digitChar, [], rfl, fun hzero ↦ ?_⟩
      have hvalue := Nat.toNat_digitChar_sub_48_of_lt_ten hlt
      rw [hzero] at hvalue
      exact absurd hvalue.symm (Nat.pos_iff_ne_zero.mp h)
    next hge =>
      obtain ⟨d, ds, hds, hd⟩ := ih (n / 10) (by omega) (by omega)
      rw [hds]
      exact ⟨d, _, rfl, hd⟩

theorem wholeFront_toDigits (n : Nat) {rest : List Char} (hrest : EndsDigits rest) :
    wholeFront (Nat.toDigits 10 n ++ rest) = some (Nat.toDigits 10 n, rest) := by
  rcases Nat.eq_zero_or_pos n with rfl | hpos
  · have hhead : ¬ (rest.head?.map Char.isDigit).getD false = true := by
      cases rest with
      | nil => exact Bool.false_ne_true
      | cons c rest =>
        rw [List.head?_cons, Option.map_some, Option.getD_some, hrest c rfl]
        exact Bool.false_ne_true
    rw [Nat.toDigits_zero, List.singleton_append, wholeFront, if_neg hhead]
  · obtain ⟨d, ds, hds, hd⟩ := exists_toDigits_eq_cons hpos
    have htake := takeWhile_digits (Text.isDigit_of_mem_toDigits (n := n)) hrest
    have hdrop := dropWhile_digits (Text.isDigit_of_mem_toDigits (n := n)) hrest
    rw [hds, List.cons_append] at htake hdrop ⊢
    rw [wholeFront.eq_def]
    split
    next heq => exact absurd (List.cons.inj heq).1 hd
    next =>
      simp only [htake, hdrop]
      rfl

/-- The digits before a point are those of their value: there are no leading zeros. -/
theorem toDigits_digitsValue {cs digits : List Char} (h : wholeFront cs = some (digits, [])) :
    cs = Nat.toDigits 10 (digitsValue digits) := by
  rw [wholeFront.eq_def] at h
  split at h
  next rest =>
    split at h
    next => cases h
    next =>
      cases h
      rfl
  next hzero =>
    obtain ⟨hne, hread⟩ := Option.ite_none_left_eq_some.mp h
    obtain ⟨rfl, hrest⟩ := Prod.mk.inj (Option.some.inj hread)
    have hall : ∀ c ∈ cs, c.isDigit = true := List.dropWhile_eq_nil_iff.mp hrest
    rw [List.takeWhile_eq_self_iff.mpr hall] at hne ⊢
    obtain ⟨d, ds, rfl⟩ := List.exists_cons_of_ne_nil (fun hnil ↦ hne (List.isEmpty_iff.mpr hnil))
    obtain ⟨hd, hds⟩ := List.forall_mem_cons.mp hall
    obtain ⟨hlt, hchar⟩ := Text.digitChar_sub hd
    -- the first digit is not zero, so it is a number to which the other digits can be added
    have hpos : 0 < d.toNat - '0'.toNat := by
      refine Nat.pos_of_ne_zero ?_
      intro hvalue
      rw [hvalue] at hchar
      exact hzero ds (congrArg (· :: ds) hchar.symm)
    have hdigits := Text.toDigits_append_digits hds hpos
    rw [Nat.toDigits_of_lt_base hlt, hchar, List.singleton_append] at hdigits
    rw [digitsValue_eq_ofDigitChars, Nat.ofDigitChars_cons, Nat.mul_zero, Nat.zero_add]
    exact hdigits

/-! ## Numbers -/

theorem fractionFront_of_ends {rest : List Char} (h : ∀ c ∈ rest.head?, c ≠ '.') :
    fractionFront rest = some (none, rest) := by
  rw [fractionFront.eq_def]
  split
  next rest => exact absurd rfl (h '.' rfl)
  next => rfl

theorem exponentFront_of_endsNumber {rest : List Char} (h : EndsNumber rest) :
    exponentFront rest = some (none, rest) := by
  cases rest with
  | nil => rfl
  | cons c rest =>
    obtain ⟨_, _, he, hE⟩ := h c rfl
    rw [exponentFront.eq_def]
    exact if_neg (not_or.mpr ⟨he, hE⟩)

theorem exists_toDigits_eq_digit (n : Nat) :
    ∃ d ds, Nat.toDigits 10 n = d :: ds ∧ d.isDigit = true := by
  obtain ⟨d, ds, hds⟩ := List.exists_cons_of_ne_nil (Nat.toDigits_ne_nil (n := n) (b := 10))
  exact ⟨d, ds, hds, Text.isDigit_of_mem_toDigits d (hds ▸ List.mem_cons_self)⟩

theorem exponentFront_toString (n : Int) {rest : List Char} (hrest : EndsDigits rest) :
    exponentFront ('e' :: ((toString n).toList ++ rest)) = some (some n, rest) := by
  have htake := takeWhile_digits (Text.isDigit_of_mem_toDigits (n := n.natAbs)) hrest
  have hdrop := dropWhile_digits (Text.isDigit_of_mem_toDigits (n := n.natAbs)) hrest
  have hne : ¬ (Nat.toDigits 10 n.natAbs).isEmpty = true := by
    rw [List.isEmpty_iff]
    exact Nat.toDigits_ne_nil
  rw [Text.toList_toString]
  by_cases hneg : n < 0
  · have hvalue : (-1 : Int) * n.natAbs = n := by omega
    rw [if_pos hneg]
    change (let digits := (Nat.toDigits 10 n.natAbs ++ rest).takeWhile Char.isDigit
      if digits.isEmpty then none
      else some (some (-1 * (digitsValue digits : Int)),
        (Nat.toDigits 10 n.natAbs ++ rest).dropWhile Char.isDigit)) = _
    simp only [htake, hdrop, if_neg hne, digitsValue_toDigits, hvalue]
  · -- here too, where a plus sign would be skipped as well
    have hvalue : (1 : Int) * n.natAbs = n := by omega
    obtain ⟨d, ds, hds, hd⟩ := exists_toDigits_eq_digit n.natAbs
    rw [if_neg hneg, List.nil_append]
    rw [hds, List.cons_append] at htake hdrop
    rw [exponentFront.eq_def]
    simp only [true_or, if_true, hds, List.cons_append]
    split
    next heq =>
      rw [(List.cons.inj heq).1] at hd
      cases hd
    next heq =>
      rw [(List.cons.inj heq).1] at hd
      cases hd
    next => rw [htake, hdrop, ← hds, if_neg hne, digitsValue_toDigits, hvalue]

theorem number_append (negative : Bool) (n : Nat) {rest rest' : List Char}
    {exponent : Option Int} {v : Json} (hdigits : EndsDigits rest)
    (hpoint : ∀ c ∈ rest.head?, c ≠ '.') (hexponent : exponentFront rest = some (exponent, rest'))
    (hvalue : numberValue negative ⟨Nat.toDigits 10 n, none, exponent⟩ = some v) :
    number ((if negative then ['-'] else []) ++ (Nat.toDigits 10 n ++ rest)) = some (v, rest') := by
  have hwhole := wholeFront_toDigits n hdigits
  have hfraction := fractionFront_of_ends hpoint
  cases negative with
  | true =>
    simp only [number, if_true, List.singleton_append, Option.bind_eq_bind, Option.bind_some,
      hwhole, hfraction, hexponent, hvalue]
    rfl
  | false =>
    -- the reader looks for a sign first, so it has to see a digit
    obtain ⟨d, ds, hds, hd⟩ := exists_toDigits_eq_digit n
    rw [hds, List.cons_append] at hwhole
    rw [if_neg Bool.false_ne_true, List.nil_append, hds, List.cons_append, number]
    · rw [hds] at hvalue
      simp only [hwhole, hfraction, hexponent, hvalue, Option.bind_eq_bind, Option.bind_some]
      rfl
    · intro _ heq
      rw [(List.cons.inj heq).1] at hd
      cases hd

/-- An integer of 64 bits is read back in front of anything that could not belong to it. -/
theorem number_integer {n : Int} (hmin : minInteger ≤ n) (hmax : n ≤ maxInteger)
    {rest : List Char} (hrest : EndsNumber rest) :
    number ((toString n).toList ++ rest) = some (.integer n, rest) := by
  have hsign : (if n < 0 then -(n.natAbs : Int) else n.natAbs) = n := by omega
  have hzero : (decide (n < 0) && decide (n.natAbs = 0)) = false := by
    rw [Bool.and_eq_false_iff, decide_eq_false_iff_not, decide_eq_false_iff_not]
    omega
  have hvalue : numberValue (decide (n < 0)) ⟨Nat.toDigits 10 n.natAbs, none, none⟩ =
      some (.integer n) := by
    simp only [numberValue, Option.getD_none, List.append_nil, digitsValue_toDigits,
      decide_eq_true_eq, hsign, hzero, Option.isNone_none, Bool.not_false, Bool.and_true,
      decide_eq_true hmin, decide_eq_true hmax, if_true]
  have hread := number_append (decide (n < 0)) n.natAbs hrest.endsDigits
    (fun c hc ↦ (hrest c hc).2.1) (exponentFront_of_endsNumber hrest) hvalue
  rw [Text.toList_toString, List.append_assoc, ← hread]
  simp only [decide_eq_true_eq]

/-- Any other number is read back likewise, unless it is too large to be read at all. -/
theorem number_real {digits exponent : Int}
    (h : overflows (Nat.toDigits 10 digits.natAbs).length digits.natAbs exponent = false)
    {rest : List Char} (hrest : EndsDigits rest) :
    number ((toString digits).toList ++ 'e' :: ((toString exponent).toList ++ rest)) =
      some (.real digits exponent, rest) := by
  have hsign : (if digits < 0 then -(digits.natAbs : Int) else digits.natAbs) = digits := by omega
  have hvalue : numberValue (decide (digits < 0))
      ⟨Nat.toDigits 10 digits.natAbs, none, some exponent⟩ = some (.real digits exponent) := by
    have hsub : exponent - (0 : Int) = exponent := by omega
    simp only [numberValue, Option.getD_none, Option.getD_some, List.append_nil,
      digitsValue_toDigits, decide_eq_true_eq, hsign, Option.isNone_none, Option.isNone_some,
      Bool.and_false, Bool.false_and, Bool.false_eq_true, if_false, List.length_nil,
      Int.natCast_zero, hsub, h]
  have hdigits : EndsDigits ('e' :: ((toString exponent).toList ++ rest)) :=
    fun c hc ↦ Option.some.inj hc ▸ rfl
  have hread := number_append (decide (digits < 0)) digits.natAbs hdigits
    (fun c hc ↦ Option.some.inj hc ▸ (by decide)) (exponentFront_toString exponent hrest) hvalue
  rw [Text.toList_toString digits, List.append_assoc, ← hread]
  simp only [decide_eq_true_eq]

end MeshSurvey.Json.Reader
