import MeshSurvey.Text.Numeral

/-!
# What the numerals of a number are

A number has the digits that it is written with, and any zeros and a plus sign before them. These are
all its numerals, so that reading a decimal numeral says of a text what it is, and not only which
number it counts as.
-/

namespace MeshSurvey.Text

/-! ## Digits -/

theorem exists_digitChar_of_mem_toDigits {b n : Nat} {c : Char} (hb : 1 < b)
    (hc : c ∈ Nat.toDigits b n) : ∃ k < b, c = Nat.digitChar k := by
  induction n using Nat.strongRecOn with
  | ind n ih =>
    by_cases hn : n < b
    · rw [Nat.toDigits_of_lt_base hn, List.mem_singleton] at hc
      exact ⟨n, hn, hc⟩
    · have hle : b ≤ n := Nat.le_of_not_lt hn
      rw [Nat.toDigits_of_base_le hb hle, List.mem_append, List.mem_singleton] at hc
      rcases hc with hc | rfl
      · exact ih (n / b) (Nat.div_lt_self (by omega) hb) hc
      · exact ⟨n % b, Nat.mod_lt n (by omega), rfl⟩

theorem isDigit_of_mem_toDigits {n : Nat} : ∀ c ∈ Nat.toDigits 10 n, c.isDigit = true :=
  fun _ hc ↦ Nat.isDigit_of_mem_toDigits (by decide) (by decide) hc

theorem digitChar_sub {c : Char} (h : c.isDigit = true) :
    c.toNat - '0'.toNat < 10 ∧ Nat.digitChar (c.toNat - '0'.toNat) = c := by
  have hrange : 48 ≤ c.toNat ∧ c.toNat ≤ 57 := by
    simpa [Char.isDigit, UInt32.le_iff_toNat_le] using h
  have hlt : c.toNat - 48 < 10 := by omega
  refine ⟨hlt, Char.toNat_inj.mp ?_⟩
  rw [show '0'.toNat = 48 from rfl, Nat.toNat_digitChar_of_lt_ten hlt]
  omega

theorem toDigits_append_digits {ds : List Char} (hds : ∀ c ∈ ds, c.isDigit = true) {n : Nat}
    (hpos : 0 < n) : Nat.toDigits 10 n ++ ds = Nat.toDigits 10 (Nat.ofDigitChars 10 ds n) := by
  induction ds generalizing n with
  | nil => rw [List.append_nil, Nat.ofDigitChars_nil]
  | cons d ds ih =>
    obtain ⟨hd, hds⟩ := List.forall_mem_cons.mp hds
    obtain ⟨hlt, hchar⟩ := digitChar_sub hd
    have hstep := Nat.toDigits_append_toDigits (b := 10) (by decide) hpos hlt
    rw [Nat.toDigits_of_lt_base hlt, hchar] at hstep
    rw [Nat.ofDigitChars_cons, ← ih hds (by omega), ← hstep, List.append_assoc,
      List.singleton_append]

theorem digitIn_ten {c : Char} (h : c.isDigit = true) :
    digitIn 10 c = some (c.toNat - '0'.toNat) := by
  rw [Char.isDigit, Bool.and_eq_true, decide_eq_true_eq, decide_eq_true_eq] at h
  have h0 : '0' ≤ c := h.1
  have h9 : c ≤ '9' := h.2
  have hlt : c.toNat - '0'.toNat < 10 := by
    have hle : c.toNat ≤ '9'.toNat := h9
    have h9' : '9'.toNat = 57 := rfl
    have h0' : '0'.toNat = 48 := rfl
    omega
  rw [digitIn, digitValue, if_pos ⟨h0, h9⟩, Option.filter_some, if_pos (decide_eq_true hlt)]

/-- Letters do not count as digits in base ten. -/
theorem isDigit_of_digitIn_ten {c : Char} {d : Nat} (h : digitIn 10 c = some d) :
    c.isDigit = true := by
  obtain ⟨hvalue, hlt⟩ := Option.filter_eq_some_iff.mp h
  rw [decide_eq_true_eq] at hlt
  rw [digitValue] at hvalue
  split at hvalue
  · next hdigit =>
    rw [Char.isDigit, Bool.and_eq_true, decide_eq_true_eq, decide_eq_true_eq]
    exact hdigit
  · split at hvalue
    · obtain rfl := Option.some.inj hvalue
      omega
    · obtain ⟨-, hsome⟩ := Option.ite_none_right_eq_some.mp hvalue
      obtain rfl := Option.some.inj hsome
      omega

/-! ## Numerals -/

theorem continueNumeral_ten {cs : List Char} (h : ∀ c ∈ cs, c.isDigit = true) (acc : Nat) :
    continueNumeral 10 acc cs = some (Nat.ofDigitChars 10 cs acc) := by
  induction cs generalizing acc with
  | nil => rfl
  | cons c cs ih =>
    rw [continueNumeral, digitIn_ten (h c List.mem_cons_self)]
    change continueNumeral 10 (acc * 10 + (c.toNat - '0'.toNat)) cs = _
    rw [ih fun d hd ↦ h d (List.mem_cons_of_mem _ hd), Nat.mul_comm acc 10, Nat.ofDigitChars_cons]

theorem isDigit_of_continueNumeral_ten {cs : List Char} {acc n : Nat}
    (h : continueNumeral 10 acc cs = some n) : ∀ c ∈ cs, c.isDigit = true := by
  induction cs generalizing acc with
  | nil => exact List.forall_mem_nil _
  | cons c cs ih =>
    rw [continueNumeral] at h
    cases hdigit : digitIn 10 c with
    | none =>
      rw [hdigit] at h
      cases h
    | some d =>
      rw [hdigit] at h
      exact List.forall_mem_cons.mpr ⟨isDigit_of_digitIn_ten hdigit, ih h⟩

/-- The digits of a number, possibly behind zeros. -/
def IsDecimal (n : Nat) (cs : List Char) : Prop :=
  ∃ zeros : Nat, cs = List.replicate zeros '0' ++ Nat.toDigits 10 n

/-- A decimal numeral of a number: its digits, possibly behind zeros and a plus sign. -/
def IsNumeral (n : Nat) (cs : List Char) : Prop :=
  IsDecimal n cs ∨ ∃ ds, cs = '+' :: ds ∧ IsDecimal n ds

theorem IsDecimal.isDigit {n : Nat} {cs : List Char} (h : IsDecimal n cs) :
    ∀ c ∈ cs, c.isDigit = true := by
  obtain ⟨zeros, rfl⟩ := h
  refine List.forall_mem_append.mpr ⟨fun c hc ↦ ?_, isDigit_of_mem_toDigits⟩
  obtain rfl := List.eq_of_mem_replicate hc
  decide

theorem IsDecimal.ne_nil {n : Nat} {cs : List Char} (h : IsDecimal n cs) : cs ≠ [] := by
  obtain ⟨zeros, rfl⟩ := h
  exact fun hnil ↦ Nat.toDigits_ne_nil (List.append_eq_nil_iff.mp hnil).2

theorem IsDecimal.ofDigitChars_eq {n : Nat} {cs : List Char} (h : IsDecimal n cs) :
    Nat.ofDigitChars 10 cs 0 = n := by
  obtain ⟨zeros, rfl⟩ := h
  induction zeros with
  | zero => exact Nat.ofDigitChars_ten_toDigits
  | succ zeros ih => rwa [List.replicate_succ, List.cons_append, Nat.ofDigitChars_cons]

theorem isDecimal_ofDigitChars {cs : List Char} (hcs : ∀ c ∈ cs, c.isDigit = true)
    (hne : cs ≠ []) : IsDecimal (Nat.ofDigitChars 10 cs 0) cs := by
  induction cs with
  | nil => exact absurd rfl hne
  | cons c cs ih =>
    obtain ⟨hc, hrest⟩ := List.forall_mem_cons.mp hcs
    obtain ⟨hlt, hchar⟩ := digitChar_sub hc
    rw [Nat.ofDigitChars_cons, Nat.mul_zero, Nat.zero_add]
    rcases Nat.eq_zero_or_pos (c.toNat - '0'.toNat) with hzero | hpos
    · -- a zero is one before the digits of the rest, or else it is the whole number
      rw [hzero] at hchar ⊢
      subst hchar
      by_cases hnil : cs = []
      · subst hnil
        exact ⟨0, rfl⟩
      · obtain ⟨zeros, heq⟩ := ih hrest hnil
        refine ⟨zeros + 1, ?_⟩
        rw [List.replicate_succ, List.cons_append, ← heq]
        rfl
    · refine ⟨0, ?_⟩
      rw [← toDigits_append_digits hrest hpos, Nat.toDigits_of_lt_base hlt, hchar]
      rfl

theorem readDigits_ten_eq_some_iff {cs : List Char} {n : Nat} :
    readDigits 10 cs = some n ↔ IsDecimal n cs := by
  cases cs with
  | nil =>
    constructor
    · intro h
      cases h
    · exact fun h ↦ absurd rfl h.ne_nil
  | cons c cs =>
    change continueNumeral 10 0 (c :: cs) = some n ↔ _
    constructor
    · intro h
      have hdigits := isDigit_of_continueNumeral_ten h
      rw [continueNumeral_ten hdigits] at h
      exact Option.some.inj h ▸ isDecimal_ofDigitChars hdigits (List.cons_ne_nil c cs)
    · intro h
      rw [continueNumeral_ten h.isDigit, h.ofDigitChars_eq]

/-- A text is read as a number if and only if it is a numeral of the number. -/
theorem readBelow_ten_eq_some_iff {bound n : Nat} {cs : List Char} :
    readBelow 10 bound cs = some n ↔ n < bound ∧ IsNumeral n cs := by
  rw [readBelow.eq_def]
  dsimp only
  rw [Option.filter_eq_some_iff, decide_eq_true_eq, And.comm, and_congr_right_iff]
  rintro -
  split
  · next ds =>
    rw [readDigits_ten_eq_some_iff]
    constructor
    · exact fun h ↦ .inr ⟨ds, rfl, h⟩
    · rintro (h | ⟨ds', heq, h⟩)
      · exact absurd (h.isDigit '+' List.mem_cons_self) (by decide)
      · exact (List.cons.inj heq).2 ▸ h
  · next hplus =>
    rw [readDigits_ten_eq_some_iff]
    constructor
    · exact .inl
    · rintro (h | ⟨ds, rfl, -⟩)
      · exact h
      · exact absurd rfl (hplus ds)

theorem isNumeral_toString (n : Nat) : IsNumeral n (toString n).toList :=
  .inl ⟨0, Nat.toList_repr⟩

theorem IsNumeral.isDigit_or {n : Nat} {cs : List Char} (h : IsNumeral n cs) :
    ∀ c ∈ cs, c.isDigit = true ∨ c = '+' := by
  rcases h with h | ⟨ds, rfl, h⟩
  · exact fun c hc ↦ .inl (h.isDigit c hc)
  · exact List.forall_mem_cons.mpr ⟨.inr rfl, fun c hc ↦ .inl (h.isDigit c hc)⟩

theorem toList_toString (n : Int) :
    (toString n).toList = (if n < 0 then ['-'] else []) ++ Nat.toDigits 10 n.natAbs := by
  cases n with
  | ofNat m => exact Nat.toList_repr
  | negSucc m =>
    rw [if_pos (Int.negSucc_lt_zero m)]
    exact (String.toList_append).trans (congrArg (['-'] ++ ·) Nat.toList_repr)

/-! ## Hexadecimal digits -/

/-- The digit with a value below sixteen, letters in upper case. -/
def hexDigit (value : Nat) : Char := (Nat.digitChar value).toUpper

/-- The last `width` hexadecimal digits of a number, with zeros in front if it has fewer. -/
def hexDigits : Nat → Nat → List Char
  | 0, _ => []
  | width + 1, n => hexDigits width (n / 16) ++ [hexDigit (n % 16)]

theorem digitIn_hexDigit : ∀ value < 16, digitIn 16 (hexDigit value) = some value := by decide

theorem exists_hexDigit_of_mem {width n : Nat} {c : Char} (hc : c ∈ hexDigits width n) :
    ∃ value < 16, c = hexDigit value := by
  induction width generalizing n with
  | zero => exact absurd hc List.not_mem_nil
  | succ width ih =>
    rw [hexDigits, List.mem_append, List.mem_singleton] at hc
    rcases hc with hc | rfl
    · exact ih hc
    · exact ⟨n % 16, Nat.mod_lt n (by decide), rfl⟩

theorem hexDigits_ne_nil {width : Nat} (hwidth : width ≠ 0) (n : Nat) : hexDigits width n ≠ [] := by
  obtain ⟨width, rfl⟩ := Nat.exists_eq_succ_of_ne_zero hwidth
  exact List.append_ne_nil_of_right_ne_nil _ (List.cons_ne_nil _ _)

theorem continueNumeral_append {base acc : Nat} (front back : List Char) :
    continueNumeral base acc (front ++ back) =
      (continueNumeral base acc front).bind (continueNumeral base · back) := by
  induction front generalizing acc with
  | nil => rfl
  | cons c front ih =>
    rw [List.cons_append, continueNumeral, continueNumeral]
    cases digitIn base c with
    | none => rfl
    | some d => exact ih

theorem continueNumeral_hexDigits (acc width n : Nat) :
    continueNumeral 16 acc (hexDigits width n) =
      some (acc * Nat.pow 16 width + n % Nat.pow 16 width) := by
  induction width generalizing n with
  | zero =>
    change some acc = some (acc * 1 + n % 1)
    rw [Nat.mul_one, Nat.mod_one, Nat.add_zero]
  | succ width ih =>
    have hpow : Nat.pow 16 (width + 1) = 16 * Nat.pow 16 width := Nat.mul_comm _ _
    have hdigit := digitIn_hexDigit (n % 16) (Nat.mod_lt n (by decide))
    rw [hexDigits, continueNumeral_append, ih, Option.bind_some, continueNumeral, hdigit]
    dsimp only
    rw [continueNumeral, hpow, Nat.mod_mul, Nat.mul_left_comm acc 16]
    congr 1
    omega

theorem readBelow_hexDigits {bound width n : Nat} (hwidth : width ≠ 0) (hn : n < Nat.pow 16 width)
    (hbound : n < bound) : readBelow 16 bound (hexDigits width n) = some n := by
  have hread : readDigits 16 (hexDigits width n) = some n := by
    rw [readDigits.eq_2 16 _ (hexDigits_ne_nil hwidth n), continueNumeral_hexDigits, Nat.zero_mul,
      Nat.zero_add, Nat.mod_eq_of_lt hn]
  rw [readBelow.eq_def]
  dsimp only
  split
  · next hplus =>
    -- no digit is a plus sign
    obtain ⟨value, hvalue, hdigit⟩ := exists_hexDigit_of_mem (hplus ▸ List.mem_cons_self)
    have hnot : ∀ value < 16, '+' ≠ hexDigit value := by decide
    exact absurd hdigit (hnot value hvalue)
  · rw [hread, Option.filter_some, if_pos (decide_eq_true hbound)]

end MeshSurvey.Text
