import Mathlib.Data.List.Lex
import MeshSurvey.Audit.Vulnerability
import MeshSurvey.Proofs.Text.Numeral
import MeshSurvey.Proofs.Text.Split

/-!
# Which vulnerabilities a text is charged with

The text of a version is cut into parts: a letter that may stand before it and a suffix that may
stand behind it are left out, and there are dots between the rest. Which parts give a version is
said here without the reader, by the digits of its numbers, and so is which versions a vulnerability
affects, by the order of their numbers. The auditor reports what these say of every text, and so it
does not matter how a version is spelled.
-/

namespace MeshSurvey

namespace Version

/-! ## Numbers -/

/-- The digits of a number: there are some, and the number is their value in base ten. -/
structure DigitsOf (n : UInt32) (cs : List Char) : Prop where
  ne_nil : cs ≠ []
  isDigit : ∀ c ∈ cs, c.isDigit = true
  value_eq : Nat.ofDigitChars 10 cs 0 = n.toNat

theorem digitsOf_iff {n : UInt32} {cs : List Char} :
    DigitsOf n cs ↔ Text.IsDecimal n.toNat cs := by
  constructor
  · rintro ⟨hne, hdigits, hvalue⟩
    exact hvalue ▸ Text.isDecimal_ofDigitChars hdigits hne
  · intro h
    exact ⟨h.ne_nil, h.isDigit, h.ofDigitChars_eq⟩

theorem digitsOf_toString (n : UInt32) : DigitsOf n (toString n.toNat).toList :=
  digitsOf_iff.mpr ⟨0, Nat.toList_repr⟩

theorem readNumber_eq_some_iff {n : UInt32} {cs : List Char} (hplus : '+' ∉ cs) :
    readNumber cs = some n ↔ DigitsOf n cs := by
  rw [readNumber, Option.map_eq_some_iff, digitsOf_iff]
  constructor
  · rintro ⟨k, hk, rfl⟩
    obtain ⟨hlt, hdecimal | ⟨ds, rfl, -⟩⟩ := Text.readBelow_ten_eq_some_iff.mp hk
    · rwa [UInt32.toNat_ofNat_of_lt' hlt]
    · exact absurd List.mem_cons_self hplus
  · intro h
    have hread := Text.readBelow_ten_eq_some_iff.mpr ⟨n.toNat_lt_size, .inl h⟩
    exact ⟨n.toNat, hread, UInt32.ofNat_toNat⟩

/-- Parts that give a version. A third number that is missing is zero, and parts after the third do
not count. -/
inductive GivenBy (v : Version) : List (List Char) → Prop where
  /-- There are two numbers. -/
  | two {major minor : List Char} (hmajor : DigitsOf v.major major)
    (hminor : DigitsOf v.minor minor) (hpatch : v.patch = 0) : GivenBy v [major, minor]
  /-- There are three numbers, and perhaps more parts. -/
  | three {major minor patch : List Char} {others : List (List Char)}
    (hmajor : DigitsOf v.major major) (hminor : DigitsOf v.minor minor)
    (hpatch : DigitsOf v.patch patch) : GivenBy v (major :: minor :: patch :: others)

theorem GivenBy.exists_eq_cons_cons {v : Version} {parts : List (List Char)}
    (h : v.GivenBy parts) : ∃ major minor rest, parts = major :: minor :: rest := by
  cases h with
  | two => exact ⟨_, _, _, rfl⟩
  | three => exact ⟨_, _, _, rfl⟩

/-! ## Parts -/

/-- A suffix begins with a hyphen or a plus sign, unless it is empty. -/
def IsSuffix (cs : List Char) : Prop := cs = [] ∨ ∃ rest, cs = '-' :: rest ∨ cs = '+' :: rest

/-- A text is cut into parts: a letter `v` that begins it is left out, and so is a suffix, and the
parts have dots between them. -/
structure CutInto (text : String) (parts : List (List Char)) : Prop where
  parts_ne_nil : parts ≠ []
  within : ∀ part ∈ parts, ∀ c ∈ part, c ≠ '.' ∧ c ≠ '-' ∧ c ≠ '+'
  text_eq : ∃ letter suffix, text.toList = letter ++ (['.'].intercalate parts ++ suffix) ∧
    (letter = ['v'] ∨ letter = [] ∧ text.toList.head? ≠ some 'v') ∧ IsSuffix suffix

/-- What stands between the letter and the suffix. -/
def core (text : String) : List Char :=
  (dropLetter text.toList).takeWhile fun c ↦ c ≠ '-' && c ≠ '+'

theorem ne_of_mem_core {text : String} {c : Char} (h : c ∈ core text) : c ≠ '-' ∧ c ≠ '+' := by
  simpa using List.all_eq_true.mp List.all_takeWhile c h

theorem dropLetter_of_head?_ne {cs : List Char} (h : cs.head? ≠ some 'v') : dropLetter cs = cs := by
  rw [dropLetter.eq_def]
  split
  · exact absurd rfl h
  · rfl

theorem exists_letter_append_dropLetter (cs : List Char) :
    ∃ letter, cs = letter ++ dropLetter cs ∧
      (letter = ['v'] ∨ letter = [] ∧ cs.head? ≠ some 'v') := by
  by_cases h : cs.head? = some 'v'
  · obtain ⟨rest, rfl⟩ := List.head?_eq_some_iff.mp h
    exact ⟨['v'], rfl, .inl rfl⟩
  · exact ⟨[], by rw [dropLetter_of_head?_ne h, List.nil_append], .inr ⟨rfl, h⟩⟩

theorem exists_core_append_suffix (text : String) :
    ∃ suffix, dropLetter text.toList = core text ++ suffix ∧ IsSuffix suffix := by
  refine ⟨_, (List.takeWhile_append_dropWhile ..).symm, ?_⟩
  rw [IsSuffix]
  cases hdrop : (dropLetter text.toList).dropWhile fun c ↦ c ≠ '-' && c ≠ '+' with
  | nil => exact .inl rfl
  | cons c rest =>
    have hend := List.head?_dropWhile_not (fun c : Char ↦ c ≠ '-' && c ≠ '+')
      (dropLetter text.toList)
    rw [hdrop] at hend
    refine .inr ⟨rest, ?_⟩
    by_cases hc : c = '-'
    · exact .inl (by rw [hc])
    · exact .inr (by simpa [hc] using hend)

theorem core_eq {text : String} {letter middle suffix : List Char}
    (htext : text.toList = letter ++ (middle ++ suffix))
    (hletter : letter = ['v'] ∨ letter = [] ∧ text.toList.head? ≠ some 'v')
    (hmiddle : ∀ c ∈ middle, c ≠ '-' ∧ c ≠ '+') (hsuffix : IsSuffix suffix) :
    core text = middle := by
  have hdrop : dropLetter text.toList = middle ++ suffix := by
    rcases hletter with rfl | ⟨rfl, hhead⟩
    · rw [htext]
      rfl
    · rw [dropLetter_of_head?_ne hhead, htext, List.nil_append]
  have hstop : suffix.takeWhile (fun c ↦ c ≠ '-' && c ≠ '+') = [] := by
    rcases hsuffix with rfl | ⟨rest, rfl | rfl⟩ <;> rfl
  rw [core, hdrop, List.takeWhile_append_of_pos (by simpa using hmiddle), hstop, List.append_nil]

theorem cutInto_iff {text : String} {parts : List (List Char)} :
    CutInto text parts ↔ Text.pieces '.' (core text) = parts := by
  constructor
  · rintro ⟨hne, hwithin, letter, suffix, htext, hletter, hsuffix⟩
    obtain ⟨part, others, rfl⟩ := List.exists_cons_of_ne_nil hne
    have hjoined : ∀ c ∈ ['.'].intercalate (part :: others), c ≠ '-' ∧ c ≠ '+' :=
      Text.forall_mem_intercalate (List.forall_mem_singleton.mpr ⟨nofun, nofun⟩)
        fun p hp c hc ↦ (hwithin p hp c hc).2
    rw [core_eq htext hletter hjoined hsuffix]
    exact Text.pieces_eq_iff.mpr ⟨rfl, fun p hp hdot ↦ (hwithin p hp '.' hdot).1 rfl⟩
  · rintro rfl
    obtain ⟨letter, hfront, hletter⟩ := exists_letter_append_dropLetter text.toList
    obtain ⟨suffix, hback, hsuffix⟩ := exists_core_append_suffix text
    refine ⟨Text.piecesBy_ne_nil _ _, fun part hpart c hc ↦ ⟨?_, ?_⟩,
      letter, suffix, ?_, hletter, hsuffix⟩
    · rintro rfl
      exact Text.notMem_of_mem_pieces hpart hc
    · exact ne_of_mem_core (Text.mem_of_mem_pieces hpart hc)
    · rw [Text.intercalate_pieces, ← hback]
      exact hfront

/-! ## Texts -/

/-- A text that spells a version. -/
def IsSpelledBy (v : Version) (text : String) : Prop :=
  ∃ parts, CutInto text parts ∧ v.GivenBy parts

theorem isSpelledBy_iff {v : Version} {text : String} :
    v.IsSpelledBy text ↔ v.GivenBy (Text.pieces '.' (core text)) := by
  simp only [IsSpelledBy, cutInto_iff, exists_eq_left']

/-- What is read is what the parts give. -/
theorem read_eq_some_iff {text : String} {v : Version} :
    read text = some v ↔ v.IsSpelledBy text := by
  -- the plus sign that a number may have elsewhere would have begun the suffix
  have hplus : ∀ part ∈ Text.pieces '.' (core text), '+' ∉ part := fun part hpart hmem ↦
    (ne_of_mem_core (Text.mem_of_mem_pieces hpart hmem)).2 rfl
  rw [isSpelledBy_iff, read]
  dsimp only
  split
  · next major minor rest hparts =>
    change Text.pieces '.' (core text) = _ at hparts
    rw [hparts] at hplus ⊢
    obtain ⟨hmajor, hplus⟩ := List.forall_mem_cons.mp hplus
    obtain ⟨hminor, hplus⟩ := List.forall_mem_cons.mp hplus
    cases rest with
    | nil =>
      simp only [Option.bind_eq_bind, Option.pure_def, Option.bind_eq_some_iff, Option.some.injEq,
        readNumber_eq_some_iff hmajor, readNumber_eq_some_iff hminor]
      constructor
      · rintro ⟨a, ha, b, hb, _, rfl, rfl⟩
        exact .two ha hb rfl
      · intro h
        cases h with
        | two ha hb hc => exact ⟨_, ha, _, hb, _, rfl, by rw [← hc]⟩
    | cons patch others =>
      simp only [Option.bind_eq_bind, Option.pure_def, Option.bind_eq_some_iff, Option.some.injEq,
        readNumber_eq_some_iff hmajor, readNumber_eq_some_iff hminor,
        readNumber_eq_some_iff (hplus patch List.mem_cons_self)]
      constructor
      · rintro ⟨a, ha, b, hb, c, hc, rfl⟩
        exact .three ha hb hc
      · intro h
        cases h with
        | three ha hb hc => exact ⟨_, ha, _, hb, _, hc, rfl⟩
  · next hparts =>
    refine iff_of_false nofun fun h ↦ ?_
    obtain ⟨major, minor, rest, heq⟩ := h.exists_eq_cons_cons
    exact hparts major minor rest heq

/-- The numbers of a version with dots between them. -/
def text (v : Version) : String :=
  toString v.major.toNat ++ "." ++ toString v.minor.toNat ++ "." ++ toString v.patch.toNat

theorem isSpelledBy_append (v : Version) {letter suffix : String}
    (hletter : letter = "" ∨ letter = "v") (hsuffix : IsSuffix suffix.toList) :
    v.IsSpelledBy (letter ++ v.text ++ suffix) := by
  let parts := [v.major, v.minor, v.patch].map fun n ↦ (toString n.toNat).toList
  have hdigit : ∀ part ∈ parts, ∀ c ∈ part, c.isDigit = true := by
    simp only [parts, List.forall_mem_map]
    exact fun n _ ↦ (digitsOf_toString n).isDigit
  have htext : v.text.toList = ['.'].intercalate parts := by
    simp [text, parts, List.intercalate_cons_cons]
  have hjoined : (letter ++ v.text ++ suffix).toList =
      letter.toList ++ (['.'].intercalate parts ++ suffix.toList) := by
    rw [String.toList_append, String.toList_append, htext, List.append_assoc]
  refine ⟨parts, ⟨List.cons_ne_nil _ _, fun part hpart c hc ↦ ?_, letter.toList, suffix.toList,
    hjoined, ?_, hsuffix⟩, ?_⟩
  · have hc' := hdigit part hpart c hc
    refine ⟨?_, ?_, ?_⟩ <;> rintro rfl <;> cases hc'
  · rcases hletter with rfl | rfl
    · -- the first number begins the text, and it does not begin with a letter
      obtain ⟨c, rest, hmajor⟩ := List.exists_cons_of_ne_nil (digitsOf_toString v.major).ne_nil
      have hc : c.isDigit = true :=
        (digitsOf_toString v.major).isDigit c (hmajor ▸ List.mem_cons_self)
      refine .inr ⟨rfl, ?_⟩
      simp only [hjoined, parts, String.toList_empty, List.nil_append, List.map_cons,
        List.intercalate_cons_cons, hmajor, List.cons_append, List.head?_cons, ne_eq,
        Option.some.injEq]
      rintro rfl
      cases hc
    · exact .inl rfl
  · exact .three (digitsOf_toString _) (digitsOf_toString _) (digitsOf_toString _)

/-! ## Order -/

/-- The numbers of a version. -/
def numbers (v : Version) : List Nat := [v.major.toNat, v.minor.toNat, v.patch.toNat]

/-- A version comes before another just if its numbers do, as words do in a dictionary. -/
theorem precedes_iff {v w : Version} : v.precedes w = true ↔ v.numbers < w.numbers := by
  simp [precedes, numbers, List.cons_lt_cons_iff, UInt32.lt_iff_toNat_lt, UInt32.toNat_inj]

end Version

/-- A range covers the versions from its first one up to but not including its bound. -/
def VersionRange.Covers (r : VersionRange) (v : Version) : Prop :=
  r.first.numbers ≤ v.numbers ∧ v.numbers < r.bound.numbers

instance (r : VersionRange) (v : Version) : Decidable (r.Covers v) :=
  inferInstanceAs (Decidable (_ ∧ _))

theorem VersionRange.contains_iff {r : VersionRange} {v : Version} :
    r.contains v = true ↔ r.Covers v := by
  rw [contains, Covers, Bool.and_eq_true, Bool.not_eq_true', Bool.eq_false_iff, ne_eq,
    Version.precedes_iff, Version.precedes_iff, not_lt]

theorem Vulnerability.affects_iff {k : Vulnerability} {v : Version} :
    k.affects v = true ↔ ∃ r ∈ k.affected, r.Covers v := by
  simp only [affects, List.any_eq_true, VersionRange.contains_iff]

namespace VulnerabilityAudit

/-- What a version is charged with under a text: one finding for each vulnerability of which some
range covers the version. -/
def charges (known : List Vulnerability) (v : Version) (text : String) : List Finding :=
  (known.filter fun k ↦ ∃ r ∈ k.affected, r.Covers v).map (finding text)

theorem findings_eq_ok {known : List Vulnerability} {v : Version} {text : String}
    (h : v.IsSpelledBy text) : findings known text = .ok (charges known v text) := by
  rw [findings, Version.read_eq_some_iff.mpr h]
  dsimp only
  rw [charges]
  congr 2
  refine List.filter_congr fun k _ ↦ ?_
  rw [Bool.eq_iff_iff, Vulnerability.affects_iff, decide_eq_true_iff]

theorem findings_eq_error {known : List Vulnerability} {text : String}
    (h : ∀ v : Version, ¬ v.IsSpelledBy text) :
    findings known text = .error (.unknownVersion text) := by
  have hread : Version.read text = none :=
    Option.eq_none_iff_forall_ne_some.mpr fun v hv ↦ h v (Version.read_eq_some_iff.mp hv)
  rw [findings, hread]

/-- **A version is charged by its numbers, however it is spelled.** If no version is known, the
auditor fails with the empty text. Otherwise it accepts the text just if the text spells a version:
then there is one finding for each vulnerability of which some range covers the version, in the
order of the table, and otherwise the auditor fails with the text. So any three numbers with dots
between them are charged in the same way with the letter and without it, and with any suffix. -/
theorem audit_charges_by_numbers (known : List Vulnerability) (context : AuditContext) :
    (context.version = none →
        (auditor known).audit context = .error (.unknownVersion "")) ∧
      ∀ text, context.version = some text →
        (∀ v : Version, v.IsSpelledBy text →
          (auditor known).audit context = .ok (charges known v text)) ∧
        ((∀ v : Version, ¬ v.IsSpelledBy text) →
          (auditor known).audit context = .error (.unknownVersion text)) ∧
        ∀ (v : Version) (letter suffix : String), letter = "" ∨ letter = "v" →
          Version.IsSuffix suffix.toList → text = letter ++ v.text ++ suffix →
          (auditor known).audit context = .ok (charges known v text) := by
  have haudit : (auditor known).audit context = findings known (context.version.getD "") := rfl
  constructor
  · intro hversion
    rw [haudit, hversion]
    rfl
  · intro text hversion
    rw [haudit, hversion, Option.getD_some]
    refine ⟨fun v h ↦ findings_eq_ok h, findings_eq_error, ?_⟩
    rintro v letter suffix hletter hsuffix rfl
    exact findings_eq_ok (v.isSpelledBy_append hletter hsuffix)

example : Version.read "v1.12-distroless" = some ⟨1, 12, 0⟩ ∧ Version.read "1.8." = none := by
  decide +kernel

end VulnerabilityAudit

end MeshSurvey
