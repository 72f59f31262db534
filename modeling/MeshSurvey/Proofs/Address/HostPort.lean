import MeshSurvey.Proofs.Address.Port
import MeshSurvey.Proofs.Text.Numeral
import MeshSurvey.Proofs.Text.Split

/-!
# Addresses that name a host and a port

Whether a text names a host and a port is decided by what stands in front of the last colon, once
the digits of a port stand behind it. So of two addresses with the same front and different ports
both are accepted or neither is; and an IP address with a port is always accepted, since its text,
in brackets if need be, is such a front.
-/

namespace MeshSurvey

namespace Authority

/-! ## Characters of an authority -/

theorem Seen.next_of_isPlain {s : Seen} {c : Char} (h : isPlain c = true)
    (hat : s.endsInAt = false) : s.next c = some s := by
  have hne : ∀ d, isPlain d = false → c ≠ d := by
    rintro d hd rfl
    exact Bool.false_ne_true (hd.symm.trans h)
  rw [next, if_neg (hne ':' (by decide)), if_neg (hne '[' (by decide)),
    if_neg (hne ']' (by decide)), if_neg (hne '@' (by decide)), if_neg (hne '%' (by decide)),
    if_pos h, ← hat]

theorem Seen.isComplete_iff {seen : Seen} : seen.isComplete = true ↔
    seen.opened = seen.closed ∧ seen.colons ≤ 1 ∧ seen.percent = false ∧ seen.endsInAt = false := by
  simp [Seen.isComplete, and_assoc]

theorem isEnd_of_isPlain {c : Char} (h : isPlain c = true) : isEnd c = false := by
  rw [Bool.eq_false_iff]
  intro hend
  simp only [isEnd, Bool.or_eq_true, decide_eq_true_eq] at hend
  obtain (rfl | rfl) | rfl := hend <;> exact absurd h (by decide)

theorem isPlain_of_mem_toDigits {b n : Nat} {c : Char} (hb : 1 < b) (hb' : b ≤ 16)
    (hc : c ∈ Nat.toDigits b n) : isPlain c = true := by
  obtain ⟨k, hk, rfl⟩ := Text.exists_digitChar_of_mem_toDigits hb hc
  have hplain : ∀ k < 16, isPlain (Nat.digitChar k) = true := by decide
  exact hplain k (Nat.lt_of_lt_of_le hk hb')

theorem isPlain_of_isDigit {c : Char} (h : c.isDigit = true) : isPlain c = true := by
  rw [isPlain, Char.isAlphanum, h, Bool.or_true, Bool.true_or]

theorem isPlain_of_mem_numeral {n : Nat} {cs : List Char} {c : Char} (h : Text.IsNumeral n cs)
    (hc : c ∈ cs) : isPlain c = true := by
  rcases h.isDigit_or c hc with hdigit | rfl
  · exact isPlain_of_isDigit hdigit
  · decide

theorem isPlain_of_mem_toString {n : Nat} {c : Char} (hc : c ∈ (toString n).toList) :
    isPlain c = true :=
  isPlain_of_mem_numeral (Text.isNumeral_toString n) hc

/-- Plain characters and up to eight colons pass, and only the colons leave a trace. -/
theorem foldlM_next {cs : List Char} (hcs : ∀ c ∈ cs, c = ':' ∨ isPlain c = true) {s : Seen}
    (hat : s.endsInAt = false) (hcolons : s.colons + cs.count ':' ≤ 8) :
    cs.foldlM Seen.next s = some { s with colons := s.colons + cs.count ':' } := by
  induction cs generalizing s with
  | nil => rfl
  | cons c cs ih =>
    have htail : ∀ d ∈ cs, d = ':' ∨ isPlain d = true := fun d hd ↦
      hcs d (List.mem_cons_of_mem _ hd)
    rw [List.foldlM_cons]
    rcases hcs c List.mem_cons_self with rfl | hplain
    · rw [List.count_cons_self] at hcolons ⊢
      have hnext : s.next ':' = some { s with colons := s.colons + 1, endsInAt := false } := by
        rw [Seen.next, if_pos rfl, if_pos (by omega)]
      rw [hnext]
      change cs.foldlM Seen.next _ = _
      have hbound : s.colons + 1 + cs.count ':' ≤ 8 := by omega
      have hsum : s.colons + (cs.count ':' + 1) = s.colons + 1 + cs.count ':' := by omega
      rw [ih htail rfl hbound, hsum, hat]
    · have hne : c ≠ ':' := by
        rintro rfl
        exact absurd hplain (by decide)
      rw [List.count_cons_of_ne hne] at hcolons ⊢
      rw [Seen.next_of_isPlain hplain hat]
      exact ih htail hat hcolons

theorem foldlM_next_of_isPlain {cs : List Char} (hcs : ∀ c ∈ cs, isPlain c = true) {s : Seen}
    (hat : s.endsInAt = false) (hcolons : s.colons ≤ 8) :
    cs.foldlM Seen.next s = some s := by
  have hcount : cs.count ':' = 0 :=
    List.count_eq_zero.mpr fun hcolon ↦ absurd (hcs _ hcolon) (by decide)
  rw [foldlM_next (fun c hc ↦ .inr (hcs c hc)) hat (by rw [hcount]; exact hcolons), hcount]
  rfl

/-! ## The host -/

/-- What follows the last `@`. -/
def afterAt (cs : List Char) : List Char :=
  match Text.cutLast '@' cs with
  | some (_, back) => back
  | none => cs

theorem afterAt_append (front : List Char) {back : List Char} (h : '@' ∉ back) :
    afterAt (front ++ back) = afterAt front ++ back := by
  rw [afterAt, afterAt, Text.cutLast_append front h]
  cases Text.cutLast '@' front <;> rfl

theorem afterAt_of_notMem {cs : List Char} (h : '@' ∉ cs) : afterAt cs = cs := by
  rw [afterAt, Text.cutLast_eq_none_iff.mpr h]

theorem host_ne_nil_iff {cs : List Char} :
    host cs ≠ [] ↔ ∃ c, (afterAt cs).head? = some c ∧ c ≠ ':' := by
  rw [host, afterAt]
  -- all the characters without a user, and otherwise those behind the user, are called `cs`
  rcases Text.cutLast '@' cs with _ | ⟨user, cs⟩
  all_goals
    dsimp only
    cases cs with
    | nil => simp
    | cons c rest =>
      by_cases hbracket : c = '['
      · subst hbracket
        cases Text.cutFirst ']' ('[' :: rest) <;> simp
      · by_cases hcolon : c = ':' <;> simp [hbracket, hcolon]

end Authority

namespace HostPort

open Authority (Seen)

/-! ## What may stand before a port -/

/-- What stands before a colon and a port names a host, and leaves nothing open that the colon and
the port would have to close. -/
structure IsFront (front : List Char) : Prop where
  /-- It does not end the authority. -/
  noEnd : front.any Authority.isEnd = false
  /-- It is well formed as far as it goes, and it has no colons outside brackets. -/
  wellFormed : ∃ seen, front.foldlM Seen.next .start = some seen ∧ seen.opened = seen.closed ∧
    seen.colons = 0 ∧ seen.percent = false
  /-- It names a host. -/
  namesHost : ∃ c, (Authority.afterAt front).head? = some c ∧ c ≠ ':'

/-- A colon and plain characters complete what has no other colons and nothing open. -/
theorem isWellFormed_append_colon (front : List Char) {back : List Char}
    (hback : ∀ c ∈ back, Authority.isPlain c = true) :
    Authority.isWellFormed (front ++ ':' :: back) = true ↔
      ∃ seen, front.foldlM Seen.next .start = some seen ∧ seen.opened = seen.closed ∧
        seen.colons = 0 ∧ seen.percent = false := by
  rw [Authority.isWellFormed, List.foldlM_append]
  cases front.foldlM Seen.next .start with
  | none => simp
  | some seen =>
    by_cases hcolons : seen.colons < 8
    · have hrest : (':' :: back).foldlM Seen.next seen =
          some { seen with colons := seen.colons + 1, endsInAt := false } := by
        rw [List.foldlM_cons, Seen.next, if_pos rfl, if_pos hcolons]
        exact Authority.foldlM_next_of_isPlain hback rfl hcolons
      rw [Option.bind_eq_bind, Option.bind_some, hrest]
      simp [Authority.Seen.isComplete_iff]
    · have hrest : (':' :: back).foldlM Seen.next seen = none := by
        rw [List.foldlM_cons, Seen.next, if_pos rfl, if_neg hcolons]
        rfl
      rw [Option.bind_eq_bind, Option.bind_some, hrest]
      simp
      omega

/-- An address with a numeral of a port behind it names a host and that port if and only if what
stands before the port may stand there. -/
theorem read_eq_some_iff {address : String} {front back host : List Char} {p q : UInt16}
    (h : address.toList = front ++ ':' :: back) (hback : Text.IsNumeral p.toNat back) :
    read address = some (host, q) ↔
      IsFront front ∧ Authority.host (front ++ ':' :: back) = host ∧ p = q := by
  have hplain : ∀ c ∈ back, Authority.isPlain c = true := fun c ↦
    Authority.isPlain_of_mem_numeral hback
  -- the port ends nothing, is the port, and neither makes nor hides a host
  have hend : (front ++ ':' :: back).any Authority.isEnd = front.any Authority.isEnd := by
    have hdigits : back.any Authority.isEnd = false := List.any_eq_false.mpr fun c hc ↦
      Bool.eq_false_iff.mp (Authority.isEnd_of_isPlain (hplain c hc))
    rw [List.any_append, List.any_cons, hdigits]
    exact Bool.or_false _
  have hport : Authority.port (front ++ ':' :: back) = some p := by
    have hcolon : ':' ∉ back := fun hmem ↦ absurd (hplain _ hmem) (by decide)
    rw [Authority.port, Text.cutLast_append_cons front hcolon]
    change (Text.readBelow 10 UInt16.size back).map UInt16.ofNat = some p
    rw [Text.readBelow_ten_eq_some_iff.mpr ⟨p.toNat_lt, hback⟩, Option.map_some,
      UInt16.ofNat_toNat]
  have hhost : Authority.host (front ++ ':' :: back) ≠ [] ↔
      ∃ c, (Authority.afterAt front).head? = some c ∧ c ≠ ':' := by
    have hat : '@' ∉ ':' :: back := by
      rw [List.mem_cons, not_or]
      exact ⟨by decide, fun hmem ↦ absurd (hplain _ hmem) (by decide)⟩
    rw [Authority.host_ne_nil_iff, Authority.afterAt_append front hat]
    cases Authority.afterAt front <;> simp
  have hread : read address = some (host, q) ↔
      (front.any Authority.isEnd = false ∧ Authority.isWellFormed (front ++ ':' :: back) = true ∧
        Authority.host (front ++ ':' :: back) ≠ []) ∧
          Authority.host (front ++ ':' :: back) = host ∧ p = q := by
    rw [read, Authority.read, h, hport, hend]
    cases front.any Authority.isEnd <;>
      cases Authority.isWellFormed (front ++ ':' :: back) <;>
      simp
  rw [hread, isWellFormed_append_colon front hplain, hhost]
  refine and_congr_left fun _ ↦ ?_
  exact ⟨fun ⟨h₁, h₂, h₃⟩ ↦ ⟨h₁, h₂, h₃⟩, fun ⟨h₁, h₂, h₃⟩ ↦ ⟨h₁, h₂, h₃⟩⟩

theorem read_isSome_iff {address : String} {front : List Char} {p : UInt16}
    (h : address.toList = front ++ ':' :: (toString p.toNat).toList) :
    (read address).isSome = true ↔ IsFront front := by
  rw [Option.isSome_iff_exists]
  constructor
  · rintro ⟨⟨host, q⟩, hread⟩
    exact ((read_eq_some_iff h (Text.isNumeral_toString _)).mp hread).1
  · intro hfront
    exact ⟨_, (read_eq_some_iff h (Text.isNumeral_toString _)).mpr ⟨hfront, rfl, rfl⟩⟩

/-- Whether a joined address can be read is up to the host alone. -/
theorem read_join_isSome_iff (host : String) (p q : UInt16) :
    (read (join host p)).isSome = true ↔ (read (join host q)).isSome = true := by
  obtain ⟨front, hfront⟩ : ∃ front : List Char, ∀ port : UInt16,
      (join host port).toList = front ++ ':' :: (toString port.toNat).toList := by
    by_cases hbrackets :
        (host.toList.contains ':' && decide (host.toList.head? ≠ some '[')) = true
    · refine ⟨'[' :: host.toList ++ [']'], fun port ↦ ?_⟩
      rw [join, if_pos hbrackets]
      simp only [String.toList_append, List.append_assoc]
      rfl
    · refine ⟨host.toList, fun port ↦ ?_⟩
      rw [join, if_neg hbrackets]
      simp only [String.toList_append, List.append_assoc]
      rfl
  rw [read_isSome_iff (hfront p), read_isSome_iff (hfront q)]

theorem isFront_of_isPlain {cs : List Char} (hcs : ∀ c ∈ cs, Authority.isPlain c = true)
    (hne : cs ≠ []) : IsFront cs where
  noEnd := List.any_eq_false.mpr fun c hc ↦
    Bool.eq_false_iff.mp (Authority.isEnd_of_isPlain (hcs c hc))
  wellFormed := ⟨.start, Authority.foldlM_next_of_isPlain hcs rfl (by decide), rfl, rfl, rfl⟩
  namesHost := by
    have hat : '@' ∉ cs := fun hmem ↦ absurd (hcs _ hmem) (by decide)
    obtain ⟨c, rest, rfl⟩ := List.exists_cons_of_ne_nil hne
    refine ⟨c, ?_, ?_⟩
    · rw [Authority.afterAt_of_notMem hat, List.head?_cons]
    · rintro rfl
      exact absurd (hcs _ List.mem_cons_self) (by decide)

theorem isFront_brackets {cs : List Char} (hcs : ∀ c ∈ cs, c = ':' ∨ Authority.isPlain c = true)
    (hcolons : cs.count ':' ≤ 8) : IsFront ('[' :: cs ++ [']']) where
  noEnd := by
    have hinner : cs.any Authority.isEnd = false := List.any_eq_false.mpr fun c hc ↦ by
      rcases hcs c hc with rfl | hplain
      · decide
      · exact Bool.eq_false_iff.mp (Authority.isEnd_of_isPlain hplain)
    rw [List.cons_append, List.any_cons, List.any_append, hinner]
    rfl
  wellFormed := by
    refine ⟨⟨0, true, true, false, false⟩, ?_, rfl, rfl, rfl⟩
    -- the closing bracket makes the pass forget the colons that it has counted in between
    have hinner : cs.foldlM Seen.next ⟨0, true, false, false, false⟩ =
        some ⟨0 + cs.count ':', true, false, false, false⟩ :=
      Authority.foldlM_next hcs rfl (by rw [Nat.zero_add]; exact hcolons)
    rw [List.cons_append, List.foldlM_cons]
    change (cs ++ [']']).foldlM Seen.next ⟨0, true, false, false, false⟩ = _
    rw [List.foldlM_append, hinner]
    rfl
  namesHost := by
    have hat : '@' ∉ '[' :: cs ++ [']'] := by
      intro hmem
      rw [List.cons_append, List.mem_cons, List.mem_append] at hmem
      rcases hmem with h | hmem | h
      · exact absurd h (by decide)
      · rcases hcs _ hmem with h | h <;> exact absurd h (by decide)
      · exact absurd h (by decide)
    refine ⟨'[', ?_, by decide⟩
    rw [Authority.afterAt_of_notMem hat, List.cons_append, List.head?_cons]

end HostPort

/-! ## IP addresses with a port -/

theorem IPv4.isPlain_of_mem_text {ip : IPv4} {c : Char} (hc : c ∈ ip.text.toList) :
    Authority.isPlain c = true := by
  have hdot : ∀ c ∈ ".".toList, Authority.isPlain c = true := List.all_eq_true.mp (by decide)
  rw [text, String.toList_intercalate] at hc
  refine Text.forall_mem_intercalate hdot (fun piece hpiece ↦ ?_) c hc
  rw [List.map_map, List.mem_map] at hpiece
  obtain ⟨octet, -, rfl⟩ := hpiece
  exact fun c hc ↦ Authority.isPlain_of_mem_toString hc

theorem IPv4.toList_text_ne_nil (ip : IPv4) : ip.text.toList ≠ [] := by
  rw [text, String.toList_intercalate, List.map_map, List.map_cons,
    List.intercalate_cons_of_ne_nil (by simp)]
  simp

namespace IPv6

theorem longestZeros_le (groups : List UInt16) {i : Nat} {longest current : Run}
    (hlongest : longest.start + longest.length ≤ i)
    (hcurrent : current.length = 0 ∨ current.start + current.length = i) :
    (longestZeros i longest current groups).start + (longestZeros i longest current groups).length ≤
      i + groups.length := by
  induction groups generalizing i longest current with
  | nil => exact hlongest
  | cons g groups ih =>
    rw [longestZeros, List.length_cons]
    by_cases hg : g = 0
    · have hnext : (if current.length = 0 then i else current.start) + (current.length + 1) =
          i + 1 := by
        split <;> omega
      rw [if_pos hg]
      refine Nat.le_trans (ih ?_ (.inr hnext)) (by omega)
      by_cases hlonger : longest.length < current.length + 1
      · rw [if_pos hlonger]
        exact Nat.le_of_eq hnext
      · rw [if_neg hlonger]
        exact Nat.le_succ_of_le hlongest
    · rw [if_neg hg]
      exact Nat.le_trans (ih (by omega) (.inl rfl)) (by omega)

/-- A text of digits and of at most `bound` colons. -/
structure HasColons (cs : List Char) (bound : Nat) : Prop where
  /-- There is nothing else. -/
  chars : ∀ c ∈ cs, c = ':' ∨ Authority.isPlain c = true
  /-- There are not too many colons. -/
  count : cs.count ':' ≤ bound

theorem HasColons.of_all {cs : List Char} {bound : Nat}
    (hall : cs.all (fun c ↦ c == ':' || Authority.isPlain c) = true)
    (hcount : cs.count ':' ≤ bound) : HasColons cs bound where
  chars c hc := by simpa using List.all_eq_true.mp hall c hc
  count := hcount

theorem HasColons.append {cs ds : List Char} {m n : Nat} (h : HasColons cs m)
    (h' : HasColons ds n) : HasColons (cs ++ ds) (m + n) where
  chars := List.forall_mem_append.mpr ⟨h.chars, h'.chars⟩
  count := by
    rw [List.count_append]
    exact Nat.add_le_add h.count h'.count

theorem HasColons.mono {cs : List Char} {m n : Nat} (h : HasColons cs m) (hle : m ≤ n) :
    HasColons cs n :=
  ⟨h.chars, Nat.le_trans h.count hle⟩

theorem hasColons_groupsText (groups : List UInt16) :
    HasColons (groupsText groups).toList groups.length := by
  have hpieces : ∀ piece ∈ (groups.map fun g ↦ String.ofList (Nat.toDigits 16 g.toNat)).map
      String.toList, ∀ c ∈ piece, Authority.isPlain c = true := by
    intro piece hpiece
    rw [List.map_map, List.mem_map] at hpiece
    obtain ⟨g, -, rfl⟩ := hpiece
    intro c hc
    rw [Function.comp_apply, String.toList_ofList] at hc
    exact Authority.isPlain_of_mem_toDigits (by decide) (by decide) hc
  have hsep : ":".toList = [':'] := rfl
  rw [groupsText, String.toList_intercalate, hsep]
  constructor
  · have hcolon : ∀ c ∈ [':'], c = ':' ∨ Authority.isPlain c = true :=
      List.forall_mem_singleton.mpr (.inl rfl)
    exact Text.forall_mem_intercalate hcolon fun piece hpiece c hc ↦
      .inr (hpieces piece hpiece c hc)
  · have hcount := Text.count_intercalate_le fun piece hpiece hcolon ↦
      absurd (hpieces piece hpiece ':' hcolon) (by decide)
    simpa only [List.length_map] using hcount

theorem hasColons_text (ip : IPv6) : HasColons ip.text.toList 8 := by
  rw [text]
  cases ip.embedded with
  | some v4 =>
    have hfront : HasColons "::ffff:".toList 3 := .of_all (by decide) (by decide)
    have hback : HasColons v4.text.toList 0 :=
      ⟨fun c hc ↦ .inr (IPv4.isPlain_of_mem_text hc), Nat.le_of_eq (List.count_eq_zero.mpr
        fun hcolon ↦ absurd (IPv4.isPlain_of_mem_text hcolon) (by decide))⟩
    rw [String.toList_append]
    exact (hfront.append hback).mono (by decide)
  | none =>
    change HasColons (String.toList (if _ then _ else _)) 8
    have hbound := @longestZeros_le ip.groups 0 ⟨0, 0⟩ ⟨0, 0⟩ (Nat.le_refl 0) (.inl rfl)
    rw [ip.length_groups] at hbound
    split
    · next hlong =>
      have hcolons : HasColons "::".toList 2 := .of_all (by decide) (by decide)
      rw [String.toList_append, String.toList_append]
      refine (((hasColons_groupsText _).append hcolons).append (hasColons_groupsText _)).mono ?_
      rw [List.length_take, List.length_drop, ip.length_groups]
      omega
    · exact (hasColons_groupsText ip.groups).mono (Nat.le_of_eq ip.length_groups)

end IPv6

/-- An IP address with a port always names a host and a port. -/
theorem IP.read_withPort_isSome (ip : IP) (port : UInt16) :
    (HostPort.read (ip.withPort port)).isSome = true := by
  cases ip with
  | v4 ip =>
    have hfront : (IP.withPort (.v4 ip) port).toList =
        ip.text.toList ++ ':' :: (toString port.toNat).toList := by
      simp only [withPort, String.toList_append, List.append_assoc]
      rfl
    exact (HostPort.read_isSome_iff hfront).mpr
      (HostPort.isFront_of_isPlain (fun c hc ↦ IPv4.isPlain_of_mem_text hc) ip.toList_text_ne_nil)
  | v6 ip =>
    have hfront : (IP.withPort (.v6 ip) port).toList =
        ('[' :: ip.text.toList ++ [']']) ++ ':' :: (toString port.toNat).toList := by
      simp only [withPort, String.toList_append, List.append_assoc]
      rfl
    obtain ⟨hchars, hcount⟩ := IPv6.hasColons_text ip
    exact (HostPort.read_isSome_iff hfront).mpr (HostPort.isFront_brackets hchars hcount)

end MeshSurvey
