import MeshSurvey.Proofs.Address.HostPort

/-!
# The characters of an IP address

Whatever is read as an IP address has only characters that may stand in an authority. In an IPv4
address none of them is a colon; in an IPv6 address there are some, but never more than eight, which
is as many as an authority may have between brackets.
-/

namespace MeshSurvey

/-! ## IPv4 addresses -/

namespace IPv4

theorem exists_of_octetFront {cs rest : List Char} {octet : UInt8}
    (h : octetFront cs = some (octet, rest)) :
    ∃ front, cs = front ++ rest ∧ ∀ c ∈ front, Authority.isPlain c = true := by
  obtain ⟨_, -, heq⟩ := Option.map_eq_some_iff.mp h
  obtain ⟨-, rfl⟩ := Prod.mk.inj heq
  refine ⟨cs.takeWhile Char.isDigit, List.takeWhile_append_dropWhile.symm, fun c hc ↦ ?_⟩
  exact Authority.isPlain_of_isDigit (List.all_eq_true.mp List.all_takeWhile c hc)

theorem exists_of_dottedOctet {cs rest : List Char} {octet : UInt8}
    (h : dottedOctet cs = some (octet, rest)) :
    ∃ front, cs = front ++ rest ∧ ∀ c ∈ front, Authority.isPlain c = true := by
  rw [dottedOctet.eq_def] at h
  split at h
  · obtain ⟨front, rfl, hfront⟩ := exists_of_octetFront h
    exact ⟨'.' :: front, rfl, List.forall_mem_cons.mpr ⟨by decide, hfront⟩⟩
  · cases h

theorem exists_of_readFront {cs rest : List Char} {ip : IPv4}
    (h : readFront cs = some (ip, rest)) :
    ∃ front, cs = front ++ rest ∧ ∀ c ∈ front, Authority.isPlain c = true := by
  simp only [readFront, Option.bind_eq_bind, Option.bind_eq_some_iff, Option.pure_def] at h
  obtain ⟨⟨a, cs₁⟩, ha, ⟨b, cs₂⟩, hb, ⟨c, cs₃⟩, hc, ⟨d, cs₄⟩, hd, heq⟩ := h
  obtain ⟨-, rfl⟩ := Prod.mk.inj (Option.some.inj heq)
  obtain ⟨front₁, rfl, h₁⟩ := exists_of_octetFront ha
  obtain ⟨front₂, rfl, h₂⟩ := exists_of_dottedOctet hb
  obtain ⟨front₃, rfl, h₃⟩ := exists_of_dottedOctet hc
  obtain ⟨front₄, rfl, h₄⟩ := exists_of_dottedOctet hd
  refine ⟨front₁ ++ (front₂ ++ (front₃ ++ front₄)), by simp only [List.append_assoc], ?_⟩
  simp only [List.forall_mem_append]
  exact ⟨h₁, h₂, h₃, h₄⟩

theorem isPlain_of_read {cs : List Char} {ip : IPv4} (h : read cs = some ip) :
    cs ≠ [] ∧ ∀ c ∈ cs, Authority.isPlain c = true := by
  constructor
  · rintro rfl
    cases h
  · rw [read] at h
    split at h
    · next hfront =>
      obtain ⟨front, rfl, hplain⟩ := exists_of_readFront hfront
      rwa [List.append_nil]
    · cases h

end IPv4

/-! ## IPv6 addresses -/

namespace IPv6

theorem isPlain_of_digitIn {c : Char} (h : (Text.digitIn 16 c).isSome = true) :
    Authority.isPlain c = true := by
  obtain ⟨d, hd⟩ := Option.isSome_iff_exists.mp h
  have hvalue := (Option.filter_eq_some_iff.mp hd).1
  -- a digit in any base is a decimal digit or a letter
  have halnum : c.isAlphanum = true := by
    change ((decide ('A' ≤ c ∧ c ≤ 'Z') || (decide ('a' ≤ c) && decide (c ≤ 'z'))) ||
      (decide ('0' ≤ c) && decide (c ≤ '9'))) = true
    simp only [Bool.or_eq_true, Bool.and_eq_true, decide_eq_true_eq]
    rw [Text.digitValue] at hvalue
    split at hvalue
    · next hdigit => exact .inr hdigit
    split at hvalue
    · next hlower => exact .inl (.inr hlower)
    · exact .inl (.inl (Option.ite_none_right_eq_some.mp hvalue).1)
  rw [Authority.isPlain, halnum, Bool.true_or]

theorem hasColons_of_isPlain {cs : List Char} (h : ∀ c ∈ cs, Authority.isPlain c = true) :
    HasColons cs 0 where
  chars c hc := .inr (h c hc)
  count := Nat.le_of_eq (List.count_eq_zero.mpr fun hcolon ↦ absurd (h _ hcolon) (by decide))

theorem exists_of_groupFront {cs rest : List Char} {group : UInt16}
    (h : groupFront cs = some (group, rest)) : ∃ front, cs = front ++ rest ∧ HasColons front 0 := by
  obtain ⟨_, hmap⟩ := Option.ite_none_right_eq_some.mp h
  obtain ⟨_, -, heq⟩ := Option.map_eq_some_iff.mp hmap
  obtain ⟨-, rfl⟩ := Prod.mk.inj heq
  refine ⟨_, List.takeWhile_append_dropWhile.symm, hasColons_of_isPlain fun c hc ↦ ?_⟩
  exact isPlain_of_digitIn (List.all_eq_true.mp List.all_takeWhile c hc)

/-- What a group or an IPv4 address needs before it: a colon, unless it is the first. -/
theorem exists_of_afterColon {isFirst : Bool} {cs rest : List Char}
    (h : afterColon isFirst cs = some rest) :
    cs = (if isFirst then [] else [':']) ++ rest := by
  rw [afterColon.eq_def] at h
  cases isFirst with
  | true => exact Option.some.inj h
  | false =>
    rw [if_neg Bool.false_ne_true] at h
    split at h
    · rw [Option.some.inj h]
      rfl
    · cases h

/-- Groups that were read from the front of a text, up to a limit: what was read has a colon before
each group but the first, an IPv4 address counting as two groups with one colon. -/
structure ReadsGroups (limit : Nat) (isFirst : Bool) (cs : List Char) (read : Groups) : Prop where
  /-- There are at most as many groups as there may be. -/
  length_le : read.groups.length ≤ limit
  /-- There are not more colons than groups. -/
  exists_front : ∃ front, cs = front ++ read.rest ∧
    HasColons front (read.groups.length - if isFirst then 1 else 0) ∧
    (isFirst = false → read.groups ≠ [] → ':' ∈ front)

theorem readsGroups (limit : Nat) (isFirst : Bool) (cs : List Char) :
    ReadsGroups limit isFirst cs (groupsFront limit isFirst cs) := by
  have hnone : HasColons [] 0 := hasColons_of_isPlain (List.forall_mem_nil _)
  have hsep (isFirst : Bool) : HasColons (if isFirst then [] else [':'])
      (if isFirst then 0 else 1) := by
    cases isFirst
    · exact .of_all (by decide) (by decide)
    · exact hnone
  induction limit generalizing isFirst cs with
  | zero => exact ⟨Nat.le_refl 0, [], rfl, hnone.mono (Nat.zero_le _), fun _ h ↦ absurd rfl h⟩
  | succ limit ih =>
    rw [groupsFront]
    dsimp only
    split
    · next ip rest hv4 =>
      -- an IPv4 address, which ends the groups and counts as two of them
      obtain ⟨hlimit, hv4⟩ := Option.ite_none_left_eq_some.mp hv4
      obtain ⟨back, hcolon, hread⟩ := Option.bind_eq_some_iff.mp hv4
      obtain ⟨front, rfl, hplain⟩ := IPv4.exists_of_readFront hread
      refine ⟨?_, _, ?_, ((hsep isFirst).append (hasColons_of_isPlain hplain)).mono ?_, ?_⟩
      · change 2 ≤ limit + 1
        omega
      · rw [exists_of_afterColon hcolon, List.append_assoc]
      · change _ ≤ 2 - _
        cases isFirst <;> decide
      · rintro rfl -
        exact List.mem_cons_self
    · split
      · exact ⟨Nat.zero_le _, [], rfl, hnone.mono (Nat.zero_le _), fun _ h ↦ absurd rfl h⟩
      · next group rest hgroup =>
        -- one group, and in front of the others a colon for each
        obtain ⟨back, hcolon, hread⟩ := Option.bind_eq_some_iff.mp hgroup
        obtain ⟨front, rfl, hfront⟩ := exists_of_groupFront hread
        obtain ⟨hle, front', hrest, hfront', -⟩ := ih false rest
        refine ⟨Nat.succ_le_succ hle, _, ?_, (((hsep isFirst).append hfront).append hfront').mono ?_,
          ?_⟩
        · rw [exists_of_afterColon hcolon, List.append_assoc, List.append_assoc, ← hrest]
        · change _ ≤ (groupsFront limit false rest).groups.length + 1 - _
          simp only [Bool.false_eq_true, if_false]
          split <;> omega
        · rintro rfl -
          exact List.mem_cons_self

theorem colon_mem_of_groupsFront {cs : List Char}
    (h : (groupsFront 8 true cs).groups.length = 8) : ':' ∈ cs := by
  rw [groupsFront] at h
  dsimp only at h
  split at h
  · cases h
  · split at h
    · cases h
    · next group rest hgroup =>
      obtain ⟨back, hcolon, hread⟩ := Option.bind_eq_some_iff.mp hgroup
      obtain ⟨front, rfl, -⟩ := exists_of_groupFront hread
      obtain rfl := exists_of_afterColon hcolon
      -- behind the first group there are seven more, and the second one has a colon before it
      obtain ⟨-, front', hrest, -, hmem⟩ := readsGroups 7 false rest
      have hne : (groupsFront 7 false rest).groups ≠ [] := by
        intro hnil
        rw [hnil] at h
        cases h
      rw [hrest]
      simp [hmem rfl hne]

/-- **What is read as an address has some colons, but no more than eight.** -/
theorem hasColons_of_read {cs : List Char} {ip : IPv6} (h : read cs = some ip) :
    HasColons cs 8 ∧ ':' ∈ cs := by
  obtain ⟨hle, front, hcs, hfront, -⟩ := readsGroups 8 true cs
  rw [read] at h
  split at h
  · next hlength =>
    -- eight groups, with nothing left out
    obtain ⟨hempty, -⟩ := Option.ite_none_right_eq_some.mp h
    rw [List.isEmpty_iff.mp hempty, List.append_nil] at hcs
    refine ⟨?_, colon_mem_of_groupsFront hlength⟩
    rw [hcs]
    exact hfront.mono (by omega)
  · next hlength =>
    obtain ⟨-, h⟩ := Option.ite_none_left_eq_some.mp h
    split at h
    · next rest hrest =>
      -- groups on both sides of two colons, fewer than eight in all
      obtain ⟨hempty, -⟩ := Option.ite_none_right_eq_some.mp h
      obtain ⟨hle', back, hback, hcolons, -⟩ :=
        readsGroups (8 - ((groupsFront 8 true cs).groups.length + 1)) true rest
      rw [List.isEmpty_iff.mp hempty, List.append_nil] at hback
      rw [hrest] at hcs
      have hshort : HasColons [':', ':'] 2 := .of_all (by decide) (by decide)
      have hall := hfront.append (hshort.append hcolons)
      rw [← hback] at hall
      rw [hcs]
      refine ⟨hall.mono ?_, by simp⟩
      simp only [if_true] at *
      omega
    · cases h

/-- Without brackets an address cannot stand in front of a port. -/
theorem not_isFront_of_read {cs : List Char} {ip : IPv6} (h : read cs = some ip) :
    ¬ HostPort.IsFront cs := by
  intro hfront
  obtain ⟨⟨hchars, hcount⟩, hcolon⟩ := hasColons_of_read h
  obtain ⟨seen, hseen, -, hnone, -⟩ := hfront.wellFormed
  have hbound : Authority.Seen.start.colons + cs.count ':' ≤ 8 := by
    change 0 + cs.count ':' ≤ 8
    omega
  have hpass := Authority.foldlM_next hchars rfl hbound
  obtain rfl := Option.some.inj (hseen.symm.trans hpass)
  have hpos : 0 < cs.count ':' := List.count_pos_iff.mpr hcolon
  change 0 + cs.count ':' = 0 at hnone
  omega

end IPv6

end MeshSurvey
