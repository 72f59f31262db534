import MeshSurvey.Mesh.EnvelopedResource
import MeshSurvey.Proofs.Text.Split

/-!
# Full names

An envelope names its resource by a namespace and a name with a slash between them. The two are
taken apart at the slash and put into the metadata as they are, so that the metadata still tells the
full name. A name with another number of slashes, or one that lacks a part it has to have, is
refused, and then nothing else in the envelope matters.
-/

namespace MeshSurvey

/-- A full name is made of a namespace and a name, and has no other slash than the one between them.
The name is not empty, nor is the namespace if there has to be one. -/
structure IsFullName (namespaced : Bool) (full space name : String) : Prop where
  eq_append : full = space ++ "/" ++ name
  count_slash : full.toList.count '/' = 1
  name_ne : name ≠ ""
  space_ne : namespaced = true → space ≠ ""

namespace IsFullName

variable {namespaced : Bool} {full space name : String}

theorem iff_notMem : IsFullName namespaced full space name ↔
    full = space ++ "/" ++ name ∧ ('/' ∉ space.toList ∧ '/' ∉ name.toList) ∧ name ≠ "" ∧
      (namespaced = true → space ≠ "") := by
  have hcount : (space ++ "/" ++ name).toList.count '/' = 1 ↔
      '/' ∉ space.toList ∧ '/' ∉ name.toList := by
    rw [Text.toList_append_slash, List.count_append, List.count_cons_self, ← List.count_eq_zero,
      ← List.count_eq_zero]
    omega
  constructor
  · rintro ⟨rfl, hslash, hname, hspace⟩
    exact ⟨rfl, hcount.mp hslash, hname, hspace⟩
  · rintro ⟨rfl, hslash, hname, hspace⟩
    exact ⟨rfl, hcount.mpr hslash, hname, hspace⟩

theorem notMem (h : IsFullName namespaced full space name) :
    '/' ∉ space.toList ∧ '/' ∉ name.toList := (iff_notMem.mp h).2.1

end IsFullName

/-- The full name in an envelope, which is empty if there is no metadata. -/
def Envelope.fullName (e : Envelope) : String :=
  match e.metadata with
  | some m => m.name
  | none => ""

/-- The bytes of the body in an envelope. There are none if there is no body. -/
def Envelope.bodyBytes (e : Envelope) : Wire.Bytes :=
  match e.body with
  | some any => any.value
  | none => []

theorem Envelope.name_getD_metadata (e : Envelope) : (e.metadata.getD {}).name = e.fullName := by
  rw [fullName]
  cases e.metadata <;> rfl

theorem Envelope.value_getD_body (e : Envelope) : (e.body.getD {}).value = e.bodyBytes := by
  rw [bodyBytes]
  cases e.body <;> rfl

namespace EnvelopedResource

variable {namespaced : Bool} {full space name : String} {k : Kind} {e : Envelope}
  {r : EnvelopedResource}

/-! ## Taking a name apart -/

theorem splitName_eq_some_iff :
    splitName namespaced full = some (space, name) ↔ IsFullName namespaced full space name := by
  rw [IsFullName.iff_notMem, splitName]
  constructor
  · intro h
    split at h
    · cases h
    next front back hcut =>
      obtain ⟨hvalid, heq⟩ := Option.ite_none_left_eq_some.mp h
      obtain ⟨rfl, rfl⟩ := Prod.mk.inj (Option.some.inj heq)
      obtain ⟨hfull, hfront⟩ := Text.cutFirst_eq_some_iff.mp hcut
      simp only [Bool.or_eq_true, Bool.and_eq_true, List.isEmpty_iff, List.contains_iff_mem,
        not_or, not_and] at hvalid
      obtain ⟨⟨hback_ne, hback⟩, hfront_ne⟩ := hvalid
      refine ⟨String.toList_injective ?_, by simpa using ⟨hfront, hback⟩, by simpa using hback_ne,
        by simpa using hfront_ne⟩
      rw [hfull, Text.toList_append_slash, String.toList_ofList, String.toList_ofList]
  · rintro ⟨rfl, ⟨hspace, hname⟩, hname_ne, hspace_ne⟩
    rw [Text.toList_append_slash, Text.cutFirst_append hspace]
    simpa [hname, hname_ne] using hspace_ne

theorem splitName_eq_none_iff :
    splitName namespaced full = none ↔
      ∀ space name, ¬ IsFullName namespaced full space name := by
  rw [Option.eq_none_iff_forall_ne_some, Prod.forall]
  simp only [ne_eq, splitName_eq_some_iff]

/-- Only what lives in no namespace may go without one. -/
example : splitName false "/billing" = some ("", "billing") ∧ splitName true "/billing" = none := by
  decide

/-! ## Out of an envelope -/

theorem present_getD (s : String) : (present s).getD "" = s := by
  rw [present]
  split
  next h => exact h.symm
  next => rfl

theorem ofEnvelope_eq_ok_iff :
    ofEnvelope k e = .ok r ↔ ∃ space name, IsFullName k.isNamespaced e.fullName space name ∧
      r = ⟨k, objectMeta (e.metadata.getD {}) space name, e.bodyBytes⟩ := by
  simp only [ofEnvelope, e.name_getD_metadata, e.value_getD_body, ← splitName_eq_some_iff]
  rcases splitName k.isNamespaced e.fullName with _ | ⟨space, name⟩
  · exact ⟨nofun, fun ⟨_, _, h, _⟩ ↦ nomatch h⟩
  · constructor
    · intro h
      exact ⟨space, name, rfl, (Except.ok.inj h).symm⟩
    · rintro ⟨_, _, h, rfl⟩
      obtain ⟨rfl, rfl⟩ := Prod.mk.inj (Option.some.inj h)
      rfl

/-- A malformed name is all that is said of an envelope. -/
theorem ofEnvelope_eq_error (h : ∀ space name, ¬ IsFullName k.isNamespaced e.fullName space name) :
    ofEnvelope k e = .error (.malformedName e.fullName) := by
  rw [ofEnvelope, e.name_getD_metadata, splitName_eq_none_iff.mpr h]

/-- **Full names are taken apart at their only slash.** A resource comes out of an envelope just if
the envelope has a full name. Otherwise it is refused with the whole of the name, whatever its body
is and whether or not that is to be decoded as well. The resource has the bytes of the body, a
namespace and a name without slashes, and with a slash between them they are the full name. So
envelopes from which the same namespace and name come have the same full name. -/
theorem full_names_are_split_exactly (k : Kind) (e : Envelope) :
    ((∃ r, ofEnvelope k e = .ok r) ↔
        ∃ space name, IsFullName k.isNamespaced e.fullName space name) ∧
      ((∀ space name, ¬ IsFullName k.isNamespaced e.fullName space name) →
        ∀ body, ofEnvelope k { e with body } = .error (.malformedName e.fullName) ∧
          k.ofEnvelope { e with body } = .error (.malformedName e.fullName)) ∧
      ∀ r, ofEnvelope k e = .ok r →
        let space := r.metadata.namespaceName.getD ""
        let name := r.metadata.name.getD ""
        space ++ "/" ++ name = e.fullName ∧ '/' ∉ space.toList ∧ '/' ∉ name.toList ∧
          r.payload = e.bodyBytes ∧
          ∀ e' r', ofEnvelope k e' = .ok r' →
            r'.metadata.namespaceName.getD "" = space → r'.metadata.name.getD "" = name →
            e'.fullName = e.fullName := by
  -- what is said of two envelopes below is said of each of them here
  have hparts {e : Envelope} {r : EnvelopedResource} (h : ofEnvelope k e = .ok r) :
      IsFullName k.isNamespaced e.fullName (r.metadata.namespaceName.getD "")
        (r.metadata.name.getD "") ∧ r.payload = e.bodyBytes := by
    obtain ⟨space, name, hfull, rfl⟩ := ofEnvelope_eq_ok_iff.mp h
    rw [← present_getD space] at hfull
    exact ⟨hfull, rfl⟩
  refine ⟨?_, fun hmalformed body ↦ ?_, fun r h ↦ ?_⟩
  · simp only [ofEnvelope_eq_ok_iff]
    constructor
    · rintro ⟨_, space, name, hfull, -⟩
      exact ⟨space, name, hfull⟩
    · rintro ⟨space, name, hfull⟩
      exact ⟨_, space, name, hfull, rfl⟩
  · have herror : ofEnvelope k { e with body } = .error (.malformedName e.fullName) :=
      ofEnvelope_eq_error hmalformed
    refine ⟨herror, ?_⟩
    rw [Kind.ofEnvelope, herror]
    rfl
  · obtain ⟨hfull, hpayload⟩ := hparts h
    refine ⟨hfull.eq_append.symm, hfull.notMem.1, hfull.notMem.2, hpayload, ?_⟩
    intro e' r' h' hspace hname
    rw [(hparts h').1.eq_append, hspace, hname, ← hfull.eq_append]

end EnvelopedResource

end MeshSurvey
