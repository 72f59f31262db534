import MeshSurvey.Proofs.Wire.Grammar
import MeshSurvey.Wire.Message

/-!
# Records that are not declared

Whoever writes a message may know more fields than its reader. A record of a field that the reader's
type does not declare may stand at the boundary of any record, in the message itself or in one that
is nested in it at any level; the counts of bytes around it are then others too. The reader is shown
to pass over it, whatever it has merged before.

That two texts merge alike is said up to an *observation* of the structure, because a structure may
hold a text of bytes of which only the meaning matters to whoever looks at it.
-/

namespace MeshSurvey.Wire

variable {α σ μ ω : Type}

namespace Message

/-- The text spells records of the message. -/
abbrev Spells (m : Message σ) (depth : Nat) : List Record → Bytes → Prop :=
  SpellsRecords m.isCounted depth

/-- The text is one well-formed record of a field that the message does not declare, with groups
that nest no more than `depth` deep. -/
def Undeclared (m : Message σ) (depth : Nat) (text : Bytes) : Prop :=
  ∃ (key : Key) (start : Bytes) (p : Payload) (body : Bytes), key.Spells start ∧
    Payload.Spells depth key p body ∧ m.field? key.field = none ∧ text = start ++ body

variable {m : Message σ} {depth : Nat} {records : List Record} {front text text' back : Bytes}

/-- The reader takes such a text for one record of a field that is not declared. -/
theorem undeclared_iff : m.Undeclared depth text ↔
    ∃ r : Record, m.field? r.1 = none ∧ m.Spells depth [r] text := by
  have hcounted {number : Nat} (hfield : m.field? number = none) :
      ¬ m.isCounted number = true := by simp [isCounted, hfield]
  constructor
  · rintro ⟨key, start, p, body, hkey, hp, hfield, rfl⟩
    refine ⟨(key.field, p), hfield, RecordsOf.singleton_iff.mpr ?_⟩
    refine ⟨key, start, body, hkey, ?_, rfl, rfl⟩
    rwa [Payload.SpellsIn, if_neg (hcounted hfield)]
  · rintro ⟨r, hfield, hr⟩
    obtain ⟨key, start, body, hkey, hp, hnumber, rfl⟩ := RecordsOf.singleton_iff.mp hr
    rw [← hnumber] at hfield
    rw [Payload.SpellsIn, if_neg (hcounted hfield)] at hp
    exact ⟨key, start, r.2, body, hkey, hp, hfield, rfl⟩

/-! ## Merging texts piece by piece -/

theorem mergeBytes_append (h : m.Spells depth records front) (back : Bytes) (x : σ) :
    m.mergeBytes depth x (front ++ back) =
      (records.foldlM (m.mergeRecord depth) x).bind fun y ↦ m.mergeBytes depth y back := by
  rw [mergeBytes, h.readRecords_append]
  cases hback : readRecords m.isCounted depth back with
  | none => simp [mergeBytes, hback]
  | some rest => simp [mergeBytes, hback, List.foldlM_append]

theorem mergeBytes_append_one {r : Record} (h : m.Spells depth [r] text) (back : Bytes) (x : σ) :
    m.mergeBytes depth x (text ++ back) =
      (m.mergeRecord depth x r).bind fun y ↦ m.mergeBytes depth y back := by
  rw [mergeBytes_append h, List.foldlM_cons]
  simp

theorem Undeclared.mergeBytes_append (h : m.Undeclared depth text) (back : Bytes) (x : σ) :
    m.mergeBytes depth x (text ++ back) = m.mergeBytes depth x back := by
  obtain ⟨r, hfield, hr⟩ := undeclared_iff.mp h
  rw [mergeBytes_append_one hr, mergeRecord, hfield, Option.bind_some]

/-! ## Observations -/

/-- Merging a record into structures that look alike leaves such. -/
def Respects (m : Message σ) (depth : Nat) (look : σ → ω) : Prop :=
  ∀ r x y, look x = look y →
    (m.mergeRecord depth x r).map look = (m.mergeRecord depth y r).map look

theorem respects_id (m : Message σ) (depth : Nat) : m.Respects depth id := by
  rintro r x y (rfl : x = y)
  rfl

/-- It is enough that every field leaves structures that look alike. -/
theorem respects_of_fields {look : σ → ω} (h : ∀ f ∈ m.fields, ∀ p x y, look x = look y →
    (f.merge depth x p).map look = (f.merge depth y p).map look) : m.Respects depth look := by
  intro r x y hlook
  cases hfield : m.field? r.1 with
  | none => simp [mergeRecord, hfield, hlook]
  | some f =>
    have hmem : f ∈ m.fields := List.mem_of_find?_eq_some hfield
    simpa [mergeRecord, hfield] using h f hmem r.2 x y hlook

namespace Respects

variable {look : σ → ω}

theorem foldlM (h : m.Respects depth look) (records : List Record) {x y : σ}
    (hlook : look x = look y) : (records.foldlM (m.mergeRecord depth) x).map look =
      (records.foldlM (m.mergeRecord depth) y).map look := by
  induction records generalizing x y with
  | nil => simp [hlook]
  | cons r records ih =>
    have hstep := h r x y hlook
    rw [List.foldlM_cons, List.foldlM_cons]
    cases hx : m.mergeRecord depth x r with
    | none =>
      rw [hx, Option.map_none, eq_comm, Option.map_eq_none_iff] at hstep
      rw [hstep]
    | some x' =>
      rw [hx, Option.map_some, eq_comm, Option.map_eq_some_iff] at hstep
      obtain ⟨y', hy, hlook'⟩ := hstep
      rw [hy]
      exact ih hlook'.symm

theorem mergeBytes (h : m.Respects depth look) (bytes : Bytes) {x y : σ}
    (hlook : look x = look y) : (m.mergeBytes depth x bytes).map look =
      (m.mergeBytes depth y bytes).map look := by
  unfold Message.mergeBytes
  cases readRecords m.isCounted depth bytes with
  | none => rfl
  | some records => exact h.foldlM records hlook

/-- What is merged after structures that look alike leaves such. -/
theorem bind_mergeBytes (h : m.Respects depth look) (back : Bytes) {o o' : Option σ}
    (hlook : o.map look = o'.map look) :
    (o.bind fun y ↦ m.mergeBytes depth y back).map look =
      (o'.bind fun y ↦ m.mergeBytes depth y back).map look := by
  cases o with
  | none =>
    rw [Option.map_none, eq_comm, Option.map_eq_none_iff] at hlook
    rw [hlook]
  | some x =>
    rw [Option.map_some, eq_comm, Option.map_eq_some_iff] at hlook
    obtain ⟨y, rfl, hlook⟩ := hlook
    exact h.mergeBytes back hlook.symm

end Respects

/-- One text is the other with the bytes of one field replaced, counted anew. -/
inductive Replaces (m : Message σ) (depth number : Nat) (inner : Bytes → Bytes → Prop) :
    Bytes → Bytes → Prop where
  | mk {records : List Record} {front text text' back body body' : Bytes}
    (hfront : m.Spells depth records front)
    (htext : m.Spells depth [(number, .bytes body)] text)
    (htext' : m.Spells depth [(number, .bytes body')] text') (h : inner body body') :
    Replaces m depth number inner (front ++ text ++ back) (front ++ text' ++ back)

/-- Texts merge alike if they differ by bytes that do. -/
theorem Replaces.map_mergeBytes {look : σ → ω} {number : Nat} {inner : Bytes → Bytes → Prop}
    {bytes bytes' : Bytes} (h : m.Replaces depth number inner bytes bytes')
    (hlook : m.Respects depth look)
    (hinner : ∀ body body', inner body body' → ∀ x,
      (m.mergeRecord depth x (number, .bytes body')).map look =
        (m.mergeRecord depth x (number, .bytes body)).map look) (x : σ) :
    (m.mergeBytes depth x bytes').map look = (m.mergeBytes depth x bytes).map look := by
  obtain ⟨hfront, htext, htext', h⟩ := h
  rw [List.append_assoc, List.append_assoc, mergeBytes_append hfront, mergeBytes_append hfront]
  cases List.foldlM (m.mergeRecord depth) x _ with
  | none => rfl
  | some y =>
    rw [Option.bind_some, Option.bind_some, mergeBytes_append_one htext,
      mergeBytes_append_one htext']
    exact hlook.bind_mergeBytes _ (hinner _ _ h y)

end Message

/-! ## Nested messages -/

theorem Codec.map_mergeNested {m : Message σ} {look : σ → ω} (h : ∀ d, m.Respects d look)
    (depth : Nat) (p : Payload) {x y : σ} (hlook : look x = look y) :
    (mergeNested m depth x p).map look = (mergeNested m depth y p).map look := by
  cases p with
  | bytes b =>
    cases depth with
    | zero => rfl
    | succ depth => exact (h depth).mergeBytes b hlook
  | varint | fixed64 | group | fixed32 => rfl

/-- The values of a codec hold messages of a type. -/
inductive Codec.Nests : ∀ {α μ : Type}, Codec α → Message μ → Prop where
  | optional {μ : Type} (m : Message μ) : Nests (.optional m) m
  | plain {μ : Type} (m : Message μ) : Nests (.plain m) m
  | messages {μ : Type} (m : Message μ) : Nests (.messages m) m
  | map {κ ν : Type} [Ord κ] [Std.TransOrd κ] [Std.LawfulEqOrd κ] (key : Codec κ)
    (value : Codec ν) : Nests (.map key value) (entry key value)

theorem Codec.Nests.merge_congr {c : Codec α} {inner : Message μ} (h : c.Nests inner) {depth : Nat}
    {body body' : Bytes}
    (hbody : ∀ x, inner.mergeBytes depth x body' = inner.mergeBytes depth x body) (a : α) :
    c.merge (depth + 1) a (.bytes body') = c.merge (depth + 1) a (.bytes body) := by
  cases h with
  | optional => exact congrArg (Option.map some) (hbody _)
  | plain => exact hbody a
  | messages => exact congrArg (Option.map fun x ↦ a ++ [x]) (hbody _)
  | map => exact congrArg (Option.map fun e ↦ a.insert e.1 e.2) (hbody _)

namespace Message

/-- The second text is the first with one more record of a field that is not declared, at the
boundary of any record of the message or of one nested in it. A reader has `depth` levels left. -/
inductive Inserts : (depth : Nat) → ∀ {σ : Type}, Message σ → Bytes → Bytes → Prop where
  /-- In the message itself. -/
  | here {depth : Nat} {σ : Type} {m : Message σ} {records : List Record}
    {front text back : Bytes} (hfront : m.Spells depth records front)
    (htext : m.Undeclared depth text) : Inserts depth m (front ++ back) (front ++ text ++ back)
  /-- In a message that a field holds. -/
  | nested {depth : Nat} {σ μ : Type} {m : Message σ} {inner : Message μ} {f : Field σ}
    {number : Nat} {records : List Record} {front text text' back body body' : Bytes}
    (hfield : m.field? number = some f) (hnests : f.codec.Nests inner)
    (hfront : m.Spells (depth + 1) records front)
    (htext : m.Spells (depth + 1) [(number, .bytes body)] text)
    (htext' : m.Spells (depth + 1) [(number, .bytes body')] text')
    (h : Inserts depth inner body body') :
    Inserts (depth + 1) m (front ++ text ++ back) (front ++ text' ++ back)

/-- **Records that are not declared are passed over**, on whatever level they are. -/
theorem Inserts.mergeBytes_eq {depth : Nat} {m : Message σ} {bytes bytes' : Bytes}
    (h : m.Inserts depth bytes bytes') (x : σ) :
    m.mergeBytes depth x bytes' = m.mergeBytes depth x bytes := by
  induction h with
  | here hfront htext =>
    rw [List.append_assoc, mergeBytes_append hfront, mergeBytes_append hfront]
    congr 1
    funext y
    exact htext.mergeBytes_append _ y
  | @nested depth σ μ m inner f number _ front text text' back _ _ hfield hnests hfront htext
      htext' _ ih =>
    have hreplaces : m.Replaces (depth + 1) number
        (fun body body' ↦ ∀ y, inner.mergeBytes depth y body' = inner.mergeBytes depth y body)
        (front ++ text ++ back) (front ++ text' ++ back) := .mk hfront htext htext' ih
    have hmap := hreplaces.map_mergeBytes (m.respects_id (depth + 1)) ?_ x
    · simpa using hmap
    · intro body body' hbody y
      simp only [mergeRecord, hfield, Field.merge, hnests.merge_congr hbody]

end Message

end MeshSurvey.Wire
