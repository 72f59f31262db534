import MeshSurvey.Proofs.Wire.Record

/-!
# The grammar of records

What a text of bytes says is stated here without a reader: a number is spelled by up to ten bytes, a
key by a number, a payload in the way its key announces, and records one after another. A number has
many spellings, and a group nests in others only so deep.

Each reader is then shown to take off the front of a text exactly what the grammar allows there, so
that a text of records can be taken apart at the boundary of any record. The readers are composed of
smaller ones as the grammar is of smaller parts.
-/

namespace MeshSurvey.Wire

variable {α β : Type}

/-! ## Readers and what they read -/

/-- The reader takes off the front of a text exactly what has a form. -/
def Reads (read : Bytes → Option (α × Bytes)) (form : α → Bytes → Prop) : Prop :=
  ∀ bytes x rest, read bytes = some (x, rest) ↔ ∃ text, form x text ∧ bytes = text ++ rest

namespace Reads

variable {read : Bytes → Option (α × Bytes)} {form : α → Bytes → Prop}

/-- A reader takes off what has the form if it takes that and nothing else. -/
theorem of_sound_of_complete
    (hsound : ∀ bytes x rest, read bytes = some (x, rest) →
      ∃ text, form x text ∧ bytes = text ++ rest)
    (hcomplete : ∀ x text rest, form x text → read (text ++ rest) = some (x, rest)) :
    Reads read form := by
  intro bytes x rest
  constructor
  · exact hsound bytes x rest
  · rintro ⟨text, hx, rfl⟩
    exact hcomplete x text rest hx

theorem read_append (h : Reads read form) {x : α} {text : Bytes} (hx : form x text)
    (rest : Bytes) : read (text ++ rest) = some (x, rest) :=
  (h _ _ _).mpr ⟨text, hx, rfl⟩

theorem unique (h : Reads read form) {x y : α} {front back front' back' : Bytes}
    (hx : form x front) (hy : form y front') (heq : front ++ back = front' ++ back') :
    x = y ∧ back = back' := by
  have hread : read (front ++ back) = some (y, back') := by
    rw [heq]
    exact h.read_append hy back'
  rw [h.read_append hx back] at hread
  exact Prod.ext_iff.mp (Option.some.inj hread)

theorem bind (h : Reads read form) {next : α → Bytes → Option (β × Bytes)}
    {form' : α → β → Bytes → Prop} (h' : ∀ x, Reads (next x) (form' x)) :
    Reads (fun bytes ↦ (read bytes).bind fun r ↦ next r.1 r.2) fun y text ↦
      ∃ x front back, form x front ∧ form' x y back ∧ text = front ++ back := by
  intro bytes y rest
  rw [Option.bind_eq_some_iff]
  constructor
  · rintro ⟨⟨x, middle⟩, hread, hnext⟩
    obtain ⟨front, hx, rfl⟩ := (h _ _ _).mp hread
    obtain ⟨back, hy, rfl⟩ := (h' x _ _ _).mp hnext
    exact ⟨front ++ back, ⟨x, front, back, hx, hy, rfl⟩, (List.append_assoc _ _ _).symm⟩
  · rintro ⟨text, ⟨x, front, back, hx, hy, rfl⟩, rfl⟩
    refine ⟨(x, back ++ rest), ?_, (h' x).read_append hy rest⟩
    rw [List.append_assoc]
    exact h.read_append hx _

theorem map (h : Reads read form) (f : α → β) :
    Reads (fun bytes ↦ (read bytes).map fun r ↦ (f r.1, r.2)) fun y text ↦
      ∃ x, form x text ∧ f x = y := by
  intro bytes y rest
  rw [Option.map_eq_some_iff]
  constructor
  · rintro ⟨⟨x, rest'⟩, hread, heq⟩
    obtain ⟨rfl, rfl⟩ := Prod.ext_iff.mp heq
    obtain ⟨text, hx, rfl⟩ := (h _ _ _).mp hread
    exact ⟨text, ⟨x, hx, rfl⟩, rfl⟩
  · rintro ⟨text, ⟨x, hx, rfl⟩, rfl⟩
    exact ⟨(x, rest), h.read_append hx rest, rfl⟩

theorem congr (h : Reads read form) {form' : α → Bytes → Prop}
    (hform : ∀ x text, form x text ↔ form' x text) : Reads read form' := by
  intro bytes x rest
  rw [h bytes x rest]
  exact exists_congr fun text ↦ and_congr_left' (hform x text)

end Reads

/-! ## Numbers -/

namespace Varint

/-- The text spells a number in at most `more + 1` bytes, the last of which then has one bit. -/
inductive Within : (more : Nat) → Nat → Bytes → Prop where
  /-- The last byte. -/
  | last {more : Nat} {b : UInt8} (hb : b < 128) (hbit : more = 0 → b < 2) :
    Within more b.toNat [b]
  /-- A byte with the lowest seven bits, and the bytes with the others. -/
  | more {more n : Nat} {b : UInt8} {text : Bytes} (hb : 128 ≤ b) (h : Within more n text) :
    Within (more + 1) (b.toNat - 128 + 128 * n) (b :: text)

/-- The text spells a number. -/
def Spells (n : UInt64) (text : Bytes) : Prop := Within 9 n.toNat text

theorem Within.ne_nil {more n : Nat} {text : Bytes} (h : Within more n text) : text ≠ [] := by
  cases h with
  | last => exact List.cons_ne_nil _ _
  | more => exact List.cons_ne_nil _ _

theorem limit_pos (more : Nat) : 0 < limit more := by
  induction more with
  | zero => decide
  | succ more ih => exact Nat.mul_pos (by decide) ih

theorem Within.lt_limit {more n : Nat} {text : Bytes} (h : Within more n text) :
    n < limit more := by
  induction h with
  | @last more b hb hbit =>
    rw [UInt8.lt_iff_toNat_lt] at hb
    cases more with
    | zero => exact UInt8.lt_iff_toNat_lt.mp (hbit rfl)
    | succ more =>
      have hpos := limit_pos more
      have hlt : b.toNat < 128 := hb
      rw [limit]
      omega
  | @more more n b text hb _ ih =>
    have hlt := b.toNat_lt
    rw [limit]
    omega

theorem Within.decodeWithin_append {more n : Nat} {text : Bytes} (h : Within more n text)
    (rest : Bytes) : decodeWithin more (text ++ rest) = some (n, rest) := by
  induction h with
  | @last more b hb hbit =>
    rw [List.singleton_append]
    cases more with
    | zero => rw [decodeWithin, if_pos (hbit rfl)]
    | succ more => rw [decodeWithin, if_pos hb]
  | more hb _ ih => rw [List.cons_append, decodeWithin, if_neg (UInt8.not_lt.mpr hb), ih,
      Option.map_some]

theorem exists_within_of_decodeWithin {more n : Nat} {bytes rest : Bytes}
    (h : decodeWithin more bytes = some (n, rest)) :
    ∃ text, Within more n text ∧ bytes = text ++ rest := by
  fun_induction decodeWithin more bytes generalizing n with
  | case1 => exact absurd h nofun
  | case2 b bytes hb =>
    obtain ⟨rfl, rfl⟩ := Prod.ext_iff.mp (Option.some.inj h)
    have hb' : b < 128 := UInt8.lt_trans hb (by decide)
    exact ⟨[b], .last hb' fun _ ↦ hb, rfl⟩
  | case3 => exact absurd h nofun
  | case4 more b bytes hb =>
    obtain ⟨rfl, rfl⟩ := Prod.ext_iff.mp (Option.some.inj h)
    exact ⟨[b], .last hb nofun, rfl⟩
  | case5 more b bytes hb ih =>
    obtain ⟨⟨m, rest'⟩, hread, heq⟩ := Option.map_eq_some_iff.mp h
    obtain ⟨rfl, rfl⟩ := Prod.ext_iff.mp heq
    obtain ⟨text, htext, rfl⟩ := ih hread
    exact ⟨b :: text, .more (UInt8.not_lt.mp hb) htext, rfl⟩

theorem reads_decodeWithin (more : Nat) : Reads (decodeWithin more) (Within more) :=
  .of_sound_of_complete (fun _ _ _ ↦ exists_within_of_decodeWithin)
    fun _ _ rest h ↦ h.decodeWithin_append rest

theorem reads_decode : Reads decode Spells := by
  refine ((reads_decodeWithin 9).map UInt64.ofNat).congr fun n text ↦ ?_
  constructor
  · rintro ⟨m, h, rfl⟩
    have hlt := h.lt_limit
    rw [limit_nine] at hlt
    rwa [Spells, UInt64.toNat_ofNat', Nat.mod_eq_of_lt hlt]
  · intro h
    exact ⟨n.toNat, h, UInt64.ofNat_toNat⟩

end Varint

/-! ## Keys -/

theorem Layout.code_of_ofCode? {code : Nat} {l : Layout} (h : ofCode? code = some l) :
    l.code = code := by
  unfold ofCode? at h
  split at h <;> cases h <;> rfl

namespace Key

/-- The text spells a key. -/
def Spells (key : Key) (text : Bytes) : Prop :=
  IsField key.field ∧ Varint.Spells (.ofNat (key.field * 8 + key.layout.code)) text

theorem Spells.ne_nil {key : Key} {text : Bytes} (h : key.Spells text) : text ≠ [] := h.2.ne_nil

theorem toNat_number {key : Key} (h : IsField key.field) :
    (UInt64.ofNat (key.field * 8 + key.layout.code)).toNat =
      key.field * 8 + key.layout.code := by
  obtain ⟨-, hlt⟩ := h
  have hcode := code_lt key.layout
  rw [UInt64.toNat_ofNat', Nat.mod_eq_of_lt]
  omega

theorem reads_decode : Reads decode Spells := by
  intro bytes key rest
  constructor
  · intro h
    obtain ⟨⟨n, rest'⟩, hn, hkey⟩ := Option.bind_eq_some_iff.mp h
    obtain ⟨layout, hlayout, hkey⟩ := Option.bind_eq_some_iff.mp hkey
    obtain ⟨text, htext, rfl⟩ := (Varint.reads_decode _ _ _).mp hn
    split at hkey
    next hsize =>
      obtain ⟨rfl, rfl⟩ := Prod.ext_iff.mp (Option.some.inj hkey)
      have hcode := Layout.code_of_ofCode? hlayout
      have hsize' : n.toNat < 4294967296 ∧ 8 ≤ n.toNat := hsize
      have hnumber : n.toNat / 8 * 8 + layout.code = n.toNat := by omega
      refine ⟨text, ⟨⟨?_, ?_⟩, ?_⟩, rfl⟩
      · exact (Nat.le_div_iff_mul_le (by decide)).mpr hsize'.2
      · exact Nat.div_lt_of_lt_mul hsize'.1
      · rwa [hnumber, UInt64.ofNat_toNat]
    next => exact absurd hkey nofun
  · rintro ⟨text, ⟨hfield, htext⟩, rfl⟩
    have hnumber := toNat_number hfield
    obtain ⟨hpos, hlt⟩ := hfield
    have hcode := code_lt key.layout
    have hmod : (key.field * 8 + key.layout.code) % 8 = key.layout.code := by omega
    have hdiv : (key.field * 8 + key.layout.code) / 8 = key.field := by omega
    have hsize : key.field * 8 + key.layout.code < UInt32.size ∧
        8 ≤ key.field * 8 + key.layout.code := by
      rw [UInt32.size]
      omega
    simp only [decode, Varint.reads_decode.read_append htext, Option.bind_eq_bind,
      Option.bind_some, hnumber, hmod, Layout.ofCode?_code, if_pos hsize, hdiv]
    rfl

end Key

/-! ## Payloads -/

theorem reads_cutBytes (count : Nat) :
    Reads (cutBytes count) fun x text ↦ x = text ∧ text.length = count := by
  intro bytes x rest
  rw [cutBytes]
  constructor
  · intro h
    split at h
    next hle =>
      obtain ⟨rfl, rfl⟩ := Prod.ext_iff.mp (Option.some.inj h)
      exact ⟨_, ⟨rfl, List.length_take_of_le hle⟩, (List.take_append_drop count bytes).symm⟩
    next => cases h
  · rintro ⟨text, ⟨rfl, rfl⟩, rfl⟩
    exact cutBytes_append x rest

/-- Records of which the payloads have a given form, one after another. -/
inductive RecordsOf (payload : Key → Payload → Bytes → Prop) : List Record → Bytes → Prop where
  | nil : RecordsOf payload [] []
  | cons {key : Key} {start text rest : Bytes} {p : Payload} {records : List Record}
    (hkey : key.Spells start) (hp : payload key p text) (hrest : RecordsOf payload records rest) :
    RecordsOf payload ((key.field, p) :: records) (start ++ text ++ rest)

namespace Payload

/-- The text spells counted bytes. -/
inductive Counted : Payload → Bytes → Prop where
  | mk {n : UInt64} {count body : Bytes} (hcount : Varint.Spells n count)
    (hbody : body.length = n.toNat) : Counted (.bytes body) (count ++ body)

/-- The text spells the payload that a key announces. The records of a group are those of the level
`below`. -/
inductive Form (below : Key → Payload → Bytes → Prop) : Key → Payload → Bytes → Prop where
  | varint {field : Nat} {n : UInt64} {text : Bytes} (h : Varint.Spells n text) :
    Form below ⟨field, .varint⟩ (.varint n) text
  | fixed64 {field : Nat} {text : Bytes} (h : text.length = 8) :
    Form below ⟨field, .fixed64⟩ (.fixed64 (.ofNat (ofLittleEndian text))) text
  | bytes {field : Nat} {p : Payload} {text : Bytes} (h : p.Counted text) :
    Form below ⟨field, .bytes⟩ p text
  | group {field : Nat} {records : List Record} {body close : Bytes}
    (hbody : RecordsOf below records body) (hclose : Key.Spells ⟨field, .groupEnd⟩ close) :
    Form below ⟨field, .groupStart⟩ (.group records) (body ++ close)
  | fixed32 {field : Nat} {text : Bytes} (h : text.length = 4) :
    Form below ⟨field, .fixed32⟩ (.fixed32 (.ofNat (ofLittleEndian text))) text

/-- The text spells the payload that a key announces, with groups that nest fewer than `depth`
deep. -/
def Spells : (depth : Nat) → Key → Payload → Bytes → Prop
  | 0, _, _, _ => False
  | depth + 1, key, p, text => Form (Spells depth) key p text

theorem Form.layout_ne {below : Key → Payload → Bytes → Prop} {key : Key} {p : Payload}
    {text : Bytes} (h : Form below key p text) : key.layout ≠ .groupEnd := by
  cases h <;> exact nofun

theorem Spells.layout_ne {depth : Nat} {key : Key} {p : Payload} {text : Bytes}
    (h : p.Spells depth key text) : key.layout ≠ .groupEnd := by
  cases depth with
  | zero => exact h.elim
  | succ depth => exact Form.layout_ne h

theorem countedBytes_eq : countedBytes = fun bytes ↦ (Varint.decode bytes).bind fun r ↦
    (cutBytes r.1.toNat r.2).map fun r ↦ (.bytes r.1, r.2) := by
  funext bytes
  simp only [countedBytes, Option.map_eq_bind]
  rfl

theorem reads_countedBytes : Reads countedBytes Counted := by
  have hread : Reads countedBytes fun p text ↦ ∃ (n : UInt64) (count back : Bytes),
      Varint.Spells n count ∧ (∃ body, (body = back ∧ back.length = n.toNat) ∧ .bytes body = p) ∧
        text = count ++ back :=
    countedBytes_eq ▸ Varint.reads_decode.bind fun n ↦ (reads_cutBytes n.toNat).map Payload.bytes
  refine hread.congr fun p text ↦ ?_
  constructor
  · rintro ⟨n, count, back, hcount, ⟨body, ⟨rfl, hbody⟩, rfl⟩, rfl⟩
    exact .mk hcount hbody
  · rintro ⟨hcount, hbody⟩
    exact ⟨_, _, _, hcount, ⟨_, ⟨rfl, hbody⟩, rfl⟩, rfl⟩

end Payload

/-! ## Groups -/

namespace RecordsOf

variable {payload : Key → Payload → Bytes → Prop} {records : List Record} {text : Bytes}

theorem length_le (h : RecordsOf payload records text) : records.length ≤ text.length := by
  induction h with
  | nil => exact Nat.le_refl 0
  | cons hkey _ _ ih =>
    have hpos := List.length_pos_iff.mpr hkey.ne_nil
    rw [List.length_cons, List.length_append, List.length_append]
    omega

end RecordsOf

section

variable {read : Key → Bytes → Option (Payload × Bytes)} {form : Key → Payload → Bytes → Prop}

theorem groupBody_append (hread : ∀ key, Reads (read key) (form key))
    (hlayout : ∀ key p text, form key p text → key.layout ≠ .groupEnd) {field : Nat}
    {records : List Record} {body close : Bytes} (hbody : RecordsOf form records body)
    (hclose : Key.Spells ⟨field, .groupEnd⟩ close) {bound : Nat} (hbound : records.length < bound)
    (rest : Bytes) : groupBody read field bound (body ++ close ++ rest) = some (records, rest) := by
  induction hbody generalizing bound with
  | nil =>
    obtain ⟨bound, rfl⟩ : ∃ b, bound = b + 1 := ⟨bound - 1, by omega⟩
    rw [List.nil_append, groupBody, Key.reads_decode.read_append hclose]
    simp only [Option.bind_eq_bind, Option.bind_some, if_pos]
    rfl
  | @cons key start text body p records hkey hp _ ih =>
    obtain ⟨bound, rfl⟩ : ∃ b, bound = b + 1 := ⟨bound - 1, by omega⟩
    have hrest := ih (Nat.lt_of_succ_lt_succ hbound)
    rw [List.append_assoc] at hrest
    rw [groupBody, List.append_assoc, List.append_assoc, List.append_assoc,
      Key.reads_decode.read_append hkey]
    simp only [Option.bind_eq_bind, Option.bind_some, if_neg (hlayout key p text hp),
      (hread key).read_append hp, hrest]
    rfl

theorem exists_of_groupBody (hread : ∀ key, Reads (read key) (form key)) {field bound : Nat}
    {bytes rest : Bytes} {records : List Record}
    (h : groupBody read field bound bytes = some (records, rest)) :
    ∃ body close, RecordsOf form records body ∧ Key.Spells ⟨field, .groupEnd⟩ close ∧
      bytes = body ++ close ++ rest := by
  induction bound generalizing bytes records with
  | zero => exact absurd h nofun
  | succ bound ih =>
    obtain ⟨⟨key, bytes'⟩, hkey, hrest⟩ := Option.bind_eq_some_iff.mp h
    obtain ⟨start, hstart, rfl⟩ := (Key.reads_decode _ _ _).mp hkey
    dsimp only at hrest
    split at hrest
    next hend =>
      split at hrest
      next hfield =>
        obtain ⟨rfl, rfl⟩ := Prod.ext_iff.mp (Option.some.inj hrest)
        refine ⟨[], start, .nil, ?_, rfl⟩
        rwa [← hfield, ← hend]
      next => exact absurd hrest nofun
    next =>
      obtain ⟨⟨p, bytes''⟩, hp, hothers⟩ := Option.bind_eq_some_iff.mp hrest
      obtain ⟨text, htext, rfl⟩ := (hread key _ _ _).mp hp
      obtain ⟨⟨records', rest'⟩, hrecords, heq⟩ := Option.bind_eq_some_iff.mp hothers
      obtain ⟨rfl, rfl⟩ := Prod.mk.inj (Option.some.inj heq)
      obtain ⟨body, close, hbody, hclose, rfl⟩ := ih hrecords
      exact ⟨start ++ text ++ body, close, .cons hstart htext hbody, hclose, by simp⟩

end

namespace Payload

/-- A group is read up to the key that closes it. -/
theorem reads_groupBody {depth : Nat} (ih : ∀ key, Reads (readPayload depth key) (Spells depth key))
    (field : Nat) :
    Reads (fun bytes ↦ groupBody (readPayload depth) field bytes.length bytes)
      fun records text ↦ ∃ body close, RecordsOf (Spells depth) records body ∧
        Key.Spells ⟨field, .groupEnd⟩ close ∧ text = body ++ close := by
  refine .of_sound_of_complete ?_ ?_
  · intro bytes records rest h
    obtain ⟨body, close, hbody, hclose, rfl⟩ := exists_of_groupBody ih h
    exact ⟨body ++ close, ⟨body, close, hbody, hclose, rfl⟩, rfl⟩
  · rintro records _ rest ⟨body, close, hbody, hclose, rfl⟩
    -- every record takes a byte, and so does the closing key
    have hlength := hbody.length_le
    have hpos := List.length_pos_iff.mpr hclose.ne_nil
    refine groupBody_append ih (fun _ _ _ h ↦ Spells.layout_ne h) hbody hclose ?_ rest
    rw [List.length_append, List.length_append]
    omega

theorem reads_readPayload (depth : Nat) (key : Key) :
    Reads (readPayload depth key) (Spells depth key) := by
  induction depth generalizing key with
  | zero =>
    intro bytes p rest
    constructor
    · exact nofun
    · rintro ⟨_, h, -⟩
      exact h.elim
  | succ depth ih =>
    obtain ⟨field, layout⟩ := key
    cases layout with
    | varint =>
      refine (Varint.reads_decode.map Payload.varint).congr fun p text ↦ ⟨?_, ?_⟩
      · rintro ⟨n, hn, rfl⟩
        exact .varint hn
      · rintro (h : Form _ _ _ _)
        cases h with
        | varint hn => exact ⟨_, hn, rfl⟩
    | fixed64 =>
      refine ((reads_cutBytes 8).map fun b ↦ Payload.fixed64 (.ofNat (ofLittleEndian b))).congr
        fun p text ↦ ⟨?_, ?_⟩
      · rintro ⟨n, ⟨rfl, hn⟩, rfl⟩
        exact .fixed64 hn
      · rintro (h : Form _ _ _ _)
        cases h with
        | fixed64 hn => exact ⟨_, ⟨rfl, hn⟩, rfl⟩
    | bytes =>
      refine reads_countedBytes.congr fun p text ↦ ⟨.bytes, ?_⟩
      rintro (h : Form _ _ _ _)
      cases h with
      | bytes hn => exact hn
    | groupStart =>
      refine ((reads_groupBody ih field).map Payload.group).congr fun p text ↦ ⟨?_, ?_⟩
      · rintro ⟨records, ⟨body, close, hbody, hclose, rfl⟩, rfl⟩
        exact .group hbody hclose
      · rintro (h : Form _ _ _ _)
        cases h with
        | group hbody hclose => exact ⟨_, ⟨_, _, hbody, hclose, rfl⟩, rfl⟩
    | groupEnd =>
      intro bytes p rest
      constructor
      · exact nofun
      · rintro ⟨_, h, -⟩
        exact absurd rfl (Form.layout_ne h)
    | fixed32 =>
      refine ((reads_cutBytes 4).map fun b ↦ Payload.fixed32 (.ofNat (ofLittleEndian b))).congr
        fun p text ↦ ⟨?_, ?_⟩
      · rintro ⟨n, ⟨rfl, hn⟩, rfl⟩
        exact .fixed32 hn
      · rintro (h : Form _ _ _ _)
        cases h with
        | fixed32 hn => exact ⟨_, ⟨rfl, hn⟩, rfl⟩

end Payload

/-! ## Records -/

/-- The text spells the payload of a record in a message, of which the `counted` fields have counted
bytes whatever their keys say. -/
def Payload.SpellsIn (counted : Nat → Bool) (depth : Nat) (key : Key) (p : Payload)
    (text : Bytes) : Prop :=
  if counted key.field then p.Counted text else p.Spells depth key text

/-- The text spells the records of a message. -/
abbrev SpellsRecords (counted : Nat → Bool) (depth : Nat) : List Record → Bytes → Prop :=
  RecordsOf (Payload.SpellsIn counted depth)

section

variable {counted : Nat → Bool} {depth : Nat}

theorem RecordsOf.singleton_iff {payload : Key → Payload → Bytes → Prop} {r : Record}
    {text : Bytes} : RecordsOf payload [r] text ↔
      ∃ key start body, key.Spells start ∧ payload key r.2 body ∧ key.field = r.1 ∧
        text = start ++ body := by
  constructor
  · rintro (_ | ⟨hkey, hp, _ | _⟩)
    exact ⟨_, _, _, hkey, hp, rfl, List.append_nil _⟩
  · rintro ⟨key, start, body, hkey, hp, hfield, rfl⟩
    obtain ⟨number, p⟩ := r
    obtain rfl : key.field = number := hfield
    rw [← List.append_nil (start ++ body)]
    exact .cons hkey hp .nil

theorem readRecord_eq (counted : Nat → Bool) (depth : Nat) : readRecord counted depth =
    fun bytes ↦ (Key.decode bytes).bind fun r ↦
      (if counted r.1.field then countedBytes r.2 else readPayload depth r.1 r.2).map fun q ↦
        ((r.1.field, q.1), q.2) := by
  funext bytes
  rw [readRecord, Option.bind_eq_bind]
  congr 1
  funext r
  obtain ⟨key, rest⟩ := r
  rw [Option.map_eq_bind]
  by_cases hkey : counted key.field = true
  · simp only [if_pos hkey]
    rfl
  · simp only [if_neg hkey]
    rfl

theorem reads_readRecord (counted : Nat → Bool) (depth : Nat) :
    Reads (readRecord counted depth) fun r ↦ SpellsRecords counted depth [r] := by
  have hpayload (key : Key) : Reads
      (fun bytes ↦ if counted key.field then countedBytes bytes else readPayload depth key bytes)
      fun p text ↦ Payload.SpellsIn counted depth key p text := by
    intro bytes p rest
    unfold Payload.SpellsIn
    split
    next => exact Payload.reads_countedBytes bytes p rest
    next => exact Payload.reads_readPayload depth key bytes p rest
  have hrecord : Reads (readRecord counted depth) fun r text ↦ ∃ (key : Key) (start body : Bytes),
      key.Spells start ∧ (∃ p, Payload.SpellsIn counted depth key p body ∧ (key.field, p) = r) ∧
        text = start ++ body := by
    rw [readRecord_eq]
    exact Key.reads_decode.bind fun key ↦ (hpayload key).map (key.field, ·)
  refine hrecord.congr fun r text ↦ Iff.trans ?_ RecordsOf.singleton_iff.symm
  constructor
  · rintro ⟨key, start, body, hkey, ⟨p, hp, rfl⟩, rfl⟩
    exact ⟨key, start, body, hkey, hp, rfl, rfl⟩
  · rintro ⟨key, start, body, hkey, hp, hfield, rfl⟩
    exact ⟨key, start, body, hkey, ⟨_, hp, Prod.ext hfield rfl⟩, rfl⟩

namespace SpellsRecords

variable {records : List Record} {r : Record} {text : Bytes}

theorem cons_iff : SpellsRecords counted depth (r :: records) text ↔
    ∃ front back, SpellsRecords counted depth [r] front ∧
      SpellsRecords counted depth records back ∧ text = front ++ back := by
  constructor
  · rintro (_ | ⟨hkey, hp, hrest⟩)
    exact ⟨_, _, RecordsOf.singleton_iff.mpr ⟨_, _, _, hkey, hp, rfl, rfl⟩, hrest, rfl⟩
  · rintro ⟨front, back, hr, hrecords, rfl⟩
    obtain ⟨key, start, body, hkey, hp, hfield, rfl⟩ := RecordsOf.singleton_iff.mp hr
    obtain ⟨number, p⟩ := r
    obtain rfl : key.field = number := hfield
    exact .cons hkey hp hrecords

theorem ne_nil (h : SpellsRecords counted depth [r] text) : text ≠ [] := by
  obtain ⟨key, start, body, hkey, -, -, rfl⟩ := RecordsOf.singleton_iff.mp h
  exact List.append_ne_nil_of_left_ne_nil hkey.ne_nil body

theorem readRecordsWithin (h : SpellsRecords counted depth records text) {bound : Nat}
    (hbound : records.length ≤ bound) :
    Wire.readRecordsWithin counted depth bound text = some records := by
  induction records generalizing text bound with
  | nil =>
    cases h
    rw [Wire.readRecordsWithin]
  | cons r records ih =>
    obtain ⟨bound, rfl⟩ : ∃ b, bound = b + 1 := by
      rw [List.length_cons] at hbound
      exact ⟨bound - 1, by omega⟩
    obtain ⟨front, back, hr, hrecords, rfl⟩ := cons_iff.mp h
    obtain ⟨b, bytes, hcons⟩ := List.exists_cons_of_ne_nil
      (List.append_ne_nil_of_left_ne_nil (ne_nil hr) back)
    rw [hcons, Wire.readRecordsWithin, ← hcons, (reads_readRecord counted depth).read_append hr]
    simp only [Option.bind_eq_bind, Option.bind_some, ih hrecords (Nat.le_of_succ_le_succ hbound)]
    rfl

end SpellsRecords

theorem spellsRecords_of_readRecordsWithin {bound : Nat} {bytes : Bytes} {records : List Record}
    (h : readRecordsWithin counted depth bound bytes = some records) :
    SpellsRecords counted depth records bytes := by
  fun_induction readRecordsWithin counted depth bound bytes generalizing records with
  | case1 =>
    obtain rfl := Option.some.inj h
    exact .nil
  | case2 => exact absurd h nofun
  | case3 bound b bytes ih =>
    obtain ⟨⟨r, rest⟩, hr, hrest⟩ := Option.bind_eq_some_iff.mp h
    obtain ⟨records', hrecords, hrest⟩ := Option.bind_eq_some_iff.mp hrest
    obtain rfl := Option.some.inj hrest
    obtain ⟨front, hfront, hcons⟩ := (reads_readRecord counted depth _ _ _).mp hr
    exact SpellsRecords.cons_iff.mpr ⟨front, rest, hfront, ih rest hrecords, hcons⟩

/-- **The readers follow the grammar.** A text is read as the records that it spells. -/
theorem readRecords_eq_some_iff {bytes : Bytes} {records : List Record} :
    readRecords counted depth bytes = some records ↔
      SpellsRecords counted depth records bytes := by
  constructor
  · exact spellsRecords_of_readRecordsWithin
  · intro h
    exact h.readRecordsWithin h.length_le

/-- A text is read record by record. -/
theorem SpellsRecords.readRecords_cons {r : Record} {front : Bytes}
    (h : SpellsRecords counted depth [r] front) (back : Bytes) :
    readRecords counted depth (front ++ back) =
      (readRecords counted depth back).map (r :: ·) := by
  ext records
  rw [Option.map_eq_some_iff, readRecords_eq_some_iff]
  constructor
  · intro hrecords
    cases records with
    | nil =>
      generalize htext : front ++ back = text at hrecords
      cases hrecords
      exact absurd (List.append_eq_nil_iff.mp htext).1 (ne_nil h)
    | cons r' records =>
      -- no other record begins the text, so it is cut behind the same bytes
      obtain ⟨front', back', hr', hback, heq⟩ := cons_iff.mp hrecords
      obtain ⟨rfl, rfl⟩ := (reads_readRecord counted depth).unique h hr' heq
      exact ⟨records, readRecords_eq_some_iff.mpr hback, rfl⟩
  · rintro ⟨records, hrecords, rfl⟩
    exact cons_iff.mpr ⟨front, back, h, readRecords_eq_some_iff.mp hrecords, rfl⟩

theorem SpellsRecords.readRecords_append {records : List Record} {front : Bytes}
    (h : SpellsRecords counted depth records front) (back : Bytes) :
    readRecords counted depth (front ++ back) =
      (readRecords counted depth back).map (records ++ ·) := by
  induction records generalizing front with
  | nil =>
    cases h
    simp only [List.nil_append, Option.map_id']
  | cons r records ih =>
    obtain ⟨first, rest, hr, hrecords, rfl⟩ := cons_iff.mp h
    rw [List.append_assoc, hr.readRecords_cons, ih hrecords, Option.map_map]
    rfl

end

end MeshSurvey.Wire
