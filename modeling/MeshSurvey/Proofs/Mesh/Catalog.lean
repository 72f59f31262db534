import MeshSurvey.Mesh.Catalog
import MeshSurvey.Proofs.Collect
import MeshSurvey.Proofs.Text.Split

/-!
# Objects are read as what they name

A JSON object names a version of the API and a kind. The version belongs to a group, and the group
and the kind together decide as what the object is read: as one of the registered kind they belong
to, or, if there is none, as an object of an unknown kind. An object that names a registered kind
and is none is not read at all.

So all that counts of the registered kinds is which they are. And all that counts of the version is
its group, as long as the reader of the kind does not look at it. Only that of namespaces does.
-/

namespace MeshSurvey

/-! ## What is named -/

/-- A value names a version of the API and a kind. -/
structure Json.Names (v : Json) (apiVersion kind : String) : Prop where
  member?_apiVersion : v.member? "apiVersion" = some (.string apiVersion)
  member?_kind : v.member? "kind" = some (.string kind)

/-- A version of the API belongs to a group. -/
inductive IsGroupOf (group apiVersion : String) : Prop where
  /-- The version has no group. -/
  | core (hgroup : group = "") (h : '/' ∉ apiVersion.toList)
  /-- The group stands before the last slash. -/
  | named {version : String} (heq : apiVersion = group ++ "/" ++ version)
    (h : '/' ∉ version.toList)

theorem Kind.eq_of_name_eq {k k' : Kind} : k.name = k'.name → k = k' := by
  cases k <;> cases k' <;> decide

namespace Catalog

variable {c : Catalog} {k : Kind} {group apiVersion kind : String}

theorem groupOf_eq_iff : groupOf apiVersion = group ↔ IsGroupOf group apiVersion := by
  constructor
  · rintro rfl
    rw [groupOf]
    split
    next front back hcut =>
      obtain ⟨hcs, hback⟩ := Text.cutLast_eq_some_iff.mp hcut
      have heq : apiVersion = String.ofList front ++ "/" ++ String.ofList back := by
        refine String.toList_injective ?_
        rw [hcs, Text.toList_append_slash, String.toList_ofList, String.toList_ofList]
      exact .named heq (by simpa using hback)
    next hcut => exact .core rfl (Text.cutLast_eq_none_iff.mp hcut)
  · rintro (⟨rfl, h⟩ | ⟨rfl, h⟩)
    · rw [groupOf, Text.cutLast_eq_none_iff.mpr h]
    · rw [groupOf, Text.toList_append_slash, Text.cutLast_append_cons _ h]
      exact String.ofList_toList

/-! ## Looking a kind up -/

theorem kinds_foldl_register (registered : List Kind) :
    (registered.foldl register c).kinds = c.kinds ++ registered := by
  induction registered generalizing c with
  | nil => exact (List.append_nil _).symm
  | cons k registered ih =>
    rw [List.foldl_cons, ih, register, List.append_assoc, List.singleton_append]

theorem byGroupKind_eq_some_iff : c.byGroupKind group kind = some k ↔
    k ∈ c.kinds ∧ k.gvk.group = group ∧ k.name = kind := by
  have hfits {k : Kind} (h : c.byGroupKind group kind = some k) :
      k.gvk.group = group ∧ k.name = kind := by
    have hfound := List.find?_some h
    exact of_decide_eq_true hfound
  constructor
  · intro h
    exact ⟨List.mem_of_find?_eq_some h, hfits h⟩
  · rintro ⟨hk, hgroup, hkind⟩
    have hsome : (c.byGroupKind group kind).isSome = true :=
      List.find?_isSome.mpr ⟨k, hk, decide_eq_true ⟨hgroup, hkind⟩⟩
    obtain ⟨k', hk'⟩ := Option.isSome_iff_exists.mp hsome
    -- whichever is found has the name, and only one kind does
    rw [hk', Kind.eq_of_name_eq ((hfits hk').2.trans hkind.symm)]

theorem byGroupKind_eq_none_iff : c.byGroupKind group kind = none ↔
    ∀ k ∈ c.kinds, k.gvk.group = group → k.name ≠ kind := by
  rw [Option.eq_none_iff_forall_ne_some]
  simp only [ne_eq, byGroupKind_eq_some_iff, not_and]

/-! ## Reading -/

/-- What a value is read as when some kinds are registered. -/
inductive ReadsAs (registered : List Kind) (v : Json) : Except Failure MeshObject → Prop where
  /-- It does not name a version and a kind. -/
  | nameless (h : ∀ apiVersion kind, ¬ v.Names apiVersion kind) :
    ReadsAs registered v (.error (.protocol "object without apiVersion/kind"))
  /-- It is of the registered kind that it names. -/
  | known {apiVersion : String} {k : Kind} {o : MeshObject} (hk : k ∈ registered)
    (hnames : v.Names apiVersion k.name) (hgroup : IsGroupOf k.gvk.group apiVersion)
    (hread : k.ofJson v = .ok o) : ReadsAs registered v (.ok o)
  /-- It is not of the registered kind that it names. -/
  | mismatched {apiVersion : String} {k : Kind} {e : Mismatch} (hk : k ∈ registered)
    (hnames : v.Names apiVersion k.name) (hgroup : IsGroupOf k.gvk.group apiVersion)
    (hread : k.ofJson v = .error e) : ReadsAs registered v (.error (.json k.typeUrl e))
  /-- It names no registered kind, and is an object. -/
  | unknown {apiVersion kind : String} {o : Dynamic} (hnames : v.Names apiVersion kind)
    (hnone : ∀ k ∈ registered, IsGroupOf k.gvk.group apiVersion → k.name ≠ kind)
    (hread : Dynamic.ofJson apiVersion kind v = .ok o) :
    ReadsAs registered v (.ok (.unrecognized o))
  /-- It names no registered kind, and is no object either. -/
  | malformed {apiVersion kind : String} {e : Mismatch} (hnames : v.Names apiVersion kind)
    (hnone : ∀ k ∈ registered, IsGroupOf k.gvk.group apiVersion → k.name ≠ kind)
    (hread : Dynamic.ofJson apiVersion kind v = .error e) :
    ReadsAs registered v (.error (.json (apiVersion ++ "/" ++ kind) e))

variable {v : Json}

theorem decodeJson_of_nameless (h : ∀ apiVersion kind, ¬ v.Names apiVersion kind) :
    c.decodeJson v = .error (.protocol "object without apiVersion/kind") := by
  rw [decodeJson]
  split
  next apiVersion kind hversion hkind =>
    obtain ⟨_, hversion, htext⟩ := Option.bind_eq_some_iff.mp hversion
    obtain ⟨_, hkind, htext'⟩ := Option.bind_eq_some_iff.mp hkind
    rw [Json.string?_eq_some_iff.mp htext] at hversion
    rw [Json.string?_eq_some_iff.mp htext'] at hkind
    exact absurd ⟨hversion, hkind⟩ (h apiVersion kind)
  next => rfl

theorem decodeJson_of_names (h : v.Names apiVersion kind) : c.decodeJson v =
    match c.byGroupKind (groupOf apiVersion) kind with
    | some k => (k.ofJson v).mapError (.json k.typeUrl)
    | none => ((Dynamic.ofJson apiVersion kind v).map .unrecognized).mapError
        (.json (apiVersion ++ "/" ++ kind)) := by
  rw [decodeJson, h.member?_apiVersion, h.member?_kind]
  rfl

theorem decodeJson_of_mem (hk : k ∈ c.kinds) (hnames : v.Names apiVersion k.name)
    (hgroup : IsGroupOf k.gvk.group apiVersion) :
    c.decodeJson v = (k.ofJson v).mapError (.json k.typeUrl) := by
  rw [decodeJson_of_names hnames,
    byGroupKind_eq_some_iff.mpr ⟨hk, (groupOf_eq_iff.mpr hgroup).symm, rfl⟩]

theorem decodeJson_of_notMem (hnames : v.Names apiVersion kind)
    (hnone : ∀ k ∈ c.kinds, IsGroupOf k.gvk.group apiVersion → k.name ≠ kind) :
    c.decodeJson v = ((Dynamic.ofJson apiVersion kind v).map .unrecognized).mapError
      (.json (apiVersion ++ "/" ++ kind)) := by
  rw [decodeJson_of_names hnames, byGroupKind_eq_none_iff.mpr]
  exact fun k hk hgroup ↦ hnone k hk (groupOf_eq_iff.mp hgroup.symm)

/-- What a value is read as is told by what it names and which kinds are registered. -/
theorem decodeJson_eq_iff {r : Except Failure MeshObject} :
    c.decodeJson v = r ↔ ReadsAs c.kinds v r := by
  constructor
  · rintro rfl
    by_cases h : ∃ apiVersion kind, v.Names apiVersion kind
    · obtain ⟨apiVersion, kind, hnames⟩ := h
      cases hfound : c.byGroupKind (groupOf apiVersion) kind with
      | some k =>
        obtain ⟨hk, hgroup, rfl⟩ := byGroupKind_eq_some_iff.mp hfound
        rw [eq_comm, groupOf_eq_iff] at hgroup
        rw [decodeJson_of_mem hk hnames hgroup]
        cases hread : k.ofJson v with
        | ok o => exact .known hk hnames hgroup hread
        | error e => exact .mismatched hk hnames hgroup hread
      | none =>
        have hnone : ∀ k ∈ c.kinds, IsGroupOf k.gvk.group apiVersion → k.name ≠ kind :=
          fun k hk hgroup ↦ byGroupKind_eq_none_iff.mp hfound k hk (groupOf_eq_iff.mpr hgroup).symm
        rw [decodeJson_of_notMem hnames hnone]
        cases hread : Dynamic.ofJson apiVersion kind v with
        | ok o => exact .unknown hnames hnone hread
        | error e => exact .malformed hnames hnone hread
    · simp only [not_exists] at h
      rw [decodeJson_of_nameless h]
      exact .nameless h
  · intro h
    cases h with
    | nameless h => exact decodeJson_of_nameless h
    | known hk hnames hgroup hread =>
      rw [decodeJson_of_mem hk hnames hgroup, hread]
      rfl
    | mismatched hk hnames hgroup hread =>
      rw [decodeJson_of_mem hk hnames hgroup, hread]
      rfl
    | unknown hnames hnone hread =>
      rw [decodeJson_of_notMem hnames hnone, hread]
      rfl
    | malformed hnames hnone hread =>
      rw [decodeJson_of_notMem hnames hnone, hread]
      rfl

theorem decodeJson_congr {c' : Catalog} (h : ∀ k, k ∈ c'.kinds ↔ k ∈ c.kinds) (v : Json) :
    c'.decodeJson v = c.decodeJson v := by
  rw [decodeJson_eq_iff]
  have hreads := decodeJson_eq_iff.mp (rfl : c.decodeJson v = c.decodeJson v)
  generalize c.decodeJson v = r at hreads
  cases hreads with
  | nameless h' => exact .nameless h'
  | known hk hnames hgroup hread => exact .known ((h _).mpr hk) hnames hgroup hread
  | mismatched hk hnames hgroup hread => exact .mismatched ((h _).mpr hk) hnames hgroup hread
  | unknown hnames hnone hread =>
    exact .unknown hnames (fun k hk ↦ hnone k ((h k).mp hk)) hread
  | malformed hnames hnone hread =>
    exact .malformed hnames (fun k hk ↦ hnone k ((h k).mp hk)) hread

end Catalog

/-! ## The version of an object -/

theorem Kind.isGroupOf_apiVersion (k : Kind) : IsGroupOf k.gvk.group k.apiVersion :=
  Catalog.groupOf_eq_iff.mp (by cases k <;> rfl)

/-- The value with another value in its members of one name. -/
def Json.replaceMember (v : Json) (name : String) (w : Json) : Json :=
  match v with
  | .object members => .object (members.map fun m ↦ if m.1 = name then (name, w) else m)
  | v => v

theorem Json.member?_replaceMember (v : Json) (name : String) (w : Json) (name' : String) :
    (v.replaceMember name w).member? name' =
      (v.member? name').map fun x ↦ if name' = name then w else x := by
  cases v with
  | object members =>
    simp only [replaceMember, member?, List.find?_map, Option.map_map]
    have hname : ((fun m : String × Json ↦ decide (m.1 = name')) ∘
        fun m ↦ if m.1 = name then (name, w) else m) = fun m ↦ decide (m.1 = name') := by
      funext m
      by_cases hm : m.1 = name <;> simp [hm]
    rw [hname]
    refine Option.map_congr fun m hm ↦ ?_
    have hfound := List.find?_some hm
    obtain rfl : m.1 = name' := of_decide_eq_true hfound
    simp only [Function.comp_apply]
    split <;> rfl
  | _ => rfl

/-- The reader of a kind besides namespaces looks only at the metadata and the specification. -/
theorem Custom.ofJson_replaceMember {σ : Type} (spec : Json.Codec σ) {name : String}
    (hmetadata : name ≠ "metadata") (hspec : name ≠ "spec") (w v : Json) :
    ofJson spec (v.replaceMember name w) = ofJson spec v := by
  cases v with
  | object members =>
    change readMembers spec (members.map _) none none = readMembers spec members none none
    generalize (none : Option Kubernetes.ObjectMeta) = m?
    generalize (none : Option σ) = s?
    induction members generalizing m? s? with
    | nil => rfl
    | cons m members ih =>
      rw [List.map_cons]
      by_cases hm : m.1 = name
      · rw [if_pos hm]
        simp only [readMembers, hm, hmetadata, hspec, if_false, ih]
      · rw [if_neg hm]
        simp only [readMembers, ih]
  | _ => rfl

theorem Kind.ofJson_replaceMember {k : Kind} (hk : k ≠ .namespaces) {name : String}
    (hmetadata : name ≠ "metadata") (hspec : name ≠ "spec") (w v : Json) :
    k.ofJson (v.replaceMember name w) = k.ofJson v := by
  cases k with
  | namespaces => exact absurd rfl hk
  | _ => simp only [ofJson, Custom.ofJson_replaceMember _ hmetadata hspec]

theorem Json.Names.replaceMember {v : Json} {apiVersion kind : String}
    (h : v.Names apiVersion kind) (other : String) :
    (v.replaceMember "apiVersion" (.string other)).Names other kind where
  member?_apiVersion := by
    rw [Json.member?_replaceMember, h.member?_apiVersion, Option.map_some, if_pos rfl]
  member?_kind := by
    rw [Json.member?_replaceMember, h.member?_kind, Option.map_some, if_neg (by decide)]

/-- A namespace has to name the version of the core API. -/
theorem Kind.apiVersion_of_ofJson_namespaces {v : Json} {o : MeshObject} {apiVersion : String}
    (hversion : v.member? "apiVersion" = some (.string apiVersion))
    (h : namespaces.ofJson v = .ok o) : apiVersion = "v1" := by
  cases v with
  | object members =>
    obtain ⟨⟨_, _⟩, hfind, rfl⟩ := Option.map_eq_some_iff.mp hversion
    have hname := List.find?_some hfind
    obtain rfl := of_decide_eq_true hname
    cases hread : Kubernetes.Namespace.codec.read (.object members) with
    | error e =>
      rw [ofJson, hread] at h
      cases h
    | ok n =>
      obtain ⟨x, y, hconstant⟩ := exists_step_of_foldlM (List.mem_of_find?_eq_some hfind) hread
      change (if (Json.string apiVersion).string? = some "v1" then _ else _) = _ at hconstant
      split at hconstant
      next hv1 => exact Option.some.inj hv1
      next => cases hconstant
  | _ => cases hversion

theorem Kind.kind?_of_ofJson {k : Kind} {v : Json} {o : MeshObject} (h : k.ofJson v = .ok o) :
    o.kind? = some k := by
  cases k <;> obtain ⟨_, _, rfl⟩ := map_eq_ok_iff.mp h <;> rfl

/-! ## Whatever is registered -/

namespace Catalog

variable {c : Catalog} {k : Kind} {v : Json} {apiVersion version other : String}

theorem decodeJson_eq_protocol_iff : (∃ text, c.decodeJson v = .error (.protocol text)) ↔
    ∀ apiVersion kind, ¬ v.Names apiVersion kind := by
  constructor
  · rintro ⟨text, h⟩
    cases decodeJson_eq_iff.mp h with
    | nameless hnameless => exact hnameless
  · intro h
    exact ⟨_, decodeJson_of_nameless h⟩

theorem decodeJson_kind (hk : k ∈ c.kinds) (hnames : v.Names apiVersion k.name)
    (hgroup : IsGroupOf k.gvk.group apiVersion) :
    (∃ o, c.decodeJson v = .ok o ∧ o.kind? = some k) ∨
      ∃ e, c.decodeJson v = .error (.json k.typeUrl e) := by
  rw [decodeJson_of_mem hk hnames hgroup]
  cases hread : k.ofJson v with
  | ok o => exact .inl ⟨o, rfl, Kind.kind?_of_ofJson hread⟩
  | error e => exact .inr ⟨e, rfl⟩

/-- Apart from namespaces, one version of the group is as good as another. -/
theorem decodeJson_replaceMember (hk : k ∈ c.kinds) (hne : k ≠ .namespaces)
    (hversion : '/' ∉ version.toList) (hother : '/' ∉ other.toList)
    (hnames : v.Names (k.gvk.group ++ "/" ++ version) k.name) :
    c.decodeJson (v.replaceMember "apiVersion" (.string (k.gvk.group ++ "/" ++ other))) =
      c.decodeJson v := by
  rw [decodeJson_of_mem hk (hnames.replaceMember _) (.named rfl hother),
    decodeJson_of_mem hk hnames (.named rfl hversion),
    Kind.ofJson_replaceMember hne (by decide) (by decide)]

/-- Namespaces have one version only. -/
theorem decodeJson_namespaces (hk : .namespaces ∈ c.kinds)
    (hnames : v.Names apiVersion Kind.namespaces.name)
    (hgroup : IsGroupOf Kind.namespaces.gvk.group apiVersion) (hne : apiVersion ≠ "v1") :
    ∃ e, c.decodeJson v = .error (.json Kind.namespaces.typeUrl e) := by
  rw [decodeJson_of_mem hk hnames hgroup]
  cases hread : Kind.namespaces.ofJson v with
  | ok o => exact absurd (Kind.apiVersion_of_ofJson_namespaces hnames.member?_apiVersion hread) hne
  | error e => exact ⟨e, rfl⟩

/-- **Objects are read as what they name.** Whatever kinds are registered one after another:

* what a value is read as is told by the version and the kind that it names, and by the group that
  the version belongs to;
* that it names none is the only reason for the protocol to be violated;
* what names a registered kind is of that kind or not read at all;
* the version besides the group does not count for any kind but namespaces, which have only one;
* the order of the kinds does not count, and neither does how often one was registered. -/
theorem objects_are_read_as_named (registered : List Kind) (v : Json) :
    let read (registered : List Kind) := (registered.foldl register empty).decodeJson
    (∀ r, read registered v = r ↔ ReadsAs registered v r) ∧
    ((∃ text, read registered v = .error (.protocol text)) ↔
      ∀ apiVersion kind, ¬ v.Names apiVersion kind) ∧
    (∀ k ∈ registered, ∀ apiVersion, v.Names apiVersion k.name →
      IsGroupOf k.gvk.group apiVersion →
      (∃ o, read registered v = .ok o ∧ o.kind? = some k) ∨
        ∃ e, read registered v = .error (.json k.typeUrl e)) ∧
    (∀ k ∈ registered, k ≠ .namespaces → ∀ version other : String,
      '/' ∉ version.toList → '/' ∉ other.toList →
      v.Names (k.gvk.group ++ "/" ++ version) k.name →
      read registered (v.replaceMember "apiVersion" (.string (k.gvk.group ++ "/" ++ other))) =
        read registered v) ∧
    (.namespaces ∈ registered → ∀ apiVersion, v.Names apiVersion Kind.namespaces.name →
      IsGroupOf Kind.namespaces.gvk.group apiVersion → apiVersion ≠ "v1" →
      ∃ e, read registered v = .error (.json Kind.namespaces.typeUrl e)) ∧
    ∀ others : List Kind, (∀ k, k ∈ others ↔ k ∈ registered) →
      read others v = read registered v := by
  have hkinds (registered : List Kind) : (registered.foldl register empty).kinds = registered :=
    kinds_foldl_register registered
  refine ⟨fun r ↦ ?_, decodeJson_eq_protocol_iff, fun k hk apiVersion hnames hgroup ↦ ?_,
    fun k hk hne version other hversion hother hnames ↦ ?_,
    fun hk apiVersion hnames hgroup hne ↦ ?_, fun others h ↦ ?_⟩
  · rw [decodeJson_eq_iff, hkinds]
  · exact decodeJson_kind (by rwa [hkinds]) hnames hgroup
  · exact decodeJson_replaceMember (by rwa [hkinds]) hne hversion hother hnames
  · exact decodeJson_namespaces (by rwa [hkinds]) hnames hgroup hne
  · refine decodeJson_congr (fun k ↦ ?_) v
    rw [hkinds, hkinds]
    exact h k

end Catalog

end MeshSurvey
