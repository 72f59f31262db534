import Mathlib.Logic.Relation
import MeshSurvey.Proofs.ConfigDump.First

/-!
# What may come and go in a dump

An entry that tells no address may be put anywhere among the entries of a dump, and so may a member
among those of an entry, a cluster or a route in a list, and a virtual host in a route. None of them
has a part in the answer, whatever type of value it is. So each of them may be put in or taken out,
any number of times.
-/

namespace MeshSurvey.ConfigDump

variable {R : Json → Json → Prop} {P : Json → Prop} {v w : Json} {path : List String}
variable {β : Type} {f : Json → Option β}

/-! ## Edits to a value -/

/-- An array gets one more item. -/
inductive GainsItem (P : Json → Prop) : Json → Json → Prop where
  /-- The item stands anywhere. -/
  | mk {x : Json} (h : P x) (before after : List Json) :
    GainsItem P (.array (before ++ after)) (.array (before ++ x :: after))

/-- One item of an array is edited. -/
inductive EditsItem (R : Json → Json → Prop) : Json → Json → Prop where
  /-- The others stay as they are. -/
  | mk {x y : Json} (h : R x y) (before after : List Json) :
    EditsItem R (.array (before ++ x :: after)) (.array (before ++ y :: after))

/-- An object gets one more member. -/
inductive GainsMember (P : String → Json → Prop) : Json → Json → Prop where
  /-- There is none of that name. -/
  | mk {name : String} {x : Json} (h : P name x) (before after : List (String × Json))
    (hnew : ∀ m ∈ before ++ after, m.1 ≠ name) :
    GainsMember P (.object (before ++ after)) (.object (before ++ (name, x) :: after))

/-- The value at the end of a path is edited. -/
inductive EditsAt (R : Json → Json → Prop) : List String → Json → Json → Prop where
  /-- The path ends here. -/
  | here {v w : Json} (h : R v w) : EditsAt R [] v w
  /-- The path goes on with the first member of a name. -/
  | member {name : String} {path : List String} {v w : Json} (h : EditsAt R path v w)
    (before after : List (String × Json)) (hfirst : ∀ m ∈ before, m.1 ≠ name) :
    EditsAt R (name :: path) (.object (before ++ (name, v) :: after))
      (.object (before ++ (name, w) :: after))

/-! ## Edits to a dump -/

/-- The name of a cluster, if there is one, tells no address. -/
def IsIdleCluster (cluster : Json) : Prop :=
  ∀ text, valueAt? ["cluster", "name"] cluster = some (.string text) →
    ¬ (Name.cluster text).Qualifies

/-- The name of a virtual host, if there is one, tells no address. -/
def IsIdleHost (host : Json) : Prop :=
  ∀ text, host.member? "name" = some (.string text) → ¬ (Name.virtualHost text).Qualifies

/-- None of the virtual hosts of a route, if there are any, tells an address. -/
def IsIdleRoute (route : Json) : Prop :=
  ∀ hosts, valueAt? ["route_config", "virtual_hosts"] route = some (.array hosts) →
    ∀ host ∈ hosts, IsIdleHost host

/-- An entry tells no address. -/
def IsIdleEntry (entry : Json) : Prop :=
  (∀ address, ¬ StartedWith entry address) ∧
    ∀ place name, StandsIn entry place name → ¬ name.Qualifies

/-- Something that tells no address is put into a dump. -/
inductive GainsIdle : Json → Json → Prop where
  /-- An entry. -/
  | entry {v w : Json} (h : EditsAt (GainsItem IsIdleEntry) ["configs"] v w) : GainsIdle v w
  /-- A member of an entry, which would be idle if it were all of the entry. -/
  | member {v w : Json}
    (h : EditsAt (EditsItem (GainsMember fun name x ↦ IsIdleEntry (.object [(name, x)])))
      ["configs"] v w) : GainsIdle v w
  /-- A cluster in one of the lists of an entry. -/
  | cluster {v w : Json} {list : String} (hlist : list ∈ clusterLists)
    (h : EditsAt (EditsItem (EditsAt (GainsItem IsIdleCluster) [list])) ["configs"] v w) :
    GainsIdle v w
  /-- A route in one of the lists of an entry. -/
  | route {v w : Json} {list : String} (hlist : list ∈ routeLists)
    (h : EditsAt (EditsItem (EditsAt (GainsItem IsIdleRoute) [list])) ["configs"] v w) :
    GainsIdle v w
  /-- A virtual host in a route. -/
  | virtualHost {v w : Json} {list : String} (hlist : list ∈ routeLists)
    (h : EditsAt (EditsItem (EditsAt (EditsItem
      (EditsAt (GainsItem IsIdleHost) ["route_config", "virtual_hosts"])) [list])) ["configs"] v w) :
    GainsIdle v w

/-! ## Looking into an edited value -/

theorem valueAt?_cons (name : String) (path : List String) (v : Json) :
    valueAt? (name :: path) v = (v.member? name).bind (valueAt? path) := by
  rw [valueAt?, List.foldlM_cons]
  rfl

theorem member?_append_of_forall_ne {name : String} {before : List (String × Json)}
    (h : ∀ m ∈ before, m.1 ≠ name) (after : List (String × Json)) :
    (Json.object (before ++ after)).member? name = (Json.object after).member? name := by
  have hnone : before.find? (·.1 = name) = none :=
    List.find?_eq_none.mpr fun m hm ↦ by simpa using h m hm
  rw [Json.member?, Json.member?, List.find?_append, hnone, Option.none_or]

theorem member?_append_cons_self {name : String} {before : List (String × Json)}
    (h : ∀ m ∈ before, m.1 ≠ name) (x : Json) (after : List (String × Json)) :
    (Json.object (before ++ (name, x) :: after)).member? name = some x := by
  rw [member?_append_of_forall_ne h, Json.member?, List.find?_cons_of_pos (by simp)]
  rfl

theorem member?_append_cons_of_ne {name name' : String} (h : name' ≠ name)
    (before after : List (String × Json)) (x : Json) :
    (Json.object (before ++ (name, x) :: after)).member? name' =
      (Json.object (before ++ after)).member? name' := by
  have hskip : ((name, x) :: after).find? (·.1 = name') = after.find? (·.1 = name') :=
    List.find?_cons_of_neg (by simpa using Ne.symm h)
  rw [Json.member?, Json.member?, List.find?_append, List.find?_append, hskip]

theorem EditsAt.exists_valueAt? (h : EditsAt R path v w) :
    ∃ x y, valueAt? path v = some x ∧ valueAt? path w = some y ∧ R x y := by
  induction h with
  | here h => exact ⟨_, _, rfl, rfl, h⟩
  | member _ before after hfirst ih =>
    obtain ⟨x, y, hx, hy, hxy⟩ := ih
    refine ⟨x, y, ?_, ?_, hxy⟩
    · rw [valueAt?_cons, member?_append_cons_self hfirst, Option.bind_some, hx]
    · rw [valueAt?_cons, member?_append_cons_self hfirst, Option.bind_some, hy]

theorem EditsAt.valueAt?_of_ne {name name' : String} (h : EditsAt R (name :: path) v w)
    (hne : name' ≠ name) (path' : List String) :
    valueAt? (name' :: path') w = valueAt? (name' :: path') v := by
  cases h with
  | member _ before after _ =>
    rw [valueAt?_cons, valueAt?_cons, member?_append_cons_of_ne hne,
      member?_append_cons_of_ne hne]

/-! ## Searching through edited items -/

theorem EditsAt.findSome?_of_gainsItem (h : EditsAt (GainsItem P) path v w)
    (hP : ∀ x, P x → f x = none) :
    (itemsAt path w).findSome? f = (itemsAt path v).findSome? f := by
  obtain ⟨_, _, hv, hw, hx, before, after⟩ := h.exists_valueAt?
  rw [itemsAt, itemsAt, hv, hw]
  change (before ++ _ :: after).findSome? f = (before ++ after).findSome? f
  rw [List.findSome?_append, List.findSome?_append, List.findSome?_cons, hP _ hx]

theorem EditsAt.findSome?_of_editsItem (h : EditsAt (EditsItem R) path v w)
    (hR : ∀ x y, R x y → f y = f x) :
    (itemsAt path w).findSome? f = (itemsAt path v).findSome? f := by
  obtain ⟨_, _, hv, hw, hxy, before, after⟩ := h.exists_valueAt?
  rw [itemsAt, itemsAt, hv, hw]
  change (before ++ _ :: after).findSome? f = (before ++ _ :: after).findSome? f
  rw [List.findSome?_append, List.findSome?_append, List.findSome?_cons, List.findSome?_cons,
    hR _ _ hxy]

/-! ## Nothing is found in what is idle -/

/-- What is found by a name alone is not found if and only if the name tells no address. -/
theorem Name.forall_not_qualifies_iff {kind : String → Name} {named : Option Json}
    {found : Option String}
    (h : ∀ address, found = some address ↔
      ∃ text, named = some (.string text) ∧ (kind text).address? = some address) :
    (∀ text, named = some (.string text) → ¬ (kind text).Qualifies) ↔ found = none := by
  rw [Option.eq_none_iff_forall_ne_some]
  constructor
  · intro hidle address haddress
    obtain ⟨text, hnamed, htext⟩ := (h address).mp haddress
    rw [Name.address?_eq_none_iff.mpr (hidle text hnamed)] at htext
    cases htext
  · rintro hnone text hnamed ⟨host, port, htells⟩
    have htext := Name.address?_eq_some_iff.mpr ⟨host, port, htells, rfl⟩
    exact hnone _ ((h _).mpr ⟨text, hnamed, htext⟩)

theorem isIdleCluster_iff {cluster : Json} :
    IsIdleCluster cluster ↔ addressInCluster cluster = none :=
  Name.forall_not_qualifies_iff fun _ ↦ addressInCluster_eq_some_iff

theorem isIdleHost_iff {host : Json} : IsIdleHost host ↔ addressInVirtualHost host = none :=
  Name.forall_not_qualifies_iff fun _ ↦ addressInVirtualHost_eq_some_iff

theorem IsIdleRoute.addressInRoute_eq {route : Json} (h : IsIdleRoute route) :
    addressInRoute route = none := by
  refine List.findSome?_eq_none_iff.mpr fun host hhost ↦ ?_
  obtain ⟨i, hi⟩ := List.mem_iff_getElem?.mp hhost
  obtain ⟨hosts, hhosts, hitem⟩ := getElem?_itemsAt_eq_some_iff.mp hi
  exact isIdleHost_iff.mp (h hosts hhosts host (List.mem_of_getElem? hitem))

/-- Two entries tell the same: they are searched for two addresses. -/
structure TellSame (v w : Json) : Prop where
  /-- The address that the sidecar was started with. -/
  started : bootstrapAddress w = bootstrapAddress v
  /-- The address of the first name that tells one. -/
  named : namedAddress w = namedAddress v

theorem isIdleEntry_iff {entry : Json} :
    IsIdleEntry entry ↔ bootstrapAddress entry = none ∧ namedAddress entry = none := by
  rw [(findsFirst_namedAddress entry).eq_none_iff, Option.eq_none_iff_forall_ne_some, IsIdleEntry]
  refine and_congr (forall_congr' fun address ↦ not_congr bootstrapAddress_eq_some_iff.symm) ?_
  constructor
  · rintro h place address ⟨name, hname, haddress⟩
    obtain ⟨host, port, htells, -⟩ := Name.address?_eq_some_iff.mp haddress
    exact h place name hname ⟨host, port, htells⟩
  · rintro h place name hname ⟨host, port, htells⟩
    exact h place _ ⟨name, hname, Name.address?_eq_some_iff.mpr ⟨host, port, htells, rfl⟩⟩

/-! ## Editing an entry -/

theorem namedAddress_congr
    (hclusters : ∀ list ∈ clusterLists, (itemsAt [list] w).findSome? addressInCluster =
      (itemsAt [list] v).findSome? addressInCluster)
    (hroutes : ∀ list ∈ routeLists, (itemsAt [list] w).findSome? addressInRoute =
      (itemsAt [list] v).findSome? addressInRoute) : namedAddress w = namedAddress v := by
  rw [namedAddress_eq, namedAddress_eq, findSome?_congr hclusters, findSome?_congr hroutes]

theorem bootstrapAddress_congr (h : valueAt? bootstrapPath w = valueAt? bootstrapPath v) :
    bootstrapAddress w = bootstrapAddress v :=
  congrArg (fun value ↦ (value.bind Json.string?).filter (· ≠ "")) h

theorem itemsAt_congr (h : valueAt? path w = valueAt? path v) : itemsAt path w = itemsAt path v :=
  congrArg (fun value ↦ (value.bind Json.items?).getD []) h

theorem EditsAt.tellSame {list : String} (h : EditsAt R [list] v w) (hne : list ≠ "bootstrap")
    (hclusters : list ∈ clusterLists → (itemsAt [list] w).findSome? addressInCluster =
      (itemsAt [list] v).findSome? addressInCluster)
    (hroutes : list ∈ routeLists → (itemsAt [list] w).findSome? addressInRoute =
      (itemsAt [list] v).findSome? addressInRoute) : TellSame v w where
  started := bootstrapAddress_congr (h.valueAt?_of_ne (Ne.symm hne) _)
  named := by
    apply namedAddress_congr
    · intro other hother
      by_cases heq : other = list
      · subst heq
        exact hclusters hother
      · rw [itemsAt_congr (h.valueAt?_of_ne heq [])]
    · intro other hother
      by_cases heq : other = list
      · subst heq
        exact hroutes hother
      · rw [itemsAt_congr (h.valueAt?_of_ne heq [])]

/-- The five lists have different names, and none of them is where the bootstrap stands. -/
theorem ne_of_mem_clusterLists {list : String} (h : list ∈ clusterLists) :
    list ≠ "bootstrap" ∧ list ∉ routeLists := by
  have hall : ∀ list ∈ clusterLists, list ≠ "bootstrap" ∧ list ∉ routeLists := by decide
  exact hall list h

theorem ne_of_mem_routeLists {list : String} (h : list ∈ routeLists) :
    list ≠ "bootstrap" ∧ list ∉ clusterLists := by
  have hall : ∀ list ∈ routeLists, list ≠ "bootstrap" ∧ list ∉ clusterLists := by decide
  exact hall list h

theorem EditsAt.tellSame_of_cluster {list : String} (hlist : list ∈ clusterLists)
    (h : EditsAt (GainsItem IsIdleCluster) [list] v w) : TellSame v w := by
  obtain ⟨hne, hapart⟩ := ne_of_mem_clusterLists hlist
  refine h.tellSame hne (fun _ ↦ ?_) fun hroute ↦ absurd hroute hapart
  exact h.findSome?_of_gainsItem fun _ ↦ isIdleCluster_iff.mp

theorem EditsAt.tellSame_of_route {list : String} (hlist : list ∈ routeLists)
    (h : EditsAt (GainsItem IsIdleRoute) [list] v w) : TellSame v w := by
  obtain ⟨hne, hapart⟩ := ne_of_mem_routeLists hlist
  refine h.tellSame hne (fun hcluster ↦ absurd hcluster hapart) fun _ ↦ ?_
  exact h.findSome?_of_gainsItem fun _ ↦ IsIdleRoute.addressInRoute_eq

theorem EditsAt.tellSame_of_virtualHost {list : String} (hlist : list ∈ routeLists)
    (h : EditsAt (EditsItem (EditsAt (GainsItem IsIdleHost) ["route_config", "virtual_hosts"]))
      [list] v w) : TellSame v w := by
  obtain ⟨hne, hapart⟩ := ne_of_mem_routeLists hlist
  refine h.tellSame hne (fun hcluster ↦ absurd hcluster hapart) fun _ ↦ ?_
  apply h.findSome?_of_editsItem
  intro route edited hroute
  exact hroute.findSome?_of_gainsItem fun _ ↦ isIdleHost_iff.mp

theorem GainsMember.tellSame
    (h : GainsMember (fun name x ↦ IsIdleEntry (.object [(name, x)])) v w) : TellSame v w := by
  obtain @⟨name, x, hidle, before, after, hnew⟩ := h
  obtain ⟨hstarted, hnamed⟩ := isIdleEntry_iff.mp hidle
  -- under the name of the member there was nothing, and now there is what is by itself there
  have hold (path : List String) : valueAt? (name :: path) (.object (before ++ after)) = none := by
    have hmember := member?_append_of_forall_ne hnew []
    rw [List.append_nil] at hmember
    rw [valueAt?_cons, hmember]
    rfl
  have hnow (path : List String) : valueAt? (name :: path) (.object (before ++ (name, x) :: after)) =
      valueAt? (name :: path) (.object [(name, x)]) := by
    have hfirst : ∀ m ∈ before, m.1 ≠ name := fun m hm ↦ hnew m (List.mem_append_left after hm)
    have halone : (Json.object [(name, x)]).member? name = some x :=
      member?_append_cons_self (List.forall_mem_nil _) x []
    rw [valueAt?_cons, valueAt?_cons, member?_append_cons_self hfirst, halone]
  have hother {name' : String} (hne : name' ≠ name) (path : List String) :
      valueAt? (name' :: path) (.object (before ++ (name, x) :: after)) =
        valueAt? (name' :: path) (.object (before ++ after)) := by
    rw [valueAt?_cons, valueAt?_cons, member?_append_cons_of_ne hne]
  rw [namedAddress_eq, Option.or_eq_none_iff, List.findSome?_eq_none_iff,
    List.findSome?_eq_none_iff] at hnamed
  refine ⟨?_, namedAddress_congr (fun list hlist ↦ ?_) fun list hlist ↦ ?_⟩
  · by_cases hname : "bootstrap" = name
    · subst hname
      rw [bootstrapAddress_congr (hnow _), hstarted, bootstrapAddress, textAt?, hold]
      rfl
    · exact bootstrapAddress_congr (hother hname _)
  · by_cases hname : list = name
    · subst hname
      rw [itemsAt_congr (hnow []), hnamed.1 list hlist, itemsAt, hold]
      rfl
    · rw [itemsAt_congr (hother hname [])]
  · by_cases hname : list = name
    · subst hname
      rw [itemsAt_congr (hnow []), hnamed.2 list hlist, itemsAt, hold]
      rfl
    · rw [itemsAt_congr (hother hname [])]

/-! ## Editing a dump -/

/-- Entries may be edited as long as they tell the same. -/
theorem EditsAt.discoveryAddress_eq (h : EditsAt (EditsItem R) ["configs"] v w)
    (hR : ∀ x y, R x y → TellSame x y) : discoveryAddress w = discoveryAddress v := by
  rw [discoveryAddress, discoveryAddress, h.findSome?_of_editsItem fun x y hxy ↦ (hR x y hxy).started,
    h.findSome?_of_editsItem fun x y hxy ↦ (hR x y hxy).named]

theorem GainsIdle.discoveryAddress_eq (h : GainsIdle v w) :
    discoveryAddress w = discoveryAddress v := by
  cases h with
  | entry h =>
    rw [discoveryAddress, discoveryAddress,
      h.findSome?_of_gainsItem fun x hx ↦ (isIdleEntry_iff.mp hx).1,
      h.findSome?_of_gainsItem fun x hx ↦ (isIdleEntry_iff.mp hx).2]
  | member h => exact h.discoveryAddress_eq fun _ _ ↦ GainsMember.tellSame
  | cluster hlist h => exact h.discoveryAddress_eq fun _ _ ↦ EditsAt.tellSame_of_cluster hlist
  | route hlist h => exact h.discoveryAddress_eq fun _ _ ↦ EditsAt.tellSame_of_route hlist
  | virtualHost hlist h =>
    exact h.discoveryAddress_eq fun _ _ ↦ EditsAt.tellSame_of_virtualHost hlist

/-- However often something idle is put in or taken out, the answer stays the same. -/
theorem discoveryAddress_eq_of_eqvGen (h : Relation.EqvGen GainsIdle v w) :
    discoveryAddress w = discoveryAddress v := by
  induction h with
  | rel _ _ h => exact h.discoveryAddress_eq
  | refl => rfl
  | symm _ _ _ ih => exact ih.symm
  | trans _ _ _ _ _ ih ih' => exact ih'.trans ih

theorem discoveryAddress_eq_none_iff {dump : Json} :
    discoveryAddress dump = none ↔
      ∀ entries, dump.member? "configs" = some (.array entries) →
        ∀ entry ∈ entries, IsIdleEntry entry := by
  rw [(findsFirst_discoveryAddress dump).eq_none_iff]
  constructor
  · intro h entries hentries entry hentry
    obtain ⟨i, hi⟩ := List.mem_iff_getElem?.mp hentry
    refine ⟨fun address haddress ↦ h _ address (.started hentries hi haddress), ?_⟩
    rintro place name hname ⟨host, port, htells⟩
    exact h _ _ (.named hentries hi hname htells)
  · intro h place address htold
    cases htold with
    | started hentries hentry haddress =>
      exact (h _ hentries _ (List.mem_of_getElem? hentry)).1 _ haddress
    | named hentries hentry hname htells =>
      exact (h _ hentries _ (List.mem_of_getElem? hentry)).2 _ _ hname ⟨_, _, htells⟩

/-- **The discovery address of a dump is the one that it tells first.** Those that a sidecar was
started with come first, entry by entry, whatever names stand before them; then those that names
tell, entry by entry, in an entry those of clusters before those of virtual hosts, and list by list.
There is none if and only if there is no array of entries or all of its entries are idle. And
whatever is idle, be it because it is of an unexpected type or because its name tells no address,
may be put into the dump or taken out of it: the answer stays the same. -/
theorem discoveryAddress_is_told_first (dump : Json) :
    (∀ address, discoveryAddress dump = some address ↔
      ∃ place, Told dump place address ∧ ∀ earlier < place, ∀ other, ¬ Told dump earlier other) ∧
    (discoveryAddress dump = none ↔
      ∀ entries, dump.member? "configs" = some (.array entries) →
        ∀ entry ∈ entries, IsIdleEntry entry) ∧
    ∀ edited, Relation.EqvGen GainsIdle dump edited →
      discoveryAddress edited = discoveryAddress dump :=
  ⟨fun _ ↦ (findsFirst_discoveryAddress dump).eq_some_iff, discoveryAddress_eq_none_iff,
    fun _ ↦ discoveryAddress_eq_of_eqvGen⟩

/-- Neither an entry that is a mere text nor a cluster of another port hides what stands behind. -/
theorem discoveryAddress_is_told_first_behind_idle :
    discoveryAddress (clusterDump [.string "BootstrapConfigDump"]
      [clusterNamed "outbound|9080||reviews.default.svc",
        clusterNamed "outbound|15012||istiod.istio-system.svc"]) =
      some "istiod.istio-system.svc:15012" := by
  have hentry : IsIdleEntry (.string "BootstrapConfigDump") :=
    isIdleEntry_iff.mpr ⟨by decide +kernel, by decide +kernel⟩
  have hcluster : IsIdleCluster (clusterNamed "outbound|9080||reviews.default.svc") :=
    isIdleCluster_iff.mpr (by decide +kernel)
  -- the dump without either of them, then with the cluster, and then with the entry too
  have hfirst : GainsIdle (clusterDump [] [clusterNamed "outbound|15012||istiod.istio-system.svc"])
      (clusterDump [] [clusterNamed "outbound|9080||reviews.default.svc",
        clusterNamed "outbound|15012||istiod.istio-system.svc"]) :=
    have hlist : "dynamic_active_clusters" ∈ clusterLists := by decide
    .cluster hlist (.member (.here (.mk (.member (.here (.mk hcluster [] _)) [] []
      (List.forall_mem_nil _)) [] [])) [] [] (List.forall_mem_nil _))
  have hsecond : GainsIdle (clusterDump [] [clusterNamed "outbound|9080||reviews.default.svc",
        clusterNamed "outbound|15012||istiod.istio-system.svc"])
      (clusterDump [.string "BootstrapConfigDump"]
        [clusterNamed "outbound|9080||reviews.default.svc",
          clusterNamed "outbound|15012||istiod.istio-system.svc"]) :=
    .entry (.member (.here (.mk hentry [] _)) [] [] (List.forall_mem_nil _))
  rw [(discoveryAddress_is_told_first _).2.2 _ (.trans _ _ _ (.rel _ _ hfirst) (.rel _ _ hsecond))]
  decide +kernel

end MeshSurvey.ConfigDump
