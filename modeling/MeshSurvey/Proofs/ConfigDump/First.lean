import MeshSurvey.Proofs.ConfigDump.Name
import MeshSurvey.Proofs.Search

/-!
# What a dump tells first

A dump tells addresses in many places: its entries, the lists of an entry, the items of a list. The
answer is the address at the first of these places, all addresses that the sidecar was started with
coming before all that names tell. A place where there is a value of another type than expected is
no place of a name, so it cannot hide the places after it.
-/

namespace MeshSurvey.ConfigDump

/-! ## Places -/

/-- The lists of clusters that an entry may have, in the order in which they are searched. -/
def clusterLists : List String :=
  ["static_clusters", "dynamic_active_clusters", "dynamic_warming_clusters"]

/-- The lists of routes that an entry may have, in the order in which they are searched. -/
def routeLists : List String := ["static_route_configs", "dynamic_route_configs"]

/-- The path to the address that a sidecar was started with. -/
def bootstrapPath : List String :=
  ["bootstrap", "node", "metadata", "PROXY_CONFIG", "discoveryAddress"]

/-- A name stands at a place in an entry. The places of clusters come before those of virtual hosts,
and in both cases it is first the list that counts and then the position in it. -/
inductive StandsIn (entry : Json) : List Nat → Name → Prop where
  /-- The name of the cluster at position `i` in the list `l` of clusters. -/
  | cluster {l i : Nat} {list text : String} {clusters : List Json} {cluster : Json}
    (hlist : clusterLists[l]? = some list)
    (hclusters : entry.member? list = some (.array clusters))
    (hcluster : clusters[i]? = some cluster)
    (hname : valueAt? ["cluster", "name"] cluster = some (.string text)) :
    StandsIn entry [0, l, i] (.cluster text)
  /-- The name of the virtual host at position `j` in the route at position `i` in the list `l` of
  routes. -/
  | virtualHost {l i j : Nat} {list text : String} {routes hosts : List Json} {route host : Json}
    (hlist : routeLists[l]? = some list)
    (hroutes : entry.member? list = some (.array routes))
    (hroute : routes[i]? = some route)
    (hhosts : valueAt? ["route_config", "virtual_hosts"] route = some (.array hosts))
    (hhost : hosts[j]? = some host) (hname : host.member? "name" = some (.string text)) :
    StandsIn entry [1, l, i, j] (.virtualHost text)

/-- The sidecar that an entry describes was started with an address. -/
def StartedWith (entry : Json) (address : String) : Prop :=
  valueAt? bootstrapPath entry = some (.string address) ∧ address ≠ ""

/-- A dump tells an address at a place. The places of addresses that a sidecar was started with come
before those of names, and in both cases it is first the position of the entry that counts. -/
inductive Told (dump : Json) : List Nat → String → Prop where
  /-- The sidecar was started with the address. -/
  | started {i : Nat} {entries : List Json} {entry : Json} {address : String}
    (hentries : dump.member? "configs" = some (.array entries)) (hentry : entries[i]? = some entry)
    (haddress : StartedWith entry address) : Told dump [0, i] address
  /-- A name tells the address. -/
  | named {i : Nat} {place : List Nat} {entries : List Json} {entry : Json} {name : Name}
    {host port : List Char} (hentries : dump.member? "configs" = some (.array entries))
    (hentry : entries[i]? = some entry) (hname : StandsIn entry place name)
    (htells : name.Tells host port) :
    Told dump (1 :: i :: place) (String.ofList (host ++ ':' :: port))

/-! ## Dumps with clusters -/

/-- What an entry says of a cluster that has a name and nothing else. -/
def clusterNamed (name : String) : Json := .object [("cluster", .object [("name", .string name)])]

/-- A dump of some entries before one that has a list of clusters. -/
def clusterDump (before clusters : List Json) : Json :=
  .object [("configs", .array (before ++ [.object [("dynamic_active_clusters", .array clusters)]]))]

/-! ## Looking into values -/

theorem valueAt?_singleton (name : String) (v : Json) : valueAt? [name] v = v.member? name := by
  rw [valueAt?, List.foldlM_cons]
  cases v.member? name <;> rfl

theorem textAt?_eq_some_iff {path : List String} {v : Json} {text : String} :
    textAt? path v = some text ↔ valueAt? path v = some (.string text) := by
  rw [textAt?, Option.bind_eq_some_iff]
  constructor
  · rintro ⟨w, hw, htext⟩
    rwa [Json.string?_eq_some_iff.mp htext] at hw
  · exact fun h ↦ ⟨_, h, rfl⟩

theorem getElem?_itemsAt_eq_some_iff {path : List String} {v x : Json} {i : Nat} :
    (itemsAt path v)[i]? = some x ↔
      ∃ items, valueAt? path v = some (.array items) ∧ items[i]? = some x := by
  rw [itemsAt]
  constructor
  · intro h
    cases hitems : (valueAt? path v).bind Json.items? with
    | none =>
      rw [hitems] at h
      cases h
    | some items =>
      rw [hitems] at h
      obtain ⟨w, hw, hw'⟩ := Option.bind_eq_some_iff.mp hitems
      rw [Json.items?_eq_some_iff.mp hw'] at hw
      exact ⟨items, hw, h⟩
  · rintro ⟨items, hitems, h⟩
    rw [hitems]
    exact h

theorem bootstrapAddress_eq_some_iff {entry : Json} {address : String} :
    bootstrapAddress entry = some address ↔ StartedWith entry address := by
  rw [bootstrapAddress, Option.filter_eq_some_iff, textAt?_eq_some_iff, decide_eq_true_eq]
  rfl

/-! ## The search for names -/

/-- The address that the name of a cluster tells. -/
def addressInCluster (cluster : Json) : Option String :=
  (textAt? ["cluster", "name"] cluster).bind addressOfCluster

/-- The address that the name of a virtual host tells. -/
def addressInVirtualHost (host : Json) : Option String :=
  (textAt? ["name"] host).bind addressOfVirtualHost

/-- The first address that a virtual host of a route tells. -/
def addressInRoute (route : Json) : Option String :=
  (itemsAt ["route_config", "virtual_hosts"] route).findSome? addressInVirtualHost

/-- The names in an entry need not be collected to be searched. -/
theorem namedAddress_eq (entry : Json) :
    namedAddress entry =
      (clusterLists.findSome? fun list ↦ (itemsAt [list] entry).findSome? addressInCluster).or
        (routeLists.findSome? fun list ↦ (itemsAt [list] entry).findSome? addressInRoute) := by
  rw [namedAddress, clusterNames, virtualHostNames]
  simp only [findSome?_filterMap, findSome?_flatMap]
  rfl

theorem addressInCluster_eq_some_iff {cluster : Json} {address : String} :
    addressInCluster cluster = some address ↔
      ∃ text, valueAt? ["cluster", "name"] cluster = some (.string text) ∧
        (Name.cluster text).address? = some address := by
  simp only [addressInCluster, Option.bind_eq_some_iff, textAt?_eq_some_iff]
  rfl

theorem addressInVirtualHost_eq_some_iff {host : Json} {address : String} :
    addressInVirtualHost host = some address ↔
      ∃ text, host.member? "name" = some (.string text) ∧
        (Name.virtualHost text).address? = some address := by
  simp only [addressInVirtualHost, Option.bind_eq_some_iff, textAt?_eq_some_iff,
    valueAt?_singleton]
  rfl

theorem findsFirst_namedAddress (entry : Json) :
    FindsFirst (namedAddress entry) fun place address ↦
      ∃ name, StandsIn entry place name ∧ name.address? = some address := by
  rw [namedAddress_eq]
  -- the search goes through the lists, the items and, in a route, the virtual hosts
  have hclusters := FindsFirst.within fun list (_ : list ∈ clusterLists) ↦
    FindsFirst.within fun cluster (_ : cluster ∈ itemsAt [list] entry) ↦
      FindsFirst.single (addressInCluster cluster)
  have hroutes := FindsFirst.within fun list (_ : list ∈ routeLists) ↦
    FindsFirst.within fun route (_ : route ∈ itemsAt [list] entry) ↦
      FindsFirst.within fun host
        (_ : host ∈ itemsAt ["route_config", "virtual_hosts"] route) ↦
          FindsFirst.single (addressInVirtualHost host)
  refine (hclusters.inTurn hroutes).congr fun place address ↦ ?_
  constructor
  · rintro ⟨_, hstands, haddress⟩
    cases hstands with
    | cluster hlist hclusters hcluster hname =>
      rw [← valueAt?_singleton] at hclusters
      have hitem := getElem?_itemsAt_eq_some_iff.mpr ⟨_, hclusters, hcluster⟩
      exact .first (.item hlist (.item hitem
        ⟨rfl, addressInCluster_eq_some_iff.mpr ⟨_, hname, haddress⟩⟩))
    | virtualHost hlist hroutes hroute hhosts hhost hname =>
      rw [← valueAt?_singleton] at hroutes
      have hitem := getElem?_itemsAt_eq_some_iff.mpr ⟨_, hroutes, hroute⟩
      have hitem' := getElem?_itemsAt_eq_some_iff.mpr ⟨_, hhosts, hhost⟩
      exact .second (.item hlist (.item hitem (.item hitem'
        ⟨rfl, addressInVirtualHost_eq_some_iff.mpr ⟨_, hname, haddress⟩⟩)))
  · rintro (⟨hlist, ⟨hitem, rfl, haddress⟩⟩ | ⟨hlist, ⟨hitem, ⟨hitem', rfl, haddress⟩⟩⟩)
    · obtain ⟨clusters, hclusters, hcluster⟩ := getElem?_itemsAt_eq_some_iff.mp hitem
      obtain ⟨text, hname, haddress⟩ := addressInCluster_eq_some_iff.mp haddress
      rw [valueAt?_singleton] at hclusters
      exact ⟨_, .cluster hlist hclusters hcluster hname, haddress⟩
    · obtain ⟨routes, hroutes, hroute⟩ := getElem?_itemsAt_eq_some_iff.mp hitem
      obtain ⟨hosts, hhosts, hhost⟩ := getElem?_itemsAt_eq_some_iff.mp hitem'
      obtain ⟨text, hname, haddress⟩ := addressInVirtualHost_eq_some_iff.mp haddress
      rw [valueAt?_singleton] at hroutes
      exact ⟨_, .virtualHost hlist hroutes hroute hhosts hhost hname, haddress⟩

/-! ## The search through the entries -/

theorem getElem?_entries_eq_some_iff {dump entry : Json} {i : Nat} :
    (itemsAt ["configs"] dump)[i]? = some entry ↔
      ∃ entries, dump.member? "configs" = some (.array entries) ∧ entries[i]? = some entry := by
  rw [getElem?_itemsAt_eq_some_iff, valueAt?_singleton]

theorem findSome?_bootstrapAddress_eq_none_iff {dump : Json} :
    (itemsAt ["configs"] dump).findSome? bootstrapAddress = none ↔
      ∀ i address, ¬ Told dump [0, i] address := by
  rw [List.findSome?_eq_none_iff]
  constructor
  · intro h i address htold
    cases htold with
    | started hentries hentry haddress =>
      have hitem := getElem?_entries_eq_some_iff.mpr ⟨_, hentries, hentry⟩
      have hnone := h _ (List.mem_of_getElem? hitem)
      rw [bootstrapAddress_eq_some_iff.mpr haddress] at hnone
      cases hnone
  · intro h entry hentry
    obtain ⟨i, hi⟩ := List.mem_iff_getElem?.mp hentry
    obtain ⟨entries, hentries, hitem⟩ := getElem?_entries_eq_some_iff.mp hi
    rw [Option.eq_none_iff_forall_ne_some]
    intro address haddress
    exact h i address (.started hentries hitem (bootstrapAddress_eq_some_iff.mp haddress))

/-- The discovery address of a dump is the one that it tells first. -/
theorem findsFirst_discoveryAddress (dump : Json) :
    FindsFirst (discoveryAddress dump) (Told dump) := by
  rw [discoveryAddress]
  have hstarted := FindsFirst.within fun entry (_ : entry ∈ itemsAt ["configs"] dump) ↦
    FindsFirst.single (bootstrapAddress entry)
  have hnamed := FindsFirst.within fun entry (_ : entry ∈ itemsAt ["configs"] dump) ↦
    findsFirst_namedAddress entry
  refine (hstarted.inTurn hnamed).congr fun place address ↦ ?_
  constructor
  · intro htold
    cases htold with
    | started hentries hentry haddress =>
      exact .first (.item (getElem?_entries_eq_some_iff.mpr ⟨_, hentries, hentry⟩)
        ⟨rfl, bootstrapAddress_eq_some_iff.mpr haddress⟩)
    | named hentries hentry hname htells =>
      exact .second (.item (getElem?_entries_eq_some_iff.mpr ⟨_, hentries, hentry⟩)
        ⟨_, hname, Name.address?_eq_some_iff.mpr ⟨_, _, htells, rfl⟩⟩)
  · rintro (⟨hitem, rfl, haddress⟩ | ⟨hitem, name, hname, haddress⟩)
    · obtain ⟨entries, hentries, hentry⟩ := getElem?_entries_eq_some_iff.mp hitem
      exact .started hentries hentry (bootstrapAddress_eq_some_iff.mp haddress)
    · obtain ⟨entries, hentries, hentry⟩ := getElem?_entries_eq_some_iff.mp hitem
      obtain ⟨host, port, htells, rfl⟩ := Name.address?_eq_some_iff.mp haddress
      exact .named hentries hentry hname htells

end MeshSurvey.ConfigDump
