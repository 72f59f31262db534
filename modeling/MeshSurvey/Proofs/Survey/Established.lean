import MeshSurvey.Proofs.Strategy.Promise
import MeshSurvey.Proofs.Strategy.Recorded

/-!
# What a survey establishes

When both chains of the standard survey succeed, one after the other and from nothing, the result
can be relied on: the namespace is one, there is an address of the control plane, whatever address
there is can be used, and a version is what the control plane has told at the discovery address. All
of it but the namespace is the update of one strategy. Snapshots that are taken afterwards, with
whatever configuration, add a version that the update did not have, under the same condition, and
leave everything else alone.
-/

namespace MeshSurvey

variable {σ κ : Type}

/-! ## Names of namespaces -/

/-- A name is an RFC 1123 label. -/
structure IsRfc1123Label (name : String) : Prop where
  /-- It is neither empty nor too long. -/
  length : 1 ≤ name.toList.length ∧ name.toList.length ≤ 63
  /-- It has lower-case letters, digits and hyphens. -/
  chars : ∀ c ∈ name.toList, ('a' ≤ c ∧ c ≤ 'z') ∨ ('0' ≤ c ∧ c ≤ '9') ∨ c = '-'
  /-- It does not begin with a hyphen. -/
  head : name.toList.head? ≠ some '-'
  /-- It does not end with a hyphen. -/
  last : name.toList.getLast? ≠ some '-'

theorem isLabelChar_iff {c : Char} :
    isLabelChar c = true ↔ ('a' ≤ c ∧ c ≤ 'z') ∨ ('0' ≤ c ∧ c ≤ '9') ∨ c = '-' := by
  have hlower : c.isLower = true ↔ 'a' ≤ c ∧ c ≤ 'z' := by
    change (decide ('a' ≤ c) && decide (c ≤ 'z')) = true ↔ _
    rw [Bool.and_eq_true, decide_eq_true_eq, decide_eq_true_eq]
  have hdigit : c.isDigit = true ↔ '0' ≤ c ∧ c ≤ '9' := by
    change (decide ('0' ≤ c) && decide (c ≤ '9')) = true ↔ _
    rw [Bool.and_eq_true, decide_eq_true_eq, decide_eq_true_eq]
  rw [isLabelChar, Bool.or_eq_true, Bool.or_eq_true, decide_eq_true_eq, or_assoc, hlower, hdigit]

theorem isDnsLabel_iff {name : String} : isDnsLabel name = true ↔ IsRfc1123Label name := by
  have hchars : name.toList.all isLabelChar = true ↔
      ∀ c ∈ name.toList, ('a' ≤ c ∧ c ≤ 'z') ∨ ('0' ≤ c ∧ c ≤ '9') ∨ c = '-' := by
    rw [List.all_eq_true]
    exact forall₂_congr fun c _ ↦ isLabelChar_iff
  simp only [isDnsLabel, Bool.and_eq_true, decide_eq_true_eq, hchars]
  exact ⟨fun ⟨⟨⟨hlength, hchars⟩, hhead⟩, hlast⟩ ↦ ⟨hlength, hchars, hhead, hlast⟩,
    fun ⟨hlength, hchars, hhead, hlast⟩ ↦ ⟨⟨⟨hlength, hchars⟩, hhead⟩, hlast⟩⟩

theorem Chain.of_run_ofNamespace {config : DiscoveryConfig} {known : DiscoveryState} {o : Outcome}
    {n n' : σ}
    (h : ((Chain.ofNamespace config).run.run.run {}).run n = ((.ok o, known), n')) :
    known = { namespaceName := some config.namespaceName } ∧
      IsRfc1123Label config.namespaceName := by
  obtain ⟨s, hs, -, update, n₁, ⟨hrun, hverify⟩, rfl⟩ := Chain.exists_finds_of_run _ h
  obtain rfl := List.mem_singleton.mp hs
  cases hrun
  refine ⟨rfl, isDnsLabel_iff.mp ?_⟩
  simp only [Strategy.expectedNamespace, Strategy.verifyNamespace, Option.getD_some] at hverify
  split at hverify
  · assumption
  · cases hverify

/-! ## What is established -/

/-- What is known is reliable, and it comes from an update. -/
structure DiscoveryState.Established (known : DiscoveryState) (config : DiscoveryConfig)
    (u : DiscoveryUpdate) (record : List (Traffic κ)) : Prop where
  /-- The namespace is the expected one. -/
  namespaceName_eq : known.namespaceName = some config.namespaceName
  /-- A namespace may have that name. -/
  isLabel : IsRfc1123Label config.namespaceName
  /-- There is an address of the control plane. -/
  hasControlPlane : known.discoveryAddress.isSome = true ∨ known.debugAddress.isSome = true
  /-- Whatever address there is has a host and a port. -/
  verify_eq : ∀ address, known.discoveryAddress = some address ∨
    known.debugAddress = some address → verifyAddress (some address) = .ok ()
  /-- The discovery address is that of the update. -/
  discoveryAddress_eq : known.discoveryAddress = u.discoveryAddress
  /-- The debug address is that of the update. -/
  debugAddress_eq : known.debugAddress = u.debugAddress
  /-- The kubelets are those of the update. -/
  kubelets_eq : known.kubelets = u.kubelets
  /-- The version of the update is kept, if it has one. -/
  version_eq : u.version.isSome = true → known.version = u.version
  /-- The version was told at the discovery address. -/
  tells : ∀ version, known.version = some version →
    ∃ address, known.discoveryAddress = some address ∧ Traffic.Tells address version record

/-- Snapshots are taken one after another, with whatever configurations. -/
inductive Snapshot.TakenInTurn (net : Network σ κ) :
    DiscoveryState → σ → DiscoveryState → σ → Prop where
  /-- No snapshot is taken. -/
  | nil (known : DiscoveryState) (n : σ) : TakenInTurn net known n known n
  /-- A snapshot is taken or fails to be, and then others are. -/
  | cons {config : DiscoveryConfig} {r : Except Failure Snapshot}
    {known known₁ known₂ : DiscoveryState} {n n₁ n₂ : σ}
    (hfirst : ((retrieve net config).run.run known).run n = ((r, known₁), n₁))
    (hothers : TakenInTurn net known₁ n₁ known₂ n₂) : TakenInTurn net known n known₂ n₂

namespace DiscoveryState.Established

open Snapshot (TakenInTurn)

variable {net : Network σ κ} {config : DiscoveryConfig} {u : DiscoveryUpdate}
  {known known' : DiscoveryState} {record record' : List (Traffic κ)} {n n' : σ}

/-- A snapshot keeps what is established. -/
theorem retrieve {config' : DiscoveryConfig} {r : Except Failure Snapshot}
    (h : known.Established config u record)
    (hrun : ((Snapshot.retrieve net config').run.run known).run n = ((r, known'), n')) :
    ∃ more, ((Snapshot.retrieve net.recorded config').run.run known).run (n, record) =
        ((r, known'), (n', record ++ more)) ∧
      known'.Established config u (record ++ more) := by
  obtain ⟨r₁, known₁, n₁, more, -, hplain, hrecorded⟩ :=
    Snapshot.exists_sourceRun net config' known n record
  rw [hrun] at hplain
  cases hplain
  refine ⟨more, hrecorded, ?_⟩
  -- the run on the recorded network is a run on a network like any other
  obtain ⟨r₂, known₂, m, _, hsource, hrun', -⟩ :=
    Snapshot.exists_sourceRun net.recorded config' known (n, record) []
  rw [hrecorded] at hrun'
  cases hrun'
  rcases hsource.eq_or_tellsVersion with rfl | ⟨version, htells, rfl⟩
  · exact { h with
      tells := fun version hversion ↦
        (h.tells version hversion).imp fun _ htold ↦ htold.imp_right (·.append more) }
  · obtain ⟨address, haddress, htold⟩ := htells.tells
    have hmissing : known.version = none := by
      cases htells with
      | intro hknown => exact hknown
    refine { h with version_eq := fun hsome ↦ ?_, tells := fun version' hversion ↦ ?_ }
    · rw [h.version_eq hsome] at hmissing
      rw [hmissing] at hsome
      cases hsome
    · obtain rfl := Option.some.inj hversion
      exact ⟨address, haddress, htold⟩

theorem takenInTurn (hturn : TakenInTurn net known n known' n')
    (h : known.Established config u record) :
    ∃ record', TakenInTurn net.recorded known (n, record) known' (n', record') ∧
      known'.Established config u record' := by
  induction hturn generalizing record with
  | nil known n => exact ⟨record, .nil known (n, record), h⟩
  | cons hfirst _ ih =>
    obtain ⟨more, hrecorded, hfirst⟩ := h.retrieve hfirst
    obtain ⟨record', hothers, hlast⟩ := ih hfirst
    exact ⟨record', .cons hrecorded hothers, hlast⟩

/-- What a strategy for the control plane finds after the namespace is established. -/
theorem of_keepsPromise (hlabel : IsRfc1123Label config.namespaceName)
    (hpromise : u.KeepsPromise record) :
    ({ namespaceName := some config.namespaceName, discoveryAddress := u.discoveryAddress,
       debugAddress := u.debugAddress, kubelets := u.kubelets,
       version := u.version } : DiscoveryState).Established config u record where
  namespaceName_eq := rfl
  isLabel := hlabel
  hasControlPlane := hpromise.hasAddress
  verify_eq := hpromise.verify_eq
  discoveryAddress_eq := rfl
  debugAddress_eq := rfl
  kubelets_eq := rfl
  version_eq _ := rfl
  tells := hpromise.tells

end DiscoveryState.Established

open DiscoveryState (Established)

/-- **A survey that succeeds can be relied on.** Say that the chain for the namespace succeeds from
nothing, and after it the chain for the control plane. Then a strategy of that chain has found an
update, under whose name the chain succeeds, and what is known is the namespace of the configuration
and the rest of that update. The namespace is a label. There is an address, and every address has a
host and a port. If there is a version, then there is a discovery address and the version was told
there, as the record of the network shows. After any snapshots all of this still holds; a version
that the update has is kept, and one that it does not have is filled in, if at all, by what was told
at the discovery address. -/
theorem Survey.standard_is_established (net : Network σ κ) (config : DiscoveryConfig)
    (routeTable : Except String String) {n n₁ n₂ : σ} {o₁ o₂ : Outcome}
    {known₁ known₂ : DiscoveryState}
    (hnamespace : ((Chain.ofNamespace config).run.run.run {}).run n = ((.ok o₁, known₁), n₁))
    (hcontrolPlane : ((Chain.ofControlPlane net config routeTable).run.run.run known₁).run n₁ =
      ((.ok o₂, known₂), n₂)) :
    ∃ s ∈ (Chain.ofControlPlane net.recorded config routeTable).strategies,
      s.name = o₂.strategy ∧
      ∃ update m record,
        ((Chain.ofControlPlane net.recorded config routeTable).run.run.run known₁).run (n₁, []) =
          ((.ok o₂, known₂), (n₂, record)) ∧
        s.Finds known₁ m update (n₂, record) ∧
        known₂ = {
          namespaceName := some config.namespaceName
          discoveryAddress := update.discoveryAddress
          debugAddress := update.debugAddress
          kubelets := update.kubelets
          version := update.version } ∧
        known₂.Established config update record ∧
        ∀ known₃ n₃, Snapshot.TakenInTurn net known₂ n₂ known₃ n₃ →
          ∃ record', Snapshot.TakenInTurn net.recorded known₂ (n₂, record) known₃ (n₃, record') ∧
            known₃.Established config update record' := by
  obtain ⟨rfl, hlabel⟩ := Chain.of_run_ofNamespace hnamespace
  obtain ⟨record, -, hrecorded⟩ :=
    Chain.mirrors_ofControlPlane net config routeTable
      { namespaceName := some config.namespaceName } n₁ []
  rw [hcontrolPlane, List.nil_append] at hrecorded
  obtain ⟨s, hs, hname, update, ⟨m, before⟩, hfinds, hmerge⟩ :=
    Chain.exists_finds_of_run _ hrecorded
  have hknown : known₂ = {
      namespaceName := some config.namespaceName
      discoveryAddress := update.discoveryAddress
      debugAddress := update.debugAddress
      kubelets := update.kubelets
      version := update.version } := hmerge
  have hestablished : known₂.Established config update record :=
    hknown ▸ .of_keepsPromise hlabel (Strategy.keepsPromise_of_finds hs hfinds)
  exact ⟨s, hs, hname, update, (m, before), record, hrecorded, hfinds, hknown, hestablished,
    fun known₃ n₃ hturn ↦ hestablished.takenInTurn hturn⟩

/-! ## A control plane that only a sidecar knows of -/

/-- The configuration of a sidecar that names a discovery address. -/
def Sidecar.dumpJson : Json :=
  .object [("configs", .array [.object [("bootstrap", .object [("node", .object [("metadata",
    .object [("PROXY_CONFIG", .object [("discoveryAddress", .string "10.0.0.7:15010")])])])])]])]

/-- The control plane says nothing when it is first asked. Later it answers for every kind, and then
it tells its version. -/
def lateReplies : List (Reply DiscoveryResponse) :=
  .silence :: (Kind.all.map fun k ↦ .value { typeUrl := k.typeUrl }) ++
    [.value { typeUrl := Client.versionTypeUrl
              controlPlane := some ⟨Strategy.identifierJson.text⟩ }]

/-- The well-known name does not answer, and there is no routing table. The sidecar knows a
discovery address and no version, which the first snapshot fills in. -/
theorem Survey.standard_is_established_sidecar :
    let net := Network.monologue (Wire.Codec.bytesOfText Sidecar.dumpJson.text)
    ∃ o₁ o₂ r known₁ known₂ known₃ n₂ n₃ update, ∃ record : List (Traffic Unit),
      ((Chain.ofNamespace {}).run.run.run {}).run lateReplies = ((.ok o₁, known₁), lateReplies) ∧
      ((Chain.ofControlPlane net {} (.error "no table")).run.run.run known₁).run lateReplies =
        ((.ok o₂, known₂), n₂) ∧
      ((Snapshot.retrieve net {}).run.run known₂).run n₂ = ((r, known₃), n₃) ∧
      o₂.strategy = "sidecar-bootstrap" ∧ known₂.version = none ∧ known₃ = {
        namespaceName := some "istio-system"
        discoveryAddress := some "10.0.0.7:15010"
        version := some "1.19.3" } ∧
      known₃.Established {} update record := by
  intro net
  have hnamespace : ((Chain.ofNamespace {}).run.run.run {}).run lateReplies =
      ((.ok ⟨"default-namespace", []⟩, { namespaceName := some "istio-system" }),
        lateReplies) := rfl
  rcases hfound : ((Chain.ofControlPlane net {} (.error "no table")).run.run.run
    { namespaceName := some "istio-system" }).run lateReplies with ⟨⟨result, known₂⟩, n₂⟩
  rcases hretrieve : ((Snapshot.retrieve net {}).run.run known₂).run n₂ with ⟨⟨r, known₃⟩, n₃⟩
  have hevaluated :
      let found := ((Chain.ofControlPlane net {} (.error "no table")).run.run.run
        { namespaceName := some "istio-system" }).run lateReplies
      found.1.1.toOption.map (·.strategy) = some "sidecar-bootstrap" ∧
        found.1.2.version = none ∧
        (((Snapshot.retrieve net {}).run.run found.1.2).run found.2).1.2 = {
          namespaceName := some "istio-system"
          discoveryAddress := some "10.0.0.7:15010"
          version := some "1.19.3" } := by
    decide +kernel
  rw [hfound] at hevaluated
  obtain ⟨hstrategy, hversion, hknown⟩ := hevaluated
  dsimp only at hstrategy hversion hknown
  rw [hretrieve] at hknown
  cases result with
  | error e => cases hstrategy
  | ok o₂ =>
    obtain ⟨s, -, -, update, m, record, -, -, -, -, hlater⟩ :=
      standard_is_established net {} (.error "no table") hnamespace hfound
    obtain ⟨record', -, hestablished⟩ := hlater known₃ n₃ (.cons hretrieve (.nil known₃ n₃))
    exact ⟨_, o₂, r, _, known₂, known₃, n₂, n₃, update, record', hnamespace, hfound, hretrieve,
      Option.some.inj hstrategy, hversion, hknown, hestablished⟩

end MeshSurvey
