import MeshSurvey.Proofs.Client.Exchange
import MeshSurvey.Proofs.Network.Mirrored

/-!
# Clients mirror themselves

A client that is connected leaves traffic on its stream and no other; setting up its connection adds
a dial. So whatever is asked of a client, no HTTP request is sent for it.
-/

namespace MeshSurvey

variable {σ κ : Type}

namespace Client

variable (net : Network σ κ)

theorem mirrors_exchange (typeUrl : String) (c : Client κ) :
    Mirrors (Traffic.All Traffic.IsStream) ((exchange net typeUrl).run.run c)
      ((exchange net.recorded typeUrl).run.run c) := by
  intro n record
  cases hconnection : c.connection? with
  | none =>
    have hclosed : c.isOpen = false := by rw [isOpen_eq_isSome_connection?, hconnection]; rfl
    refine ⟨[], List.forall_mem_nil _, ?_⟩
    rw [run_exchange_of_isOpen_eq_false net hclosed,
      run_exchange_of_isOpen_eq_false net.recorded hclosed, List.append_nil]
  | some connection =>
    obtain ⟨outcome, n', more, hrun, hrun', hmore⟩ :=
      run_exchange_recorded net hconnection typeUrl n record
    refine ⟨more, fun t ht ↦ ?_, ?_⟩
    · rw [Traffic.IsStream, hmore.stream?_eq t ht]
      rfl
    · rw [hrun, hrun']

theorem mirrors_version (c : Client κ) :
    Mirrors (Traffic.All Traffic.IsStream) ((version net).run.run c)
      ((version net.recorded).run.run c) :=
  (mirrors_exchange net _ c).bind_carrying fun _ _ ↦ .pure _

theorem mirrors_fetch (k : Kind) (c : Client κ) :
    Mirrors (Traffic.All Traffic.IsStream) ((fetch net k).run.run c)
      ((fetch net.recorded k).run.run c) :=
  (mirrors_exchange net _ c).bind_carrying fun _ _ ↦ .pure _

theorem mirrors_fetchAll (kinds : List Kind) (c : Client κ) :
    Mirrors (Traffic.All Traffic.IsStream) ((fetchAll net kinds).run.run c)
      ((fetchAll net.recorded kinds).run.run c) := by
  induction kinds generalizing c with
  | nil => exact .pure _
  | cons k kinds ih =>
    have hfetch : Mirrors (Traffic.All Traffic.IsStream)
        (((fetch net k).adapt (Failure.fetch k.typeUrl)).run.run c)
        (((fetch net.recorded k).adapt (Failure.fetch k.typeUrl)).run.run c) := by
      rw [ExceptT.run_adapt, ExceptT.run_adapt, StateT.run_map, StateT.run_map]
      exact (mirrors_fetch net k c).map _
    exact hfetch.bind_carrying fun objects c' ↦ (ih c').bind_carrying fun _ _ ↦ .pure _

theorem mirrors_resources (c : Client κ) :
    Mirrors (Traffic.All Traffic.IsStream) ((resources net).run.run c)
      ((resources net.recorded).run.run c) :=
  mirrors_fetchAll net c.catalog.kinds c

theorem mirrors_connect (address : String) (config : ClientConfig) :
    Mirrors (Traffic.All Traffic.IsConnection) (connect net address config).run
      (connect net.recorded address config).run :=
  (net.mirrors_connect _ _ _).bind_action fun _ ↦ .pure _

theorem mirrors_connect_dials (address : String) {config : ClientConfig}
    (htimeout : config.dialTimeout.isZero = false) :
    Mirrors
      (fun more ↦ Traffic.dials more = (Network.endpoint address config.tls).toOption.toList)
      (connect net address config).run (connect net.recorded address config).run := by
  refine (net.mirrors_connect_dials address config.tls htimeout).append_action (T := Eq [])
    (fun _ ↦ .pure_of_nil rfl _) rfl ?_
  rintro r _ hr rfl
  rwa [List.append_nil]

theorem mirrors_confirm (address : String) (config : ClientConfig) :
    Mirrors (Traffic.All Traffic.IsConnection) (confirm net address config).run
      (confirm net.recorded address config).run := by
  refine (mirrors_connect net address config).bind_action fun c ↦ ?_
  have hversion := (mirrors_version net c).mono_all fun _ ↦ Traffic.IsStream.isConnection
  exact hversion.lift_action.bind_action fun _ ↦ .pure _

theorem exists_endpoint_of_confirm {net : Network σ κ} {address : String} {config : ClientConfig}
    {n n' : σ} {version : String}
    (h : (confirm net address config).run.run n = (.ok version, n')) :
    config.dialTimeout.isZero = false ∧
      ∃ endpoint, Network.endpoint address config.tls = .ok endpoint := by
  rw [confirm, Action.run_bind, connect, Action.run_bind] at h
  rcases hconnect : (net.connect address config.tls config.dialTimeout).run.run n with
    ⟨e | connection, n₁⟩
  · rw [hconnect] at h
    cases h
  · exact net.exists_endpoint_of_connect hconnect

theorem mirrors_confirm_dials (net : Network σ κ) (address : String) {config : ClientConfig}
    (htimeout : config.dialTimeout.isZero = false) :
    Mirrors
      (fun more ↦ Traffic.dials more = (Network.endpoint address config.tls).toOption.toList)
      (confirm net address config).run (confirm net.recorded address config).run := by
  refine (mirrors_connect_dials net address htimeout).append_action
    (T := Traffic.All Traffic.IsNoDial) (fun c ↦ ?_) (List.forall_mem_nil _) ?_
  · have hversion := (mirrors_version net c).mono_all fun _ ↦ Traffic.IsStream.isNoDial
    exact hversion.lift_action.bind_action fun _ ↦ .pure _
  · intro r s hr hs
    rw [Traffic.dials_append, hs.dials_eq_nil, List.append_nil, hr]

end Client

end MeshSurvey
