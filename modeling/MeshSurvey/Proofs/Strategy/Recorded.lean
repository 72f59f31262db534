import Mathlib.Data.List.Forall2
import MeshSurvey.Discovery.Standard
import MeshSurvey.Proofs.Retrieval.Stream
import MeshSurvey.Proofs.Strategy.Mirrored

/-!
# Chains on recorded networks

The strategies of a chain mirror themselves, and so does the chain: in the recorded network it comes
to the same end. What it is that the record says is of no interest here.
-/

namespace MeshSurvey

variable {σ κ : Type}

theorem Mirrors.anything {α : Type} {Q : List (Traffic κ) → Prop} {a : StateM σ α}
    {b : StateM (σ × List (Traffic κ)) α} (h : Mirrors Q a b) :
    Mirrors (Traffic.All fun _ ↦ True) a b :=
  h.mono fun _ _ _ _ ↦ trivial

/-- In the recorded network the second strategy is what the first one is in the original. -/
structure Strategy.Mirrored (s : Strategy σ) (t : Strategy (σ × List (Traffic κ))) : Prop where
  name_eq : t.name = s.name
  verify_eq : t.verify = s.verify
  run : ∀ known, Mirrors (Traffic.All fun _ ↦ True) (s.run known).run (t.run known).run

namespace Strategy

variable (net : Network σ κ) (config : DiscoveryConfig)

theorem Mirrored.tryOnce {s : Strategy σ} {t : Strategy (σ × List (Traffic κ))} (h : s.Mirrored t)
    (known : DiscoveryState) :
    Mirrors (Traffic.All fun _ ↦ True) (s.tryOnce known).run (t.tryOnce known).run := by
  refine (h.run known).bind_action fun update ↦ ?_
  rw [h.verify_eq]
  cases s.verify update with
  | error e => exact .of_except (.error e)
  | ok _ => exact .pure _

theorem mirrors_askPorts (host : String) (ports : List UInt16) (last : Failure) :
    Mirrors (Traffic.All fun _ ↦ True) (askPorts net config host ports last).run
      (askPorts net.recorded config host ports last).run := by
  induction ports generalizing last with
  | nil => exact .of_except (.error last)
  | cons port ports ih =>
    refine (Client.mirrors_confirm net _ _).anything.attempt.bind_action fun r ↦ ?_
    cases r with
    | error e => exact ih e
    | ok version => exact .pure _

theorem mirrored_wellKnownName :
    (wellKnownName net config).Mirrored (wellKnownName net.recorded config) where
  name_eq := rfl
  verify_eq := rfl
  run known := by
    unfold wellKnownName
    dsimp only
    cases known.namespaceName with
    | none => exact .of_except (.error _)
    | some namespaceName => exact mirrors_askPorts net config _ _ _

theorem mirrored_subnetScan (filter : PodFilter) (routeTable : Except String String) :
    (subnetScan net config filter routeTable).Mirrored
      (subnetScan net.recorded config filter routeTable) where
  name_eq := rfl
  verify_eq := rfl
  run known := by
    refine Mirrors.bind_action (.of_except _) fun table ↦ ?_
    cases RouteTable.defaultGateway table with
    | none => exact .of_except (.error _)
    | some gateway =>
      have hscan := (ScanJob.mirrors_run net (kubeletScan config gateway)).anything
      refine hscan.lift_action.bind_action fun kubelets ↦ ?_
      refine (mirrors_candidates net config filter kubelets).anything.bind_action fun pods ↦ ?_
      exact (mirrors_firstAnswer net config pods none).anything.bind_action fun _ ↦ .pure _

theorem mirrored_sidecarBootstrap :
    (sidecarBootstrap net config).Mirrored (sidecarBootstrap net.recorded config) where
  name_eq := rfl
  verify_eq := rfl
  run known := by
    have hdump : Mirrors (Traffic.All fun _ ↦ True)
        (Sidecar.configDump net config.envoyAdminUrl config.probeTimeout).run
        (Sidecar.configDump net.recorded config.envoyAdminUrl config.probeTimeout).run := by
      refine (net.mirrors_request _ _ _).anything.bind_action fun body ↦ ?_
      cases Json.ofBytes? body with
      | none => exact .of_except (.error _)
      | some v => exact .pure _
    refine hdump.bind_action fun dump ↦ ?_
    cases ConfigDump.discoveryAddress dump with
    | none => exact .of_except (.error _)
    | some address => exact .pure _

end Strategy

namespace Chain

theorem mirrors_tryAll (fact : String) {strategies : List (Strategy σ)}
    {others : List (Strategy (σ × List (Traffic κ)))}
    (h : List.Forall₂ Strategy.Mirrored strategies others) (attempts : List (String × Failure))
    (known : DiscoveryState) :
    Mirrors (Traffic.All fun _ ↦ True) ((tryAll fact attempts strategies).run.run known)
      ((tryAll fact attempts others).run.run known) := by
  induction h generalizing attempts with
  | nil => exact .pure _
  | @cons s t strategies others hhead _ ih =>
    refine (hhead.tryOnce known).bind fun r ↦ ?_
    cases r with
    | error e =>
      rw [hhead.name_eq]
      exact ih _
    | ok update =>
      rw [hhead.name_eq]
      exact .pure _

/-- The chain for the control plane comes to the same end in the recorded network. -/
theorem mirrors_ofControlPlane (net : Network σ κ) (config : DiscoveryConfig)
    (routeTable : Except String String) (known : DiscoveryState) :
    Mirrors (Traffic.All fun _ ↦ True)
      ((Chain.ofControlPlane net config routeTable).run.run.run known)
      ((Chain.ofControlPlane net.recorded config routeTable).run.run.run known) :=
  mirrors_tryAll _ (.cons (Strategy.mirrored_wellKnownName net config)
    (.cons (Strategy.mirrored_subnetScan net config {} routeTable)
      (.cons (Strategy.mirrored_sidecarBootstrap net config) .nil))) _ _

end Chain

end MeshSurvey
