import Mathlib.Data.List.Forall2
import MeshSurvey.Discovery.PodFilter

/-!
# Which pods are selected

A pod is selected if it carries one of the labels of the control plane, runs, is not known to be
unready, and has an address. What is known of it then is its name, its address, and the two ports
that are meant: a number stands for itself, and a name for the first port of a regular container
that has it, which may have a number that no port can have.

Every pod of a list is selected for itself, whatever else is in the list.
-/

namespace MeshSurvey

open Kubernetes (Container ContainerPort ObjectCondition Pod PodStatus)

/-- An item of a list has a property, and none before it does. -/
def IsFirstWith {α : Type} (P : α → Prop) (items : List α) (x : α) : Prop :=
  P x ∧ ∃ before after, items = before ++ x :: after ∧ ∀ y ∈ before, ¬ P y

theorem find?_eq_some_iff_isFirstWith {α : Type} {P : α → Prop} [DecidablePred P] {items : List α}
    {x : α} : items.find? (fun y ↦ decide (P y)) = some x ↔ IsFirstWith P items x := by
  simp only [List.find?_eq_some_iff_append, decide_eq_true_eq, IsFirstWith, Bool.not_eq_true',
    decide_eq_false_iff_not]

/-! ## Ports -/

namespace PortRef

/-- Which port is meant, if one is, given the ports of the containers. -/
inductive Means (ports : List ContainerPort) : PortRef → Option UInt16 → Prop where
  /-- A number stands for itself. -/
  | number (port : UInt16) : Means ports (.number port) (some port)
  /-- A name stands for the first port that has it. -/
  | named {name : String} {p : ContainerPort} {port : UInt16}
    (hfirst : IsFirstWith (·.name = some name) ports p)
    (hport : p.containerPort.toInt = port.toNat) : Means ports (.name name) (some port)
  /-- The first port that has the name has no number of a port. -/
  | outOfRange {name : String} {p : ContainerPort}
    (hfirst : IsFirstWith (·.name = some name) ports p)
    (hrange : p.containerPort.toInt < 0 ∨ 65535 < p.containerPort.toInt) :
    Means ports (.name name) none
  /-- No port has the name. -/
  | unknown {name : String} (h : ∀ p ∈ ports, p.name ≠ some name) : Means ports (.name name) none

variable {ports : List ContainerPort} {name : String} {p : ContainerPort}

theorem resolve_of_isFirstWith (h : IsFirstWith (·.name = some name) ports p) :
    resolve ports (.name name) =
      if 0 ≤ p.containerPort.toInt ∧ p.containerPort.toInt.toNat < UInt16.size then
        some (.ofNat p.containerPort.toInt.toNat)
      else none := by
  simp only [resolve, find?_eq_some_iff_isFirstWith.mpr h]

theorem resolve_of_forall_ne (h : ∀ p ∈ ports, p.name ≠ some name) :
    resolve ports (.name name) = none := by
  have hnone : ports.find? (·.name = some name) = none :=
    List.find?_eq_none.mpr fun p hp ↦ by simpa using h p hp
  rw [resolve, hnone]

theorem resolve_eq_iff {ref : PortRef} {port? : Option UInt16} :
    ref.resolve ports = port? ↔ ref.Means ports port? := by
  constructor
  · rintro rfl
    cases ref with
    | number port => exact .number port
    | name name =>
      cases hfind : ports.find? (·.name = some name) with
      | none =>
        have hnone : ∀ p ∈ ports, p.name ≠ some name := by simpa using hfind
        rw [resolve_of_forall_ne hnone]
        exact .unknown hnone
      | some p =>
        have hfirst := find?_eq_some_iff_isFirstWith.mp hfind
        rw [resolve_of_isFirstWith hfirst]
        split
        next hrange =>
          refine .named hfirst ?_
          rw [UInt16.toNat_ofNat_of_lt' hrange.2, Int.toNat_of_nonneg hrange.1]
        next hrange =>
          refine .outOfRange hfirst ?_
          simp only [UInt16.size] at hrange
          omega
  · intro h
    cases h with
    | number port => rfl
    | @named _ p port hfirst hport =>
      have hrange : 0 ≤ p.containerPort.toInt ∧ p.containerPort.toInt.toNat < UInt16.size := by
        rw [hport, Int.toNat_natCast]
        exact ⟨Int.natCast_nonneg _, port.toNat_lt_size⟩
      rw [resolve_of_isFirstWith hfirst, if_pos hrange, hport, Int.toNat_natCast,
        UInt16.ofNat_toNat]
    | outOfRange hfirst hrange =>
      rw [resolve_of_isFirstWith hfirst, if_neg]
      simp only [UInt16.size]
      omega
    | unknown hnone => exact resolve_of_forall_ne hnone

theorem Means.unique {ref : PortRef} {port? port?' : Option UInt16} (h : ref.Means ports port?)
    (h' : ref.Means ports port?') : port? = port?' :=
  (resolve_eq_iff.mpr h).symm.trans (resolve_eq_iff.mpr h')

theorem Means.map_eq_iff {ref : PortRef} {port? : Option UInt16} (h : ref.Means ports port?)
    {α : Type} {reach : UInt16 → α} {x : Option α} :
    port?.map reach = x ↔ ∃ port?, ref.Means ports port? ∧ x = port?.map reach := by
  constructor
  · rintro rfl
    exact ⟨port?, h, rfl⟩
  · rintro ⟨port?', h', rfl⟩
    rw [h.unique h']

/-- A later port is not taken for the first one. -/
example :
    resolve [⟨70000, some "grpc-xds"⟩, ⟨15010, some "grpc-xds"⟩] (.name "grpc-xds") = none := by
  decide

end PortRef

namespace PodFilter

/-! ## Pods -/

/-- A pod runs, and the first word on its readiness, if there is one, is that it is ready. -/
structure IsWell (status : PodStatus) : Prop where
  phase : status.phase = some "Running"
  ready : ∀ c, IsFirstWith (·.type = "Ready") (status.conditions.getD []) c → c.status = "True"

/-- A pod of the control plane, at an address. -/
structure SelectsAt (f : PodFilter) (pod : Pod) (ip : IP) : Prop where
  /-- It carries one of the labels, with its value. -/
  label : ∃ labels, pod.metadata.labels = some labels ∧
    ∃ key value, (key, value) ∈ f.labels ∧ labels.get? key = some value
  /-- It is well. -/
  well : ∃ status, pod.status = some status ∧ IsWell status
  /-- It has the address. -/
  address : ∃ status text, pod.status = some status ∧ status.podIP = some text ∧
    IP.read text.toList = some ip

/-- A pod of the control plane. -/
def Selects (f : PodFilter) (pod : Pod) : Prop := ∃ ip, f.SelectsAt pod ip

/-- What is known of a pod that is selected. -/
structure Shows (f : PodFilter) (pod : Pod) (p : ControlPlanePod) : Prop where
  selectsAt : f.SelectsAt pod p.ip
  name : p.name = pod.metadata.fullName
  discovery : f.discovery.Means (containerPorts pod) p.discovery
  debug : f.debug.Means (containerPorts pod) p.debug

variable {f : PodFilter} {pod : Pod} {ip : IP} {p : ControlPlanePod}

theorem hasLabel_iff : f.hasLabel pod = true ↔ ∃ labels, pod.metadata.labels = some labels ∧
    ∃ key value, (key, value) ∈ f.labels ∧ labels.get? key = some value := by
  rw [hasLabel]
  split
  next labels hlabels => simp [hlabels]
  next hlabels => simp [hlabels]

theorem isReady_iff : isReady pod = true ↔ ∃ status, pod.status = some status ∧ IsWell status := by
  rw [isReady]
  split
  next status hstatus =>
    simp only [hstatus, Bool.and_eq_true, decide_eq_true_eq, Option.some.injEq, exists_eq_left']
    constructor
    · rintro ⟨hphase, hready⟩
      refine ⟨hphase, fun c hfirst ↦ ?_⟩
      rw [find?_eq_some_iff_isFirstWith.mpr hfirst] at hready
      exact of_decide_eq_true hready
    · intro h
      refine ⟨h.phase, ?_⟩
      split
      next c hfind => exact decide_eq_true (h.ready c (find?_eq_some_iff_isFirstWith.mp hfind))
      next => rfl
  next hnone => simp [hnone]

theorem address?_eq_some_iff : address? pod = some ip ↔ ∃ status text, pod.status = some status ∧
    status.podIP = some text ∧ IP.read text.toList = some ip := by
  simp only [address?, Option.bind_eq_some_iff]
  constructor
  · rintro ⟨text, ⟨status, hstatus, htext⟩, hread⟩
    exact ⟨status, text, hstatus, htext, hread⟩
  · rintro ⟨status, text, hstatus, htext, hread⟩
    exact ⟨text, ⟨status, hstatus, htext⟩, hread⟩

theorem candidate_eq_some_iff : f.candidate pod = some p ↔ f.Shows pod p := by
  simp only [candidate, Option.ite_none_right_eq_some, Bool.and_eq_true, Option.map_eq_some_iff,
    hasLabel_iff, isReady_iff, address?_eq_some_iff]
  constructor
  · rintro ⟨⟨hlabel, hwell⟩, ip, haddress, rfl⟩
    exact ⟨⟨hlabel, hwell, haddress⟩, rfl, PortRef.resolve_eq_iff.mp rfl,
      PortRef.resolve_eq_iff.mp rfl⟩
  · intro h
    refine ⟨⟨h.selectsAt.label, h.selectsAt.well⟩, p.ip, h.selectsAt.address, ?_⟩
    rw [PortRef.resolve_eq_iff.mpr h.discovery, PortRef.resolve_eq_iff.mpr h.debug, ← h.name]

theorem isSome_candidate_iff : (f.candidate pod).isSome = true ↔ f.Selects pod := by
  rw [Option.isSome_iff_exists]
  constructor
  · rintro ⟨p, hp⟩
    exact ⟨p.ip, (candidate_eq_some_iff.mp hp).selectsAt⟩
  · rintro ⟨ip, h⟩
    exact ⟨⟨pod.metadata.fullName, ip, _, _⟩, candidate_eq_some_iff.mpr
      ⟨h, rfl, PortRef.resolve_eq_iff.mp rfl, PortRef.resolve_eq_iff.mp rfl⟩⟩

instance (f : PodFilter) : DecidablePred f.Selects :=
  fun _ ↦ decidable_of_iff _ isSome_candidate_iff

/-! ## Lists of pods -/

variable {pods others : List Pod}

/-- What is selected is what is known of the pods of the control plane, one by one. -/
theorem forall₂_select (f : PodFilter) (pods : List Pod) :
    List.Forall₂ f.Shows (pods.filter (f.Selects ·)) (f.select pods) := by
  rw [select]
  induction pods with
  | nil => exact .nil
  | cons pod pods ih =>
    cases hcandidate : f.candidate pod with
    | none =>
      have hnot : ¬ f.Selects pod := by simp [← isSome_candidate_iff, hcandidate]
      rw [List.filter_cons_of_neg (by simpa using hnot), List.filterMap_cons_none hcandidate]
      exact ih
    | some p =>
      have hselects : f.Selects pod := by simp [← isSome_candidate_iff, hcandidate]
      rw [List.filter_cons_of_pos (by simpa using hselects), List.filterMap_cons_some hcandidate]
      exact .cons (candidate_eq_some_iff.mp hcandidate) ih

/-- The pod with other containers that run before its regular ones. -/
def withInitContainers (pod : Pod) (containers : Option (List Container)) : Pod :=
  { pod with spec := pod.spec.map fun spec ↦ { spec with initContainers := containers } }

theorem candidate_withInitContainers (f : PodFilter) (pod : Pod)
    (containers : Option (List Container)) :
    f.candidate (withInitContainers pod containers) = f.candidate pod := by
  have hports : containerPorts (withInitContainers pod containers) = containerPorts pod := by
    rw [containerPorts, containerPorts, withInitContainers]
    cases pod.spec <;> rfl
  rw [candidate, candidate, hports]
  rfl

theorem select_withInitContainers (f : PodFilter)
    (h : List.Forall₂ (fun pod other ↦ ∃ containers, other = withInitContainers pod containers)
      pods others) : f.select others = f.select pods := by
  simp only [select]
  induction h with
  | nil => rfl
  | cons hhead _ ih =>
    obtain ⟨containers, rfl⟩ := hhead
    rw [List.filterMap_cons, List.filterMap_cons, candidate_withInitContainers, ih]

end PodFilter

end MeshSurvey
