import MeshSurvey.Proofs.Network.Mirrored
import MeshSurvey.Proofs.Scan.Pool
import MeshSurvey.Scan.Job

/-!
# A scan finds what is open

A scan is a pool of the addresses that are to be probed. The same address may be probed more than
once, when a host or a port is given twice, and its probes need not agree. So the targets are told
apart by their *places*: a place is a host and a port of the job, with its position among all of
them. Since a pool does not look at its targets, every run with addresses is a run with places.

However the turns fall, a scan that has ended has given every place one verdict, and has yielded the
addresses of the open places and nothing else. A scan in a network takes some of these runs to its
end.
-/

namespace MeshSurvey

/-! ## The turns of a pool with a reader -/

namespace Pool

variable {α : Type} {limit : Nat} {p : Pool α} {turn : Turn α} {move : PoolMove}

/-- The moves that a turn may come out as. -/
def Turn.Allows : Turn α → PoolMove → Prop
  | .move move, move' => move' = move
  | .settle position _, move' => ∃ isOpen, move' = .settle position isOpen

/-- A turn that is possible while the reader is there, and what makes it so. -/
inductive IsTurn (limit : Nat) (p : Pool α) : Turn α → Prop where
  /-- There is a target to probe, and room for its probe. -/
  | dispatch {target : α} {targets : List α} (hwaiting : p.waiting = target :: targets)
    (hlimit : p.inFlight.length < limit) : IsTurn limit p (.move .dispatch)
  /-- There is a probe to settle. -/
  | settle {position : Nat} {target : α} (hprobe : p.inFlight[position]? = some (.unsettled target)) :
    IsTurn limit p (.settle position target)
  /-- There is a probe to report, and room in the channel. -/
  | report {position : Nat} {target : α} (hprobe : p.inFlight[position]? = some (.reporting target))
    (hlimit : p.channel.length < limit) : IsTurn limit p (.move (.report position))
  /-- There is something to read. -/
  | read {target : α} {targets : List α} (hchannel : p.channel = target :: targets) :
    IsTurn limit p (.move .read)

theorem isTurn_of_mem_turns (hturn : turn ∈ p.turns limit) : p.IsTurn limit turn := by
  rw [turns, List.mem_append, List.mem_append] at hturn
  -- a turn of the dispatcher, of a probe or of the reader
  rcases hturn with (hturn | hturn) | hturn
  · split at hturn
    next hdispatch =>
      rw [Bool.and_eq_true, decide_eq_true_iff] at hdispatch
      obtain rfl := List.mem_singleton.mp hturn
      rcases hwaiting : p.waiting with _ | ⟨target, targets⟩
      · simp [hwaiting] at hdispatch
      · exact .dispatch hwaiting hdispatch.2
    next => cases hturn
  · obtain ⟨⟨probe, position⟩, hmem, hprobe⟩ := List.mem_filterMap.mp hturn
    have hposition : p.inFlight[position]? = some probe := List.mem_zipIdx_iff_getElem?.mp hmem
    cases probe with
    | unsettled target =>
      obtain rfl := Option.some.inj hprobe
      exact .settle hposition
    | reporting target =>
      simp only [probeTurn?] at hprobe
      split at hprobe
      next => cases hprobe
      next hroom =>
        obtain rfl := Option.some.inj hprobe
        exact .report hposition (by simpa using hroom)
  · split at hturn
    next => cases hturn
    next hchannel =>
      obtain rfl := List.mem_singleton.mp hturn
      rcases hcons : p.channel with _ | ⟨target, targets⟩
      · simp [hcons] at hchannel
      · exact .read hcons

theorem IsTurn.exists_step? (hturn : p.IsTurn limit turn) (hthere : p.abandoned = false)
    (hmove : turn.Allows move) : move ≠ .leave ∧ ∃ q, p.step? limit move = some q := by
  cases hturn with
  | dispatch hwaiting hlimit =>
    obtain rfl : move = .dispatch := hmove
    exact ⟨nofun, _, step?_eq_some_iff.mpr (.dispatch hwaiting hlimit)⟩
  | settle hprobe =>
    obtain ⟨isOpen, rfl⟩ := hmove
    exact ⟨nofun, exists_step?_settle hprobe isOpen⟩
  | report hprobe hlimit =>
    obtain rfl : move = .report _ := hmove
    exact ⟨nofun, _, step?_eq_some_iff.mpr (.report hthere hprobe hlimit)⟩
  | read hchannel =>
    obtain rfl : move = .read := hmove
    exact ⟨nofun, _, step?_eq_some_iff.mpr (.read hthere hchannel)⟩

theorem IsTurn.verdict?_eq_none (h : p.IsTurn limit (.move move)) : p.verdict? move = none := by
  cases h <;> rfl

theorem IsTurn.verdict?_eq_some {position : Nat} {target : α}
    (h : p.IsTurn limit (.settle position target)) (isOpen : Bool) :
    p.verdict? (.settle position isOpen) = some (target, isOpen) := by
  cases h with
  | settle hprobe => exact verdict?_settle hprobe isOpen

/-- Some turn is possible until the channel is at its end. -/
theorem hasEnded_of_turns_eq_nil (hlimit : 0 < limit) (h : p.turns limit = []) : p.HasEnded := by
  rw [turns, List.append_eq_nil_iff, List.append_eq_nil_iff] at h
  obtain ⟨⟨hdispatch, hprobes⟩, hread⟩ := h
  have hchannel : p.channel = [] := by
    by_contra hne
    simp [hne] at hread
  -- a probe that reports is kept from its turn by a full channel only
  have hinFlight : p.inFlight = [] := by
    rcases hcons : p.inFlight with _ | ⟨probe, probes⟩
    · rfl
    · have hfirst : (probe, 0) ∈ p.inFlight.zipIdx := by simp [hcons]
      have hnone := List.filterMap_eq_nil_iff.mp hprobes _ hfirst
      cases probe with
      | unsettled target => cases hnone
      | reporting target => simp [probeTurn?, hchannel, Nat.not_le.mpr hlimit] at hnone
  have hwaiting : p.waiting = [] := by
    by_contra hne
    simp [hne, hinFlight, hlimit] at hdispatch
  exact hasEnded_iff.mpr ⟨hwaiting, hinFlight, hchannel⟩

end Pool

namespace ScanJob

/-! ## Places -/

/-- A host and a port of a job. -/
structure Place where
  host : String
  port : UInt16
  /-- Where it stands among the others. -/
  position : Nat
  deriving DecidableEq, Repr

namespace Place

/-- The address that is probed. -/
def address (place : Place) : String := HostPort.join place.host place.port

end Place

/-- The hosts with their ports: host by host, and port by port of each. -/
def pairs (job : ScanJob) : List (String × UInt16) :=
  job.hosts.flatMap fun host ↦ job.ports.map (host, ·)

/-- The places of a job. -/
def places (job : ScanJob) : List Place :=
  job.pairs.zipIdx.map fun (pair, position) ↦ ⟨pair.1, pair.2, position⟩

theorem addresses_eq (job : ScanJob) : job.addresses = job.places.map Place.address := by
  have hpairs : job.pairs = job.pairs.zipIdx.map (·.1) := (List.zipIdx_map_fst 0 job.pairs).symm
  have haddresses : job.addresses = job.pairs.map fun pair ↦ HostPort.join pair.1 pair.2 := by
    rw [addresses, pairs, List.map_flatMap]
    simp only [List.map_map, Function.comp_def]
  rw [haddresses, hpairs, places, List.map_map, List.map_map]
  rfl

/-! ## A scan in a network -/

variable {σ κ : Type}

theorem mirrors_playTurns (net : Network σ κ) (job : ScanJob) (bound : Nat) (pool : Pool String) :
    Mirrors (Traffic.All Traffic.IsNoDial) (job.playTurns net bound pool)
      (job.playTurns net.recorded bound pool) := by
  induction bound generalizing pool with
  | zero => exact .pure _
  | succ bound ih =>
    rw [playTurns, playTurns]
    split
    · exact .pure _
    next first others _ =>
      refine Mirrors.bind (.noting _ fun _ ↦ rfl) fun choice ↦ ?_
      refine Mirrors.bind ?_ fun move ↦ ih _
      cases (first :: others).getD choice first with
      | move move => exact .pure _
      | settle position address =>
        exact Mirrors.bind (.noting _ fun _ ↦ rfl) fun _ ↦ .pure _

theorem mirrors_run (net : Network σ κ) (job : ScanJob) :
    Mirrors (Traffic.All Traffic.IsNoDial) (job.run net) (job.run net.recorded) :=
  (mirrors_playTurns net job _ _).bind fun _ ↦ .pure _

/-- A verdict as it is recorded, with how the address was probed. -/
def noted (job : ScanJob) (verdict : String × Bool) : (ScanProtocol × String) × Bool :=
  ((job.protocol, verdict.1), verdict.2)

/-- What a turn comes out as, and that its verdict, if it gives one, is recorded. -/
theorem exists_run_play (net : Network σ κ) (job : ScanJob) {pool : Pool String}
    {turn : Pool.Turn String} (hturn : pool.IsTurn job.limit turn) (n : σ)
    (record : List (Traffic κ)) :
    ∃ move n' more, turn.Allows move ∧
      Traffic.probes more = (pool.verdict? move).toList.map job.noted ∧
      (job.play net.recorded turn).run (n, record) = (move, (n', record ++ more)) := by
  cases turn with
  | move move =>
    refine ⟨move, n, [], rfl, ?_, ?_⟩
    · rw [hturn.verdict?_eq_none]
      rfl
    · rw [List.append_nil]
      rfl
  | settle position address =>
    refine ⟨.settle position ((net.probe job.protocol address job.timeout).run n).1, _,
      [.probed job.protocol address ((net.probe job.protocol address job.timeout).run n).1],
      ⟨_, rfl⟩, ?_, rfl⟩
    rw [hturn.verdict?_eq_some]
    rfl

/-- While turns are possible, the network takes one of them, and records the verdict it gives. -/
theorem exists_run_playTurns_succ (net : Network σ κ) (job : ScanJob) (bound : Nat)
    {pool : Pool String} (hthere : pool.abandoned = false) (hturns : pool.turns job.limit ≠ [])
    (n : σ) (record : List (Traffic κ)) :
    ∃ move q n' more, move ≠ .leave ∧ pool.step? job.limit move = some q ∧
      Traffic.probes more = (pool.verdict? move).toList.map job.noted ∧
      (job.playTurns net.recorded (bound + 1) pool).run (n, record) =
        (job.playTurns net.recorded bound q).run (n', record ++ more) := by
  obtain ⟨turn, others, hcons⟩ := List.exists_cons_of_ne_nil hturns
  -- a choice that is out of range falls on the first turn
  have hmem : ∀ choice, (turn :: others).getD choice turn ∈ pool.turns job.limit := by
    intro choice
    rw [hcons, List.getD_eq_getElem?_getD]
    rcases hget : (turn :: others)[choice]? with _ | chosen
    · exact List.mem_cons_self
    · exact List.mem_of_getElem? hget
  let chosen := (net.choose (others.length + 1)).run n
  have hturn := Pool.isTurn_of_mem_turns (hmem chosen.1)
  obtain ⟨move, n', more, hallows, hprobes, hplay⟩ := exists_run_play net job hturn chosen.2
    (record ++ [.chose (others.length + 1) chosen.1])
  obtain ⟨hmove, q, hq⟩ := hturn.exists_step? hthere hallows
  refine ⟨move, q, n', [.chose (others.length + 1) chosen.1] ++ more, hmove, hq, hprobes, ?_⟩
  have hstep : (pool.step? job.limit move).getD pool = q := by rw [hq, Option.getD_some]
  rw [playTurns, hcons, ← hstep, ← List.append_assoc]
  change (job.play net.recorded ((turn :: others).getD chosen.1 turn) >>= fun move ↦
    job.playTurns net.recorded bound ((pool.step? job.limit move).getD pool)).run
      (chosen.2, record ++ [.chose (others.length + 1) chosen.1]) = _
  rw [StateT.run_bind, hplay]
  rfl

/-- As many turns as there is work take a pool to its end, and their verdicts are recorded. -/
theorem exists_runs_playTurns (net : Network σ κ) (job : ScanJob) {bound : Nat}
    {first pool : Pool String} {moves : List PoolMove} {verdicts : List (String × Bool)}
    (hrun : Pool.Runs job.limit first moves verdicts pool) (hfirst : first.abandoned = false)
    (hmoves : .leave ∉ moves) (hbound : pool.work ≤ bound) (n : σ) (record : List (Traffic κ)) :
    ∃ moves' more p n' sweep, .leave ∉ moves' ∧
      Pool.Runs job.limit first moves' (verdicts ++ more) p ∧ p.HasEnded ∧
      Traffic.probes sweep = more.map job.noted ∧
      (job.playTurns net.recorded bound pool).run (n, record) = (p, (n', record ++ sweep)) := by
  induction bound generalizing pool moves verdicts n record with
  | zero =>
    have hthere := hrun.abandoned_eq_false hfirst hmoves
    refine ⟨moves, [], pool, n, [], hmoves, ?_, ?_, rfl, ?_⟩
    · rwa [List.append_nil]
    · -- one more turn would be work that is not there
      by_contra hnot
      obtain ⟨move, q, hmove, hturn⟩ := Pool.exists_turn job.limit_pos hthere hnot
      have hless := (Pool.step?_eq_some_iff.mp hturn).work_lt hthere hmove
      omega
    · rw [List.append_nil]
      rfl
  | succ bound ih =>
    have hthere := hrun.abandoned_eq_false hfirst hmoves
    by_cases hturns : pool.turns job.limit = []
    · refine ⟨moves, [], pool, n, [], hmoves, ?_,
        Pool.hasEnded_of_turns_eq_nil job.limit_pos hturns, rfl, ?_⟩
      · rwa [List.append_nil]
      · rw [playTurns, hturns, List.append_nil]
        rfl
    · obtain ⟨move, q, n₁, first', hmove, hturn, hprobes, hplay⟩ :=
        exists_run_playTurns_succ net job bound hthere hturns n record
      have hless := (Pool.step?_eq_some_iff.mp hturn).work_lt hthere hmove
      have hmoves' : .leave ∉ moves ++ [move] := by
        rw [List.mem_append, not_or, List.mem_singleton]
        exact ⟨hmoves, Ne.symm hmove⟩
      obtain ⟨moves', more, p, n', sweep, hmoves'', hrun', hended, hsweep, hplay'⟩ :=
        ih (hrun.snoc hturn) hmoves' (by omega) n₁ (record ++ first')
      refine ⟨moves', (pool.verdict? move).toList ++ more, p, n', first' ++ sweep, hmoves'', ?_,
        hended, ?_, ?_⟩
      · rwa [← List.append_assoc]
      · rw [Traffic.probes_append, hprobes, hsweep, List.map_append]
      · rw [hplay, hplay', List.append_assoc]

/-- **A scan in a network is a run to its end**, whose verdicts are recorded, and yields what the
reader has got there. -/
theorem exists_runs_run_recorded (net : Network σ κ) (job : ScanJob) (n : σ)
    (record : List (Traffic κ)) :
    ∃ moves verdicts p n' sweep, .leave ∉ moves ∧
      Pool.Runs job.limit (Pool.start job.addresses) moves verdicts p ∧ p.HasEnded ∧
      Traffic.probes sweep = verdicts.map job.noted ∧
      (job.run net.recorded).run (n, record) = (p.delivered, (n', record ++ sweep)) := by
  have hnil : Pool.Runs job.limit (Pool.start job.addresses) [] [] (Pool.start job.addresses) :=
    .nil
  obtain ⟨moves, verdicts, p, n', sweep, hmoves, hrun, hended, hsweep, hplay⟩ :=
    exists_runs_playTurns net job hnil rfl List.not_mem_nil (Nat.le_refl _) n record
  refine ⟨moves, verdicts, p, n', sweep, hmoves, hrun, hended, hsweep, ?_⟩
  rw [run, StateT.run_bind, hplay]
  rfl

theorem exists_runs_run (net : Network σ κ) (job : ScanJob) (n : σ) :
    ∃ moves verdicts p, .leave ∉ moves ∧
      Pool.Runs job.limit (Pool.start job.addresses) moves verdicts p ∧ p.HasEnded ∧
      ((job.run net).run n).1 = p.delivered := by
  obtain ⟨moves, verdicts, p, n', sweep, hmoves, hrun, hended, -, hscan⟩ :=
    exists_runs_run_recorded net job n []
  refine ⟨moves, verdicts, p, hmoves, hrun, hended, ?_⟩
  rw [(mirrors_run net job).run_eq hscan]

/-- A scan probes its addresses as its protocol says, each as often as it has places, and yields
those that were found open. -/
theorem exists_sweep (net : Network σ κ) (job : ScanJob) (n : σ) (record : List (Traffic κ)) :
    ∃ found n' sweep, (job.run net.recorded).run (n, record) = (found, (n', record ++ sweep)) ∧
      ((Traffic.probes sweep).map (·.1)).Perm (job.addresses.map (job.protocol, ·)) ∧
      found.Perm (((Traffic.probes sweep).filter (·.2)).map (·.1.2)) := by
  obtain ⟨moves, verdicts, p, n', sweep, hmoves, hrun, hended, hsweep, hscan⟩ :=
    exists_runs_run_recorded net job n record
  obtain ⟨hall, hopened⟩ := (hrun.accounted hmoves).of_hasEnded hended
  refine ⟨p.delivered, n', sweep, hscan, ?_, ?_⟩
  · have hprobes : (verdicts.map job.noted).map (·.1) =
        (verdicts.map (·.1)).map (job.protocol, ·) := by
      rw [List.map_map, List.map_map]
      rfl
    rw [hsweep, hprobes]
    exact hall.map _
  · have hopen : ((verdicts.map job.noted).filter (·.2)).map (·.1.2) = Pool.opened verdicts := by
      rw [List.filter_map, List.map_map]
      rfl
    rw [hsweep, hopen]
    exact hopened

/-! ## Every run of a scan -/

/-- **A scan yields the addresses of its open places, each once, in whatever order turns are
taken.** No more probes are in flight than are wanted, or one. While the reader stays, the run is
one with places; at its end every place has one verdict, and the reader has got the addresses of the
open ones. Short of the end some turn is possible, and the end comes within four turns for each
place. Once the reader has left, the dispatcher and every probe can end by a turn of their own. A
scan in a network is such a run, taken to its end. -/
theorem yields_each_open_place_once (job : ScanJob) :
    (∀ (moves : List PoolMove) (verdicts : List (String × Bool)) (p : Pool String),
      Pool.Runs job.limit (Pool.start job.addresses) moves verdicts p →
      p.inFlight.length ≤ max job.concurrency 1 ∧
      (.leave ∉ moves →
        (∃ (settled : List (Place × Bool)) (p' : Pool Place),
          Pool.Runs job.limit (Pool.start job.places) moves settled p' ∧
          p = p'.map Place.address ∧
          (p.HasEnded → (settled.map (·.1)).Perm job.places ∧
            p.delivered.Perm ((settled.filter (·.2)).map fun verdict ↦ verdict.1.address))) ∧
        (p.waiting ≠ [] ∨ p.inFlight ≠ [] ∨ p.channel ≠ [] →
          ∃ move q, move ≠ .leave ∧ p.step? job.limit move = some q) ∧
        moves.length ≤ 4 * job.places.length) ∧
      (.leave ∈ moves →
        (∃ q, p.step? job.limit .stopDispatch = some q ∧ q.waiting = []) ∧
        ∀ position probe, p.inFlight[position]? = some probe →
          ∃ move, (move = .stop position ∨ move = .report position) ∧
            p.step? job.limit move = some (p.drop position))) ∧
    ∀ (σ κ : Type) (net : Network σ κ) (n : σ), ∃ moves verdicts p, .leave ∉ moves ∧
      Pool.Runs job.limit (Pool.start job.addresses) moves verdicts p ∧ p.HasEnded ∧
      ((job.run net).run n).1 = p.delivered := by
  refine ⟨?_, fun σ κ net n ↦ exists_runs_run net job n⟩
  intro moves verdicts p hrun
  have hstart : (Pool.start job.addresses).abandoned = false := rfl
  refine ⟨?_, ?_, ?_⟩
  · exact (hrun.length_le ⟨Nat.zero_le _, Nat.zero_le _⟩).1
  · intro hmoves
    refine ⟨?_, ?_, ?_⟩
    · have hplaces := hrun
      rw [addresses_eq, ← Pool.map_start] at hplaces
      obtain ⟨settled, p', hrun', -, rfl⟩ := hplaces.exists_of_map
      refine ⟨settled, p', hrun', rfl, ?_⟩
      intro hended
      obtain ⟨hall, hopened⟩ := (hrun'.accounted hmoves).of_hasEnded (Pool.hasEnded_map.mp hended)
      refine ⟨hall, (hopened.map Place.address).trans (.of_eq ?_)⟩
      rw [Pool.opened, List.map_map]
      rfl
    · intro hmore
      refine Pool.exists_turn job.limit_pos (hrun.abandoned_eq_false hstart hmoves) ?_
      rw [Pool.hasEnded_iff, not_and_or, not_and_or]
      exact hmore
    · have hwork := hrun.length_add_work_le hstart hmoves
      have htotal : (Pool.start job.addresses).work = 4 * job.places.length := by
        rw [addresses_eq]
        simp [Pool.work, Pool.start, Pool.probesWork]
      omega
  · intro hmoves
    have hleft := (hrun.abandoned_iff hstart).mpr hmoves
    refine ⟨⟨_, Pool.step?_stopDispatch hleft, rfl⟩, ?_⟩
    intro position probe hprobe
    exact Pool.exists_turn_of_probe hleft hprobe

/-- A host that is given twice has two places. Of two probes of one address the first may find it
open and the second closed, and then the address is yielded once. -/
theorem yields_each_open_place_once_of_two :
    let job : ScanJob :=
      { hosts := ["::1", "::1"], ports := [80], protocol := .tcp, concurrency := 0 }
    let moves := [.dispatch, .settle 0 true, .report 0, .dispatch, .settle 0 false, .read]
    let last : Pool String := { waiting := [], delivered := ["[::1]:80"] }
    Pool.Runs job.limit (Pool.start job.addresses) moves
        [("[::1]:80", true), ("[::1]:80", false)] last ∧ .leave ∉ moves ∧ last.HasEnded ∧
      ∃ settled : List (Place × Bool), (settled.map (·.1)).Perm job.places ∧
        last.delivered.Perm ((settled.filter (·.2)).map fun verdict ↦ verdict.1.address) := by
  intro job moves last
  have hrun : Pool.Runs job.limit (Pool.start job.addresses) moves
      [("[::1]:80", true), ("[::1]:80", false)] last := by decide +kernel
  have hended : last.HasEnded := ⟨rfl, rfl⟩
  have hmoves : .leave ∉ moves := by decide
  obtain ⟨settled, -, -, -, hyields⟩ :=
    (((yields_each_open_place_once job).1 moves _ last hrun).2.1 hmoves).1
  exact ⟨hrun, hmoves, hended, settled, hyields hended⟩

end ScanJob

end MeshSurvey
