import Mathlib.Data.List.Induction
import Mathlib.Data.List.Perm.Basic
import MeshSurvey.Scan.Pool

/-!
# Runs of a pool

Dispatcher, probes and reader take their turns in any order. What is said here is said of every
order: a *run* is a sequence of turns, each possible when it is taken, and every claim about runs is
kept by a single turn. So the cases of a turn are told apart once, in `Turned`, and nothing that is
said of runs looks into the step function again. That a run comes to an end is said by its *work*,
which no turn leaves as great as it was.

A run also notes its *verdicts*: the targets whose probes have settled, and whether they are open.
While the reader is there nothing is lost and nothing is made up, in two accounts: every target
waits, is being probed, or has its verdict; and every target with the verdict open is on its way to
the channel, in the channel, or with the reader.
-/

namespace MeshSurvey

variable {α β : Type}

namespace Probe

/-- The target of a probe that has not settled yet. -/
def unsettled? : Probe α → Option α
  | .unsettled target => some target
  | .reporting _ => none

/-- The target of a probe that has found it open. -/
def reporting? : Probe α → Option α
  | .unsettled _ => none
  | .reporting target => some target

/-- A probe of another target, as far as the first one is. -/
def map (f : α → β) : Probe α → Probe β
  | .unsettled target => .unsettled (f target)
  | .reporting target => .reporting (f target)

end Probe

namespace Pool

variable {limit : Nat} {p q first : Pool α} {move : PoolMove} {moves : List PoolMove}
  {verdicts : List (α × Bool)}

/-! ## One turn -/

/-- The target of the probe that settles in a turn, and whether it is open. -/
def verdict? (p : Pool α) : PoolMove → Option (α × Bool)
  | .settle position isOpen =>
    match p.inFlight[position]? with
    | some (.unsettled target) => some (target, isOpen)
    | _ => none
  | _ => none

theorem verdict?_settle {position : Nat} {target : α}
    (h : p.inFlight[position]? = some (.unsettled target)) (isOpen : Bool) :
    p.verdict? (.settle position isOpen) = some (target, isOpen) := by
  rw [verdict?, h]

/-- What a turn does to a pool, and the verdict that it gives. -/
inductive Turned (limit : Nat) (p : Pool α) : PoolMove → Option (α × Bool) → Pool α → Prop where
  /-- A probe is started. -/
  | dispatch {target : α} {targets : List α} (hwaiting : p.waiting = target :: targets)
      (hlimit : p.inFlight.length < limit) :
      Turned limit p .dispatch none
        { p with waiting := targets, inFlight := p.inFlight ++ [.unsettled target] }
  /-- Nothing more is probed for a reader who has left. -/
  | stopDispatch (hleft : p.abandoned = true) :
      Turned limit p .stopDispatch none { p with waiting := [] }
  /-- A probe finds its target open. -/
  | settleOpen {position : Nat} {target : α}
      (hprobe : p.inFlight[position]? = some (.unsettled target)) :
      Turned limit p (.settle position true) (some (target, true))
        { p with inFlight := p.inFlight.set position (.reporting target) }
  /-- A probe finds its target closed. -/
  | settleClosed {position : Nat} {target : α}
      (hprobe : p.inFlight[position]? = some (.unsettled target)) :
      Turned limit p (.settle position false) (some (target, false)) (p.drop position)
  /-- A probe puts its target into the channel. -/
  | report {position : Nat} {target : α} (hthere : p.abandoned = false)
      (hprobe : p.inFlight[position]? = some (.reporting target))
      (hlimit : p.channel.length < limit) :
      Turned limit p (.report position) none
        { p.drop position with channel := p.channel ++ [target] }
  /-- A probe reports to nobody. -/
  | reportToNobody {position : Nat} {target : α} (hleft : p.abandoned = true)
      (hprobe : p.inFlight[position]? = some (.reporting target)) :
      Turned limit p (.report position) none (p.drop position)
  /-- A probe stops for a reader who has left. -/
  | stop {position : Nat} {target : α} (hleft : p.abandoned = true)
      (hprobe : p.inFlight[position]? = some (.unsettled target)) :
      Turned limit p (.stop position) none (p.drop position)
  /-- The reader takes a target. -/
  | read {target : α} {targets : List α} (hthere : p.abandoned = false)
      (hchannel : p.channel = target :: targets) :
      Turned limit p .read none
        { p with channel := targets, delivered := p.delivered ++ [target] }
  /-- The reader leaves. -/
  | leave (hthere : p.abandoned = false) :
      Turned limit p .leave none { p with channel := [], abandoned := true }

theorem turned_of_step? (h : p.step? limit move = some q) :
    p.Turned limit move (p.verdict? move) q := by
  -- the guards of a turn are the hypotheses of its constructor
  cases move with
  | dispatch =>
    rw [step?] at h
    split at h
    next target targets hwaiting =>
      split at h
      next hlimit =>
        obtain rfl := Option.some.inj h
        exact .dispatch hwaiting hlimit
      next => contradiction
    next => contradiction
  | stopDispatch =>
    rw [step?] at h
    split at h
    next hleft =>
      obtain rfl := Option.some.inj h
      exact .stopDispatch hleft
    next => contradiction
  | settle position isOpen =>
    rw [step?] at h
    split at h
    next target hprobe =>
      rw [verdict?_settle hprobe]
      cases isOpen with
      | true =>
        rw [if_pos rfl] at h
        obtain rfl := Option.some.inj h
        exact .settleOpen hprobe
      | false =>
        rw [if_neg Bool.false_ne_true] at h
        obtain rfl := Option.some.inj h
        exact .settleClosed hprobe
    next => contradiction
  | report position =>
    rw [step?] at h
    split at h
    next target hprobe =>
      by_cases hleft : p.abandoned = true
      · rw [if_pos hleft] at h
        obtain rfl := Option.some.inj h
        exact .reportToNobody hleft hprobe
      · rw [if_neg hleft] at h
        split at h
        next hlimit =>
          obtain rfl := Option.some.inj h
          exact .report (eq_false_of_ne_true hleft) hprobe hlimit
        next => contradiction
    next => contradiction
  | stop position =>
    rw [step?] at h
    split at h
    next target hprobe =>
      split at h
      next hleft =>
        obtain rfl := Option.some.inj h
        exact .stop hleft hprobe
      next => contradiction
    next => contradiction
  | read =>
    rw [step?] at h
    split at h
    next target targets hchannel =>
      split at h
      next => contradiction
      next hthere =>
        obtain rfl := Option.some.inj h
        exact .read (eq_false_of_ne_true hthere) hchannel
    next => contradiction
  | leave =>
    rw [step?] at h
    split at h
    next => contradiction
    next hthere =>
      obtain rfl := Option.some.inj h
      exact .leave (eq_false_of_ne_true hthere)

theorem Turned.step?_eq {verdict : Option (α × Bool)} (h : p.Turned limit move verdict q) :
    p.step? limit move = some q := by
  cases h with
  | dispatch hwaiting hlimit => simp only [step?, hwaiting, if_pos hlimit]
  | stopDispatch hleft => rw [step?, if_pos hleft]
  | settleOpen hprobe => simp only [step?, hprobe, if_pos]
  | settleClosed hprobe => simp only [step?, hprobe, Bool.false_eq_true, if_false]
  | report hthere hprobe hlimit =>
    simp only [step?, hprobe, hthere, Bool.false_eq_true, if_false, if_pos hlimit]
  | reportToNobody hleft hprobe => simp only [step?, hprobe, if_pos hleft]
  | stop hleft hprobe => simp only [step?, hprobe, if_pos hleft]
  | read hthere hchannel => simp only [step?, hchannel, hthere, Bool.false_eq_true, if_false]
  | leave hthere => simp only [step?, hthere, Bool.false_eq_true, if_false]

/-- **The turns that are possible are those described.** -/
theorem step?_eq_some_iff :
    p.step? limit move = some q ↔ p.Turned limit move (p.verdict? move) q :=
  ⟨turned_of_step?, Turned.step?_eq⟩

theorem exists_step?_settle {position : Nat} {target : α}
    (h : p.inFlight[position]? = some (.unsettled target)) (isOpen : Bool) :
    ∃ q, p.step? limit (.settle position isOpen) = some q := by
  simp only [step?_eq_some_iff, verdict?_settle h]
  cases isOpen with
  | true => exact ⟨_, .settleOpen h⟩
  | false => exact ⟨_, .settleClosed h⟩

/-! ## Probes in flight and the work that is left -/

theorem perm_inFlight {position : Nat} {probe : Probe α}
    (h : p.inFlight[position]? = some probe) :
    p.inFlight.Perm (probe :: (p.drop position).inFlight) := by
  obtain ⟨hlt, rfl⟩ := List.getElem?_eq_some_iff.mp h
  exact (List.getElem_cons_eraseIdx_perm hlt).symm

theorem perm_set_inFlight {position : Nat} {probe : Probe α}
    (h : p.inFlight[position]? = some probe) (probe' : Probe α) :
    (p.inFlight.set position probe').Perm (probe' :: (p.drop position).inFlight) :=
  List.set_perm_cons_eraseIdx (List.getElem?_eq_some_iff.mp h).1 probe'

theorem probesWork_eq_of_perm {probes others : List (Probe α)} (h : probes.Perm others) :
    probesWork probes = probesWork others := by
  induction h with
  | nil => rfl
  | cons probe _ ih => rw [probesWork, probesWork, ih]
  | swap probe other probes =>
    simp only [probesWork]
    exact Nat.add_left_comm ..
  | trans _ _ ih ih' => exact ih.trans ih'

theorem work_of_getElem? {position : Nat} {probe : Probe α}
    (h : p.inFlight[position]? = some probe) :
    p.work = (p.drop position).work + probeWork probe := by
  have hprobes : probesWork p.inFlight =
      probeWork probe + probesWork (p.drop position).inFlight :=
    probesWork_eq_of_perm (perm_inFlight h)
  simp only [work, drop] at hprobes ⊢
  omega

/-- While the reader is there, every turn leaves less to do. -/
theorem Turned.work_lt {verdict : Option (α × Bool)} (h : p.Turned limit move verdict q)
    (hthere : p.abandoned = false) (hmove : move ≠ .leave) : q.work < p.work := by
  cases h with
  | @dispatch target targets hwaiting =>
    have hprobes := probesWork_eq_of_perm (List.perm_append_singleton (.unsettled target) p.inFlight)
    simp only [work, hwaiting, hprobes, probesWork, probeWork, List.length_cons]
    omega
  | stopDispatch hleft => exact absurd hleft (ne_true_of_eq_false hthere)
  | @settleOpen position target hprobe =>
    have hprobes := probesWork_eq_of_perm (perm_set_inFlight hprobe (.reporting target))
    have hwork := work_of_getElem? hprobe
    simp only [work, drop, hprobes, probesWork, probeWork] at hwork ⊢
    omega
  | settleClosed hprobe =>
    rw [work_of_getElem? hprobe]
    exact Nat.lt_add_of_pos_right (Nat.succ_pos 2)
  | report _ hprobe =>
    have hwork := work_of_getElem? hprobe
    simp only [work, drop, probeWork, List.length_append, List.length_singleton] at hwork ⊢
    omega
  | reportToNobody hleft => exact absurd hleft (ne_true_of_eq_false hthere)
  | stop hleft => exact absurd hleft (ne_true_of_eq_false hthere)
  | read _ hchannel => simp [work, hchannel]
  | leave => exact absurd rfl hmove

/-! ## Runs -/

/-- A run from one pool to another: its turns in order, and the verdicts that they give. -/
inductive Runs (limit : Nat) (first : Pool α) :
    List PoolMove → List (α × Bool) → Pool α → Prop where
  /-- No turn has been taken. -/
  | nil : Runs limit first [] [] first
  /-- One more turn is taken. -/
  | snoc {moves : List PoolMove} {verdicts : List (α × Bool)} {p q : Pool α} {move : PoolMove}
      (hrun : Runs limit first moves verdicts p) (hturn : p.step? limit move = some q) :
      Runs limit first (moves ++ [move]) (verdicts ++ (p.verdict? move).toList) q

/-- The verdicts and the pool after one more turn, if it is possible. -/
def take? (limit : Nat) (taken : List (α × Bool) × Pool α) (move : PoolMove) :
    Option (List (α × Bool) × Pool α) :=
  (taken.2.step? limit move).map fun q ↦ (taken.1 ++ (taken.2.verdict? move).toList, q)

/-- The verdicts and the pool after some turns, if these are possible one after another. -/
def play? (limit : Nat) (first : Pool α) (moves : List PoolMove) :
    Option (List (α × Bool) × Pool α) :=
  moves.foldlM (take? limit) ([], first)

theorem play?_append_singleton (limit : Nat) (first : Pool α) (moves : List PoolMove)
    (move : PoolMove) :
    first.play? limit (moves ++ [move]) =
      (first.play? limit moves).bind fun taken ↦ take? limit taken move := by
  rw [play?, List.foldlM_append]
  simp only [List.foldlM_cons, List.foldlM_nil, bind_pure]
  rfl

/-- A run is determined by its turns, and can be found by taking them. -/
theorem runs_iff : Runs limit first moves verdicts p ↔
    first.play? limit moves = some (verdicts, p) := by
  constructor
  · intro h
    induction h with
    | nil => rfl
    | snoc hrun hturn ih =>
      rw [play?_append_singleton, ih, Option.bind_some, take?, hturn, Option.map_some]
  · intro h
    -- a run grows at its end, so its turns are taken off there
    induction moves using List.reverseRecOn generalizing verdicts p with
    | nil =>
      obtain ⟨rfl, rfl⟩ := Prod.mk.inj (Option.some.inj h)
      exact .nil
    | append_singleton moves move ih =>
      rw [play?_append_singleton, Option.bind_eq_some_iff] at h
      obtain ⟨⟨verdicts', p'⟩, hplay, hlast⟩ := h
      obtain ⟨q, hturn, hq⟩ := Option.map_eq_some_iff.mp hlast
      obtain ⟨rfl, rfl⟩ := Prod.mk.inj hq
      exact (ih hplay).snoc hturn

instance [DecidableEq α] : Decidable (Runs limit first moves verdicts p) :=
  decidable_of_iff _ runs_iff.symm

theorem Runs.abandoned_iff (h : Runs limit first moves verdicts p)
    (hstart : first.abandoned = false) : p.abandoned = true ↔ .leave ∈ moves := by
  induction h with
  | nil => simp [hstart]
  | @snoc moves verdicts p q move hrun hturn ih =>
    rw [List.mem_append, ← ih, List.mem_singleton]
    rw [step?_eq_some_iff] at hturn
    generalize p.verdict? move = verdict at hturn
    cases hturn with
    | leave => simp
    | _ => simp [drop]

theorem Runs.abandoned_eq_false (h : Runs limit first moves verdicts p)
    (hstart : first.abandoned = false) (hmoves : .leave ∉ moves) : p.abandoned = false := by
  rw [← Bool.not_eq_true, h.abandoned_iff hstart]
  exact hmoves

/-! ### Bounds -/

theorem length_drop_le (p : Pool α) (position : Nat) :
    (p.drop position).inFlight.length ≤ p.inFlight.length :=
  List.length_eraseIdx_le _ _

/-- **Neither the probes in flight nor the channel exceed the limit.** -/
theorem Runs.length_le (h : Runs limit first moves verdicts p)
    (hstart : first.inFlight.length ≤ limit ∧ first.channel.length ≤ limit) :
    p.inFlight.length ≤ limit ∧ p.channel.length ≤ limit := by
  induction h with
  | nil => exact hstart
  | @snoc moves verdicts p q move hrun hturn ih =>
    obtain ⟨hprobes, hchannel⟩ := ih
    rw [step?_eq_some_iff] at hturn
    generalize p.verdict? move = verdict at hturn
    cases hturn with
    | dispatch _ hlimit =>
      refine ⟨?_, hchannel⟩
      rw [List.length_append, List.length_singleton]
      exact hlimit
    | stopDispatch => exact ⟨hprobes, hchannel⟩
    | settleOpen =>
      refine ⟨?_, hchannel⟩
      rwa [List.length_set]
    | settleClosed => exact ⟨Nat.le_trans (p.length_drop_le _) hprobes, hchannel⟩
    | report _ _ hlimit =>
      refine ⟨Nat.le_trans (p.length_drop_le _) hprobes, ?_⟩
      rw [List.length_append, List.length_singleton]
      exact hlimit
    | reportToNobody => exact ⟨Nat.le_trans (p.length_drop_le _) hprobes, hchannel⟩
    | stop => exact ⟨Nat.le_trans (p.length_drop_le _) hprobes, hchannel⟩
    | read _ hcons =>
      refine ⟨hprobes, ?_⟩
      rw [hcons, List.length_cons] at hchannel
      exact Nat.le_of_succ_le hchannel
    | leave => exact ⟨hprobes, Nat.zero_le _⟩

/-- While the reader is there, every turn is paid for by the work that there is. -/
theorem Runs.length_add_work_le (h : Runs limit first moves verdicts p)
    (hstart : first.abandoned = false) (hmoves : .leave ∉ moves) :
    moves.length + p.work ≤ first.work := by
  induction h with
  | nil => simp
  | @snoc moves verdicts p q move hrun hturn ih =>
    rw [List.mem_append, not_or, List.mem_singleton] at hmoves
    obtain ⟨hmoves, hmove⟩ := hmoves
    have hless := (step?_eq_some_iff.mp hturn).work_lt
      (hrun.abandoned_eq_false hstart hmoves) (Ne.symm hmove)
    have hrest := ih hmoves
    rw [List.length_append, List.length_singleton]
    omega

/-! ### Accounts -/

/-- The targets of the probes that have not settled yet. -/
def unsettled (p : Pool α) : List α := p.inFlight.filterMap Probe.unsettled?

/-- The targets of the probes that have found them open. -/
def reporting (p : Pool α) : List α := p.inFlight.filterMap Probe.reporting?

/-- The targets with the verdict open. -/
def opened (verdicts : List (α × Bool)) : List α := (verdicts.filter (·.2)).map (·.1)

theorem opened_append (verdicts more : List (α × Bool)) :
    opened (verdicts ++ more) = opened verdicts ++ opened more := by
  rw [opened, List.filter_append, List.map_append]
  rfl

/-- Every target is accounted for, and so is every target that was found open. -/
structure Accounted (targets : List α) (verdicts : List (α × Bool)) (p : Pool α) : Prop where
  /-- A target waits, is being probed, or has its verdict. -/
  perm_targets : (verdicts.map (·.1) ++ p.unsettled ++ p.waiting).Perm targets
  /-- An open target is with the reader, in the channel, or on its way there. -/
  perm_opened : (p.delivered ++ p.channel ++ p.reporting).Perm (opened verdicts)

theorem perm_unsettled_of_unsettled {position : Nat} {target : α}
    (h : p.inFlight[position]? = some (.unsettled target)) :
    p.unsettled.Perm (target :: (p.drop position).unsettled) :=
  (perm_inFlight h).filterMap Probe.unsettled?

theorem perm_reporting_of_unsettled {position : Nat} {target : α}
    (h : p.inFlight[position]? = some (.unsettled target)) :
    p.reporting.Perm (p.drop position).reporting :=
  (perm_inFlight h).filterMap Probe.reporting?

theorem perm_unsettled_of_reporting {position : Nat} {target : α}
    (h : p.inFlight[position]? = some (.reporting target)) :
    p.unsettled.Perm (p.drop position).unsettled :=
  (perm_inFlight h).filterMap Probe.unsettled?

theorem perm_reporting_of_reporting {position : Nat} {target : α}
    (h : p.inFlight[position]? = some (.reporting target)) :
    p.reporting.Perm (target :: (p.drop position).reporting) :=
  (perm_inFlight h).filterMap Probe.reporting?

theorem accounted_start (targets : List α) : Accounted targets [] (start targets) where
  perm_targets := .refl _
  perm_opened := .refl _

theorem Accounted.settleOpen {targets : List α} (h : Accounted targets verdicts p) {position : Nat}
    {target : α} (hprobe : p.inFlight[position]? = some (.unsettled target)) :
    Accounted targets (verdicts ++ [(target, true)])
      { p with inFlight := p.inFlight.set position (.reporting target) } := by
  -- the target goes over from the unsettled probes to those that report, and gets its verdict
  have hunsettled : (p.inFlight.set position (.reporting target)).filterMap Probe.unsettled?
      |>.Perm (p.drop position).unsettled :=
    (perm_set_inFlight hprobe _).filterMap Probe.unsettled?
  have hreporting : (p.inFlight.set position (.reporting target)).filterMap Probe.reporting?
      |>.Perm (target :: (p.drop position).reporting) :=
    (perm_set_inFlight hprobe _).filterMap Probe.reporting?
  constructor
  · refine List.Perm.trans ?_ h.perm_targets
    rw [List.map_append, List.append_assoc, List.append_assoc, List.append_assoc]
    refine List.Perm.append_left _ ?_
    exact ((hunsettled.cons target).trans (perm_unsettled_of_unsettled hprobe).symm).append_right
      p.waiting
  · rw [opened_append]
    refine (List.Perm.append_left _ hreporting).trans (List.perm_middle.trans ?_)
    refine List.Perm.trans ?_ (List.perm_append_singleton target (opened verdicts)).symm
    refine List.Perm.cons target (List.Perm.trans ?_ h.perm_opened)
    exact List.Perm.append_left _ (perm_reporting_of_unsettled hprobe).symm

theorem Accounted.settleClosed {targets : List α} (h : Accounted targets verdicts p)
    {position : Nat} {target : α} (hprobe : p.inFlight[position]? = some (.unsettled target)) :
    Accounted targets (verdicts ++ [(target, false)]) (p.drop position) := by
  constructor
  · refine List.Perm.trans ?_ h.perm_targets
    rw [List.map_append, List.append_assoc, List.append_assoc, List.append_assoc]
    refine List.Perm.append_left _ ?_
    exact (perm_unsettled_of_unsettled hprobe).symm.append_right p.waiting
  · rw [opened_append]
    refine List.Perm.trans ?_ (h.perm_opened.trans (.of_eq (List.append_nil _).symm))
    exact List.Perm.append_left _ (perm_reporting_of_unsettled hprobe).symm

/-- **A turn keeps the accounts**, unless the reader leaves with it. -/
theorem Accounted.turned {targets : List α} {verdict : Option (α × Bool)}
    (h : Accounted targets verdicts p) (hthere : p.abandoned = false) (hmove : move ≠ .leave)
    (hturn : p.Turned limit move verdict q) :
    Accounted targets (verdicts ++ verdict.toList) q := by
  have hcannot : ¬ p.abandoned = true := ne_true_of_eq_false hthere
  cases hturn with
  | @dispatch target targets' hwaiting =>
    constructor
    · have hall := h.perm_targets
      rw [hwaiting] at hall
      simpa [unsettled, Probe.unsettled?] using hall
    · simpa [reporting, List.filterMap_cons, Probe.reporting?] using h.perm_opened
  | stopDispatch hleft => exact absurd hleft hcannot
  | settleOpen hprobe => exact h.settleOpen hprobe
  | settleClosed hprobe => exact h.settleClosed hprobe
  | @report position target _ hprobe =>
    rw [Option.toList_none, List.append_nil]
    constructor
    · refine List.Perm.trans ?_ h.perm_targets
      exact ((perm_unsettled_of_reporting hprobe).symm.append_left _).append_right p.waiting
    · refine List.Perm.trans ?_ h.perm_opened
      rw [← List.append_assoc, List.append_assoc]
      exact (perm_reporting_of_reporting hprobe).symm.append_left _
  | reportToNobody hleft => exact absurd hleft hcannot
  | stop hleft => exact absurd hleft hcannot
  | @read target targets' _ hchannel =>
    rw [Option.toList_none, List.append_nil]
    refine ⟨h.perm_targets, ?_⟩
    have hopen := h.perm_opened
    rw [hchannel] at hopen
    simpa [reporting] using hopen
  | leave => exact absurd rfl hmove

/-- **While the reader is there nothing is lost and nothing is made up.** -/
theorem Runs.accounted {targets : List α} (h : Runs limit (Pool.start targets) moves verdicts p)
    (hmoves : .leave ∉ moves) : Accounted targets verdicts p := by
  generalize hfirst : Pool.start targets = first at h
  induction h with
  | nil =>
    subst hfirst
    exact accounted_start targets
  | @snoc moves verdicts p q move hrun hturn ih =>
    rw [List.mem_append, not_or, List.mem_singleton] at hmoves
    obtain ⟨hmoves, hmove⟩ := hmoves
    have hthere : p.abandoned = false := by
      subst hfirst
      exact hrun.abandoned_eq_false rfl hmoves
    exact (ih hmoves).turned hthere (Ne.symm hmove) (step?_eq_some_iff.mp hturn)

/-! ## The end of a run -/

/-- Who can still put something into the channel: the dispatcher while it has targets, and every
probe in flight. -/
def senders (p : Pool α) : Nat := (if p.waiting.isEmpty then 0 else 1) + p.inFlight.length

/-- The channel is at its end: nobody is left who could put something into it, and it is empty. -/
def HasEnded (p : Pool α) : Prop := p.senders = 0 ∧ p.channel = []

theorem hasEnded_iff : p.HasEnded ↔ p.waiting = [] ∧ p.inFlight = [] ∧ p.channel = [] := by
  rw [HasEnded, senders, Nat.add_eq_zero_iff, List.length_eq_zero_iff, and_assoc]
  refine and_congr_left' ?_
  rcases hwaiting : p.waiting with _ | ⟨target, targets⟩
  · simp
  · simp

/-- Once the channel is at its end, the reader has got exactly the open targets, and every target
has its verdict. -/
theorem Accounted.of_hasEnded {targets : List α} (h : Accounted targets verdicts p)
    (hended : p.HasEnded) :
    (verdicts.map (·.1)).Perm targets ∧ p.delivered.Perm (opened verdicts) := by
  obtain ⟨hwaiting, hinFlight, hchannel⟩ := hasEnded_iff.mp hended
  constructor
  · simpa [unsettled, hinFlight, hwaiting] using h.perm_targets
  · simpa [reporting, hinFlight, hchannel] using h.perm_opened

/-- **No pool is stuck short of its end**: either something can be read, or a probe can go on, or
the next one can be started. -/
theorem exists_turn (hlimit : 0 < limit) (hthere : p.abandoned = false) (h : ¬ p.HasEnded) :
    ∃ move q, move ≠ .leave ∧ p.step? limit move = some q := by
  rw [hasEnded_iff] at h
  by_cases hchannel : p.channel = []
  · rcases hinFlight : p.inFlight with _ | ⟨probe, probes⟩
    · rcases hwaiting : p.waiting with _ | ⟨target, targets⟩
      · exact absurd ⟨hwaiting, hinFlight, hchannel⟩ h
      · have hroom : p.inFlight.length < limit := by rwa [hinFlight]
        exact ⟨.dispatch, _, nofun, step?_eq_some_iff.mpr (.dispatch hwaiting hroom)⟩
    -- any probe in flight would do; the channel has room for it, being empty
    · have hfirst : p.inFlight[0]? = some probe := by rw [hinFlight, List.getElem?_cons_zero]
      cases probe with
      | unsettled target =>
        obtain ⟨q, hq⟩ : ∃ q, p.step? limit (.settle 0 true) = some q :=
          exists_step?_settle hfirst true
        exact ⟨.settle 0 true, q, nofun, hq⟩
      | reporting target =>
        have hroom : p.channel.length < limit := by rwa [hchannel]
        exact ⟨.report 0, _, nofun, step?_eq_some_iff.mpr (.report hthere hfirst hroom)⟩
  · obtain ⟨target, targets, hchannel⟩ := List.exists_cons_of_ne_nil hchannel
    exact ⟨.read, _, nofun, step?_eq_some_iff.mpr (.read hthere hchannel)⟩

/-- When the reader has left, the dispatcher can end at once. -/
theorem step?_stopDispatch (hleft : p.abandoned = true) :
    p.step? limit .stopDispatch = some { p with waiting := [] } :=
  step?_eq_some_iff.mpr (.stopDispatch hleft)

theorem exists_turn_of_probe (hleft : p.abandoned = true) {position : Nat} {probe : Probe α}
    (h : p.inFlight[position]? = some probe) :
    ∃ move, (move = .stop position ∨ move = .report position) ∧
      p.step? limit move = some (p.drop position) := by
  cases probe with
  | unsettled target =>
    exact ⟨.stop position, .inl rfl, step?_eq_some_iff.mpr (.stop hleft h)⟩
  | reporting target =>
    exact ⟨.report position, .inr rfl, step?_eq_some_iff.mpr (.reportToNobody hleft h)⟩

/-! ## Targets of another kind -/

/-- The pool with other targets in the places of its own. -/
def map (f : α → β) (p : Pool α) : Pool β where
  waiting := p.waiting.map f
  inFlight := p.inFlight.map (Probe.map f)
  channel := p.channel.map f
  delivered := p.delivered.map f
  abandoned := p.abandoned

/-- The verdict on a target, as one on another target. -/
def mapVerdict (f : α → β) (verdict : α × Bool) : β × Bool := (f verdict.1, verdict.2)

theorem map_start (f : α → β) (targets : List α) : (start targets).map f = start (targets.map f) :=
  rfl

theorem hasEnded_map {f : α → β} : (p.map f).HasEnded ↔ p.HasEnded := by
  simp [hasEnded_iff, map]

theorem verdict?_map (f : α → β) (p : Pool α) (move : PoolMove) :
    (p.map f).verdict? move = (p.verdict? move).map (mapVerdict f) := by
  cases move with
  | settle position isOpen =>
    rw [verdict?, verdict?, map, List.getElem?_map]
    rcases p.inFlight[position]? with _ | ⟨target⟩ | ⟨target⟩ <;> rfl
  | _ => rfl

/-- **A turn does not look at targets.** -/
theorem step?_map (f : α → β) (limit : Nat) (p : Pool α) (move : PoolMove) :
    (p.map f).step? limit move = (p.step? limit move).map (map f) := by
  -- the guards on both sides are the same, since none of them mentions a target
  cases move with
  | dispatch =>
    rcases hwaiting : p.waiting with _ | ⟨target, targets⟩
    · simp [step?, map, hwaiting]
    · by_cases hlimit : p.inFlight.length < limit
      · simp [step?, map, Probe.map, hwaiting, hlimit]
      · simp [step?, map, hwaiting, hlimit]
  | stopDispatch => by_cases hleft : p.abandoned = true <;> simp [step?, map, hleft]
  | settle position isOpen =>
    rcases hprobe : p.inFlight[position]? with _ | ⟨target⟩ | ⟨target⟩
    · simp [step?, map, hprobe]
    · cases isOpen with
      | true => simp [step?, map, Probe.map, hprobe, List.map_set]
      | false => simp [step?, map, Probe.map, drop, hprobe, List.eraseIdx_map]
    · simp [step?, map, Probe.map, hprobe]
  | report position =>
    rcases hprobe : p.inFlight[position]? with _ | ⟨target⟩ | ⟨target⟩
    · simp [step?, map, hprobe]
    · simp [step?, map, Probe.map, hprobe]
    · by_cases hleft : p.abandoned = true
      · simp [step?, map, Probe.map, drop, hprobe, hleft, List.eraseIdx_map]
      · by_cases hlimit : p.channel.length < limit
        · simp [step?, map, Probe.map, drop, hprobe, hleft, hlimit, List.eraseIdx_map]
        · simp [step?, map, Probe.map, hprobe, hleft, hlimit]
  | stop position =>
    rcases hprobe : p.inFlight[position]? with _ | ⟨target⟩ | ⟨target⟩
    · simp [step?, map, hprobe]
    · by_cases hleft : p.abandoned = true
      · simp [step?, map, Probe.map, drop, hprobe, hleft, List.eraseIdx_map]
      · simp [step?, map, Probe.map, hprobe, hleft]
    · simp [step?, map, Probe.map, hprobe]
  | read =>
    rcases hchannel : p.channel with _ | ⟨target, targets⟩
    · simp [step?, map, hchannel]
    · by_cases hleft : p.abandoned = true <;> simp [step?, map, hchannel, hleft]
  | leave => by_cases hleft : p.abandoned = true <;> simp [step?, map, hleft]

theorem Runs.exists_of_map {f : α → β} {moves : List PoolMove} {verdicts : List (β × Bool)}
    {q : Pool β} (h : Runs limit (first.map f) moves verdicts q) :
    ∃ verdicts' q', Runs limit first moves verdicts' q' ∧
      verdicts = verdicts'.map (mapVerdict f) ∧ q = q'.map f := by
  generalize hfirst : first.map f = first' at h
  induction h with
  | nil => exact ⟨[], first, .nil, rfl, hfirst.symm⟩
  | @snoc moves verdicts p q move hrun hturn ih =>
    obtain ⟨verdicts', p', hrun', rfl, rfl⟩ := ih
    rw [step?_map, Option.map_eq_some_iff] at hturn
    obtain ⟨q', hturn', rfl⟩ := hturn
    refine ⟨_, q', hrun'.snoc hturn', ?_, rfl⟩
    rw [verdict?_map, List.map_append]
    cases p'.verdict? move <;> rfl

end Pool

end MeshSurvey
