import Mathlib.Data.List.Induction
import Mathlib.Tactic.ByContra
import MeshSurvey.Network.Basic

/-!
# Who wins a dial

A race is read off the events that came before the look that decides it. Three of them can decide
it: the timer, a failed socket and the end of the attempt. A look that finds none of them changes
nothing, so the first look that finds one is the only one that counts. What it finds is judged in a
fixed order: the timer before any socket, the first socket before the attempt, and a connection only
if it is not too late.

The race as it is run keeps a summary of the events. It is shown first that the summary holds what
the judgement asks for, after any events in any order.
-/

namespace MeshSurvey

namespace DialRace

variable {κ : Type}

/-! ## The first event of a form -/

/-- The first event of a form is the one that carries `x`. -/
def IsFirst {α : Type} (form : α → DialEvent κ) (seen : List (DialEvent κ)) (x : α) : Prop :=
  ∃ front back, seen = front ++ form x :: back ∧ ∀ y, form y ∉ front

theorem concat_eq_append_cons_iff {seen front back : List (DialEvent κ)}
    {last event : DialEvent κ} :
    seen ++ [last] = front ++ event :: back ↔
      (∃ back', back = back' ++ [last] ∧ seen = front ++ event :: back') ∨
        back = [] ∧ front = seen ∧ event = last := by
  constructor
  · intro h
    rcases List.eq_nil_or_concat back with rfl | ⟨back', final, rfl⟩
    · obtain ⟨rfl, hlast⟩ := List.append_inj' h rfl
      exact .inr ⟨rfl, rfl, (List.singleton_inj.mp hlast).symm⟩
    · rw [List.concat_eq_append, ← List.cons_append, ← List.append_assoc] at h
      obtain ⟨rfl, hlast⟩ := List.append_inj' h rfl
      exact .inl ⟨back', by rw [hlast, List.concat_eq_append], rfl⟩
  · rintro (⟨back', rfl, rfl⟩ | ⟨rfl, rfl, rfl⟩)
    · simp
    · rfl

theorem isFirst_concat {α : Type} {form : α → DialEvent κ} {seen : List (DialEvent κ)}
    {last : DialEvent κ} {x : α} :
    IsFirst form (seen ++ [last]) x ↔
      IsFirst form seen x ∨ (∀ y, form y ∉ seen) ∧ form x = last := by
  constructor
  · rintro ⟨front, back, hcut, hfront⟩
    rcases concat_eq_append_cons_iff.mp hcut with ⟨back', -, hseen⟩ | ⟨-, rfl, hlast⟩
    · exact .inl ⟨front, back', hseen, hfront⟩
    · exact .inr ⟨hfront, hlast⟩
  · rintro (⟨front, back, rfl, hfront⟩ | ⟨hseen, rfl⟩)
    · exact ⟨front, back ++ [last], by simp, hfront⟩
    · exact ⟨seen, [], rfl, hseen⟩

theorem exists_isFirst_iff {α : Type} {form : α → DialEvent κ} {seen : List (DialEvent κ)} :
    (∃ x, IsFirst form seen x) ↔ ∃ x, form x ∈ seen := by
  constructor
  · rintro ⟨x, front, back, rfl, -⟩
    exact ⟨x, by simp⟩
  · intro h
    induction seen using List.reverseRecOn with
    | nil => simp at h
    | append_singleton seen last ih =>
      by_cases hseen : ∃ x, form x ∈ seen
      · obtain ⟨x, hx⟩ := ih hseen
        exact ⟨x, isFirst_concat.mpr (.inl hx)⟩
      · obtain ⟨x, hx⟩ := h
        have hlast : form x = last := by
          rcases List.mem_append.mp hx with hx | hx
          · exact absurd ⟨x, hx⟩ hseen
          · exact List.mem_singleton.mp hx
        exact ⟨x, isFirst_concat.mpr (.inr ⟨not_exists.mp hseen, hlast⟩)⟩

theorem IsFirst.mem {α : Type} {form : α → DialEvent κ} {seen : List (DialEvent κ)} {x : α}
    (h : IsFirst form seen x) : form x ∈ seen := by
  obtain ⟨front, back, rfl, -⟩ := h
  simp

/-! ## What is remembered -/

/-- A summary holds what matters of the events seen. -/
structure Remembers (race : DialRace κ) (seen : List (DialEvent κ)) : Prop where
  timerFired : race.timerFired = true ↔ .timerFired ∈ seen
  deadlinePassed : race.deadlinePassed = true ↔ .deadlinePassed ∈ seen
  socketFailure : ∀ reason, race.socketFailure = some reason ↔ IsFirst .socketFailed seen reason
  result : ∀ result, race.result = some result ↔ IsFirst .finished seen result

/-- One slot that keeps the first of what is put into it. -/
theorem or_eq_some_iff_isFirst {α : Type} {form : α → DialEvent κ} (hform : form.Injective)
    {slot : Option α} {seen : List (DialEvent κ)} (h : ∀ x, slot = some x ↔ IsFirst form seen x)
    (x y : α) : slot.or (some x) = some y ↔ IsFirst form (seen ++ [form x]) y := by
  rw [isFirst_concat, ← h y, hform.eq_iff]
  cases slot with
  | some z =>
    have hmem : ∃ z, form z ∈ seen := exists_isFirst_iff.mp ⟨z, (h z).mp rfl⟩
    simp only [Option.some_or, ← not_exists, hmem, not_true_eq_false, false_and, or_false]
  | none =>
    have hmem : ∀ z, form z ∉ seen := by
      rw [← not_exists, ← exists_isFirst_iff]
      rintro ⟨z, hz⟩
      exact absurd ((h z).mpr hz) nofun
    simp [hmem, eq_comm]

theorem isFirst_concat_of_ne {α : Type} {form : α → DialEvent κ} {seen : List (DialEvent κ)}
    {last : DialEvent κ} (hlast : ∀ x, form x ≠ last) (x : α) :
    IsFirst form (seen ++ [last]) x ↔ IsFirst form seen x := by
  rw [isFirst_concat, or_iff_left]
  exact fun h ↦ hlast x h.2

theorem remembers_nil : Remembers ({} : DialRace κ) [] where
  timerFired := by simp
  deadlinePassed := by simp
  socketFailure := by simp [IsFirst]
  result := by simp [IsFirst]

theorem Remembers.record {race : DialRace κ} {seen : List (DialEvent κ)}
    (h : race.Remembers seen) (event : DialEvent κ) :
    (race.record event).Remembers (seen ++ [event]) := by
  constructor
  case timerFired => cases event <;> simp [DialRace.record, h.timerFired]
  case deadlinePassed => cases event <;> simp [DialRace.record, h.deadlinePassed]
  case socketFailure =>
    intro reason
    cases event with
    | socketFailed first =>
      exact or_eq_some_iff_isFirst (fun _ _ ↦ DialEvent.socketFailed.inj) h.socketFailure first
        reason
    | timerFired | deadlinePassed | finished | checked =>
      rw [isFirst_concat_of_ne nofun]
      exact h.socketFailure reason
  case result =>
    intro result
    cases event with
    | finished first =>
      exact or_eq_some_iff_isFirst (fun _ _ ↦ DialEvent.finished.inj) h.result first result
    | timerFired | deadlinePassed | socketFailed | checked =>
      rw [isFirst_concat_of_ne nofun]
      exact h.result result

/-! ## How a look is judged -/

/-- None of the events seen can decide a race. -/
structure Undecided (seen : List (DialEvent κ)) : Prop where
  timer : .timerFired ∉ seen
  sockets : ∀ reason, .socketFailed reason ∉ seen
  attempt : ∀ result, .finished result ∉ seen

/-- The rules by which the caller judges the events it has seen. -/
structure Judged (address : String) (timeout : Duration) (seen : List (DialEvent κ))
    (outcome : Except Failure κ) : Prop where
  /-- The timer comes before anything else. -/
  timer : .timerFired ∈ seen → outcome = .error (.deadlineExceeded address timeout)
  /-- Of the sockets the first that failed comes before the attempt. -/
  socket : .timerFired ∉ seen → ∀ reason, IsFirst .socketFailed seen reason →
    outcome = .error (.dial address reason)
  /-- A connection may come too late. -/
  late : .timerFired ∉ seen → (∀ reason, .socketFailed reason ∉ seen) →
    ∀ connection, IsFirst .finished seen (.connected connection) → .deadlinePassed ∈ seen →
      outcome = .error (.deadlineExceeded address timeout)
  /-- A connection that is in time is the outcome. -/
  connected : .timerFired ∉ seen → (∀ reason, .socketFailed reason ∉ seen) →
    ∀ connection, IsFirst .finished seen (.connected connection) → .deadlinePassed ∉ seen →
      outcome = .ok connection
  /-- A handshake may fail although no socket did. -/
  handshake : .timerFired ∉ seen → (∀ reason, .socketFailed reason ∉ seen) →
    IsFirst .finished seen .handshakeFailed → outcome = .error (.transport address)
  /-- The attempt may break down. -/
  crash : .timerFired ∉ seen → (∀ reason, .socketFailed reason ∉ seen) →
    ∀ reason, IsFirst .finished seen (.crashed reason) → outcome = .error (.io reason)

variable {address : String} {timeout : Duration} {race : DialRace κ} {seen : List (DialEvent κ)}

theorem Remembers.socketFailure_eq_none (h : race.Remembers seen) :
    race.socketFailure = none ↔ ∀ reason, .socketFailed reason ∉ seen := by
  rw [← not_exists, ← exists_isFirst_iff, Option.eq_none_iff_forall_ne_some, not_exists]
  exact forall_congr' fun reason ↦ not_congr (h.socketFailure reason)

theorem Remembers.result_eq_none (h : race.Remembers seen) :
    race.result = none ↔ ∀ result, .finished result ∉ seen := by
  rw [← not_exists, ← exists_isFirst_iff, Option.eq_none_iff_forall_ne_some, not_exists]
  exact forall_congr' fun result ↦ not_congr (h.result result)

theorem Remembers.check_eq_none (h : race.Remembers seen) :
    race.check address timeout = none ↔ Undecided seen := by
  have hiff : Undecided seen ↔
      race.timerFired = false ∧ race.socketFailure = none ∧ race.result = none := by
    rw [h.socketFailure_eq_none, h.result_eq_none, ← Bool.not_eq_true, h.timerFired]
    exact ⟨fun u ↦ ⟨u.timer, u.sockets, u.attempt⟩, fun u ↦ ⟨u.1, u.2.1, u.2.2⟩⟩
  rw [hiff]
  unfold check
  split
  next htimer => simp [htimer]
  next htimer =>
    split
    next hsocket => simp [hsocket]
    next hsocket hresult => split <;> simp [hresult]
    next hsocket hresult => simp [hresult]
    next hsocket hresult => simp [hresult]
    next hsocket hresult => simp [htimer, hsocket, hresult]

/-- What a look finds follows the rules. -/
theorem Remembers.judged (h : race.Remembers seen) {outcome : Except Failure κ}
    (hcheck : race.check address timeout = some outcome) : Judged address timeout seen outcome := by
  have htimer (hnot : .timerFired ∉ seen) : race.timerFired = false := by
    rwa [← Bool.not_eq_true, h.timerFired]
  -- a look goes through the four fields in the order of the rules
  constructor
  case timer =>
    intro hfired
    rw [check, if_pos (h.timerFired.mpr hfired)] at hcheck
    exact (Option.some.inj hcheck).symm
  case socket =>
    intro hnot reason hfirst
    rw [check, htimer hnot, (h.socketFailure reason).mpr hfirst] at hcheck
    exact (Option.some.inj hcheck).symm
  case late =>
    intro hnot hsockets connection hfirst hpassed
    rw [check, htimer hnot, h.socketFailure_eq_none.mpr hsockets, (h.result _).mpr hfirst,
      h.deadlinePassed.mpr hpassed] at hcheck
    exact (Option.some.inj hcheck).symm
  case connected =>
    intro hnot hsockets connection hfirst hpassed
    rw [← h.deadlinePassed, Bool.not_eq_true] at hpassed
    rw [check, htimer hnot, h.socketFailure_eq_none.mpr hsockets, (h.result _).mpr hfirst,
      hpassed] at hcheck
    exact (Option.some.inj hcheck).symm
  case handshake =>
    intro hnot hsockets hfirst
    rw [check, htimer hnot, h.socketFailure_eq_none.mpr hsockets,
      (h.result _).mpr hfirst] at hcheck
    exact (Option.some.inj hcheck).symm
  case crash =>
    intro hnot hsockets reason hfirst
    rw [check, htimer hnot, h.socketFailure_eq_none.mpr hsockets,
      (h.result _).mpr hfirst] at hcheck
    exact (Option.some.inj hcheck).symm

/-! ## What the rules say -/

/-- One of three things has decided a race that is decided. -/
theorem exists_of_not_undecided (h : ¬ Undecided seen) :
    .timerFired ∈ seen ∨
      .timerFired ∉ seen ∧ ((∃ reason, IsFirst .socketFailed seen reason) ∨
        (∀ reason, .socketFailed reason ∉ seen) ∧ ∃ result, IsFirst .finished seen result) := by
  by_cases htimer : .timerFired ∈ seen
  · exact .inl htimer
  refine .inr ⟨htimer, ?_⟩
  by_cases hsockets : ∃ reason, .socketFailed reason ∈ seen
  · exact .inl (exists_isFirst_iff.mpr hsockets)
  refine .inr ⟨not_exists.mp hsockets, exists_isFirst_iff.mpr ?_⟩
  by_contra hattempt
  exact h ⟨htimer, not_exists.mp hsockets, not_exists.mp hattempt⟩

/-- An outcome, with what must have been seen for it. -/
inductive Won (address : String) (timeout : Duration) (seen : List (DialEvent κ)) :
    Except Failure κ → Prop where
  | deadline : Won address timeout seen (.error (.deadlineExceeded address timeout))
  | socket (reason : String) (hfirst : IsFirst .socketFailed seen reason) :
    Won address timeout seen (.error (.dial address reason))
  | connected (connection : κ) (htimer : .timerFired ∉ seen)
    (hsockets : ∀ reason, .socketFailed reason ∉ seen)
    (hfirst : IsFirst .finished seen (.connected connection)) (hpassed : .deadlinePassed ∉ seen) :
    Won address timeout seen (.ok connection)
  | handshake (hsockets : ∀ reason, .socketFailed reason ∉ seen) :
    Won address timeout seen (.error (.transport address))
  | crash (reason : String) (hfirst : IsFirst .finished seen (.crashed reason)) :
    Won address timeout seen (.error (.io reason))

/-- The rules leave one outcome to a race that is decided. -/
theorem exists_won (address : String) (timeout : Duration) (hdecided : ¬ Undecided seen) :
    ∃ winner, Won address timeout seen winner ∧
      ∀ outcome, Judged address timeout seen outcome → outcome = winner := by
  rcases exists_of_not_undecided hdecided with
    htimer | ⟨htimer, ⟨reason, hfirst⟩ | ⟨hsockets, result, hfirst⟩⟩
  · exact ⟨_, .deadline, fun _ h ↦ h.timer htimer⟩
  · exact ⟨_, .socket reason hfirst, fun _ h ↦ h.socket htimer reason hfirst⟩
  cases result with
  | connected connection =>
    by_cases hpassed : .deadlinePassed ∈ seen
    · exact ⟨_, .deadline, fun _ h ↦ h.late htimer hsockets connection hfirst hpassed⟩
    · exact ⟨_, .connected connection htimer hsockets hfirst hpassed,
        fun _ h ↦ h.connected htimer hsockets connection hfirst hpassed⟩
  | handshakeFailed =>
    exact ⟨_, .handshake hsockets, fun _ h ↦ h.handshake htimer hsockets hfirst⟩
  | crashed reason =>
    exact ⟨_, .crash reason hfirst, fun _ h ↦ h.crash htimer hsockets reason hfirst⟩

theorem Won.exists_crashed {failure : Failure}
    (h : Won address timeout seen (.error failure : Except Failure κ))
    (hfailure : failure.isConnectivity = false) :
    ∃ reason, failure = .io reason ∧ .finished (.crashed reason) ∈ seen := by
  cases h with
  | deadline | socket | handshake => exact absurd hfailure nofun
  | crash reason hfirst => exact ⟨reason, rfl, hfirst.mem⟩

/-! ## The look that decides -/

/-- The caller's first look that can decide a race comes after the events `seen`. -/
structure DecidedAfter (events seen : List (DialEvent κ)) : Prop where
  looked : ∃ rest, events = seen ++ .checked :: rest
  decided : ¬ Undecided seen
  first : ∀ front back, seen = front ++ .checked :: back → Undecided front

/-- A look that finds nothing is as good as none. -/
theorem outcome_cons {rest : List (DialEvent κ)} {event : DialEvent κ}
    (h : event = .checked → race.check address timeout = none) :
    outcome address timeout race (event :: rest) =
      outcome address timeout (race.record event) rest := by
  cases event with
  | checked => rw [outcome, h rfl, record]
  | timerFired | deadlinePassed | socketFailed | finished => rfl

/-- As long as no look decides a race, the caller remembers the events it goes through. -/
theorem outcome_append {front rest : List (DialEvent κ)} (h : race.Remembers seen)
    (hundecided : ∀ a b, front = a ++ .checked :: b → Undecided (seen ++ a)) :
    ∃ race' : DialRace κ, race'.Remembers (seen ++ front) ∧
      outcome address timeout race (front ++ rest) = outcome address timeout race' rest := by
  induction front generalizing race seen with
  | nil => exact ⟨race, by rwa [List.append_nil], rfl⟩
  | cons event front ih =>
    have hrest (a b) (hcut : front = a ++ .checked :: b) :
        Undecided ((seen ++ [event]) ++ a) := by
      rw [List.append_assoc]
      exact hundecided ([event] ++ a) b (by rw [hcut]; rfl)
    obtain ⟨race', hrace', houtcome⟩ := ih (h.record event) hrest
    refine ⟨race', by rwa [List.append_assoc] at hrace', ?_⟩
    rw [← houtcome, List.cons_append]
    apply outcome_cons
    rintro rfl
    rw [h.check_eq_none]
    simpa using hundecided [] front rfl

/-- The first look that can decide a race does decide it, by the rules. -/
theorem judged_of_decidedAfter {events : List (DialEvent κ)} (h : DecidedAfter events seen) :
    Judged address timeout seen (outcome address timeout {} events) := by
  obtain ⟨⟨rest, rfl⟩, hdecided, hfirst⟩ := h
  obtain ⟨race, hrace, houtcome⟩ : ∃ race : DialRace κ, race.Remembers ([] ++ seen) ∧
      outcome address timeout {} (seen ++ .checked :: rest) =
        outcome address timeout race (.checked :: rest) :=
    outcome_append remembers_nil hfirst
  rw [List.nil_append] at hrace
  rw [houtcome, outcome]
  cases hcheck : race.check address timeout with
  | none => exact absurd (hrace.check_eq_none.mp hcheck) hdecided
  | some outcome => exact hrace.judged hcheck

variable {events : List (DialEvent κ)}

theorem eq_outcome_of_judged (h : DecidedAfter events seen) {other : Except Failure κ}
    (hother : Judged address timeout seen other) : other = outcome address timeout {} events := by
  obtain ⟨winner, -, hunique⟩ := exists_won address timeout h.decided
  rw [hunique other hother, hunique _ (judged_of_decidedAfter h)]

theorem won_of_decidedAfter (h : DecidedAfter events seen) :
    Won address timeout seen (outcome address timeout {} events) := by
  obtain ⟨winner, hwon, hunique⟩ := exists_won address timeout h.decided
  rwa [hunique _ (judged_of_decidedAfter h)]

/-- The timer decides a race that no look decides. -/
theorem outcome_of_not_decidedAfter
    (h : ∀ seen, ¬ DecidedAfter events seen) :
    outcome address timeout {} events = .error (.deadlineExceeded address timeout) := by
  -- were a look to decide, then so would the first of such looks; so the induction is on its place
  have hundecided (front back) (hcut : events = front ++ .checked :: back) : Undecided front := by
    induction hlength : front.length using Nat.strongRecOn generalizing front back with
    | _ length ih =>
      by_contra hdecided
      refine h front ⟨⟨back, hcut⟩, hdecided, ?_⟩
      rintro front' back' rfl
      refine ih front'.length ?_ front' (back' ++ .checked :: back) ?_ rfl
      · simp [← hlength]
      · simp [hcut]
  obtain ⟨race, -, houtcome⟩ : ∃ race : DialRace κ, race.Remembers ([] ++ events) ∧
      outcome address timeout {} (events ++ []) = outcome address timeout race [] :=
    outcome_append remembers_nil hundecided
  rw [← List.append_nil events, houtcome, outcome]

theorem exists_crashed_of_outcome {failure : Failure}
    (h : outcome address timeout {} events = .error failure)
    (hfailure : failure.isConnectivity = false) :
    ∃ reason, failure = .io reason ∧ .finished (.crashed reason) ∈ events := by
  by_cases hseen : ∃ seen, DecidedAfter events seen
  · obtain ⟨seen, hseen⟩ := hseen
    have hwon : Won address timeout seen (outcome address timeout {} events) :=
      won_of_decidedAfter hseen
    rw [h] at hwon
    obtain ⟨reason, hreason, hcrashed⟩ := hwon.exists_crashed hfailure
    obtain ⟨rest, rfl⟩ := hseen.looked
    exact ⟨reason, hreason, List.mem_append_left _ hcrashed⟩
  · rw [outcome_of_not_decidedAfter (not_exists.mp hseen)] at h
    obtain rfl := Except.error.inj h
    exact absurd hfailure nofun

end DialRace

namespace Network

open DialRace

variable {σ κ : Type}

theorem run_connect_of_isZero (net : Network σ κ) (address : String) (tls : Bool)
    {timeout : Duration} (htimeout : timeout.isZero = true) (n : σ) :
    (net.connect address tls timeout).run.run n =
      (.error (.deadlineExceeded address timeout), n) := by
  rw [connect, if_pos htimeout]
  rfl

theorem run_connect_of_error (net : Network σ κ) {address : String} {tls : Bool}
    {timeout : Duration} (htimeout : timeout.isZero = false) {failure : Failure}
    (hendpoint : endpoint address tls = .error failure) (n : σ) :
    (net.connect address tls timeout).run.run n = (.error failure, n) := by
  rw [connect, if_neg (by simp [htimeout]), hendpoint]
  rfl

theorem run_connect_of_ok (net : Network σ κ) {address : String} {tls : Bool}
    {timeout : Duration} (htimeout : timeout.isZero = false) {target : Endpoint}
    (hendpoint : endpoint address tls = .ok target) (n : σ) :
    (net.connect address tls timeout).run.run n =
      (outcome address timeout {} (net.dial target timeout n).1,
        (net.dial target timeout n).2) := by
  rw [connect, if_neg (by simp [htimeout]), hendpoint]
  rfl

theorem endpoint_error {address : String} {tls : Bool} {failure : Failure}
    (h : endpoint address tls = .error failure) :
    failure = .invalidAddress address ∨ failure = .transport address := by
  unfold endpoint at h
  split at h
  · exact .inl (Except.error.inj h).symm
  · split at h
    · exact .inr (Except.error.inj h).symm
    · exact absurd h nofun

/-- A dial fails otherwise than because the peer could not be reached if the address is none, or if
the attempt broke down. -/
theorem not_isConnectivity_iff (net : Network σ κ) {address : String} {tls : Bool}
    {timeout : Duration} {n : σ} {failure : Failure}
    (hfailure : ((net.connect address tls timeout).run.run n).1 = .error failure) :
    failure.isConnectivity = false ↔ failure = .invalidAddress address ∨
      ∃ reason, failure = .io reason ∧ ∃ target, endpoint address tls = .ok target ∧
        .finished (.crashed reason) ∈ (net.dial target timeout n).1 := by
  constructor
  · intro hconnectivity
    by_cases htimeout : timeout.isZero = true
    · rw [run_connect_of_isZero net address tls htimeout n] at hfailure
      obtain rfl := Except.error.inj hfailure
      exact absurd hconnectivity nofun
    rw [Bool.not_eq_true] at htimeout
    cases hendpoint : endpoint address tls with
    | error wrong =>
      rw [run_connect_of_error net htimeout hendpoint n] at hfailure
      obtain rfl := Except.error.inj hfailure
      rcases endpoint_error hendpoint with rfl | rfl
      · exact .inl rfl
      · exact absurd hconnectivity nofun
    | ok target =>
      rw [run_connect_of_ok net htimeout hendpoint n] at hfailure
      obtain ⟨reason, hreason, hcrashed⟩ := exists_crashed_of_outcome hfailure hconnectivity
      exact .inr ⟨reason, hreason, target, rfl, hcrashed⟩
  · rintro (rfl | ⟨reason, rfl, -⟩)
    · rfl
    · rfl

/-- **A dial has one winner.** Without any time for it a dial fails before the address is read and
leaves the network alone. Otherwise the events of the dial decide it, whatever their order: the
first look that finds something is judged by the rules, which leave one outcome, and without such a
look the timer decides. So a connection is the outcome only if the attempt finished with it before
the deadline and no socket had failed, and a broken handshake only if no socket had failed. Every
failure says that the peer could not be reached, unless the address is none or the attempt broke
down. -/
theorem connect_has_one_winner (net : Network σ κ) (address : String) (tls : Bool)
    (timeout : Duration) (n : σ) :
    (timeout.isZero = true → (net.connect address tls timeout).run.run n =
      (.error (.deadlineExceeded address timeout), n)) ∧
    (timeout.isZero = false → ∀ failure, endpoint address tls = .error failure →
      (net.connect address tls timeout).run.run n = (.error failure, n)) ∧
    (timeout.isZero = false → ∀ target, endpoint address tls = .ok target →
      ∃ outcome, (net.connect address tls timeout).run.run n =
          (outcome, (net.dial target timeout n).2) ∧
        (∀ seen, DecidedAfter (net.dial target timeout n).1 seen →
          Judged address timeout seen outcome ∧
          (∀ other, Judged address timeout seen other → other = outcome) ∧
          (outcome = .error (.transport address) → ∀ reason, .socketFailed reason ∉ seen) ∧
          ∀ connection, outcome = .ok connection →
            IsFirst .finished seen (.connected connection) ∧ .deadlinePassed ∉ seen ∧
              .timerFired ∉ seen ∧ ∀ reason, .socketFailed reason ∉ seen) ∧
        ((∀ seen, ¬ DecidedAfter (net.dial target timeout n).1 seen) →
          outcome = .error (.deadlineExceeded address timeout))) ∧
    ∀ failure, ((net.connect address tls timeout).run.run n).1 = .error failure →
      (failure.isConnectivity = false ↔ failure = .invalidAddress address ∨
        ∃ reason, failure = .io reason ∧ ∃ target, endpoint address tls = .ok target ∧
          .finished (.crashed reason) ∈ (net.dial target timeout n).1) := by
  refine ⟨fun htimeout ↦ run_connect_of_isZero net address tls htimeout n,
    fun htimeout failure hendpoint ↦ run_connect_of_error net htimeout hendpoint n, ?_,
    fun failure hfailure ↦ net.not_isConnectivity_iff hfailure⟩
  intro htimeout target hendpoint
  refine ⟨_, run_connect_of_ok net htimeout hendpoint n, ?_, outcome_of_not_decidedAfter⟩
  intro seen hseen
  refine ⟨judged_of_decidedAfter hseen, fun _ ↦ eq_outcome_of_judged hseen, ?_, ?_⟩
  · intro htransport
    have hwon : Won address timeout seen (outcome address timeout {} _) :=
      won_of_decidedAfter hseen
    rw [htransport] at hwon
    cases hwon with
    | handshake hsockets => exact hsockets
  · intro connection hconnection
    have hwon : Won address timeout seen (outcome address timeout {} _) :=
      won_of_decidedAfter hseen
    rw [hconnection] at hwon
    cases hwon with
    | connected _ htimer hsockets hfirst hpassed => exact ⟨hfirst, hpassed, htimer, hsockets⟩

/-- Two sockets fail and then the attempt does, all before the caller looks: the first socket wins,
although the timer has fired by the next look. -/
theorem connect_has_one_winner_of_two_sockets :
    let events : List (DialEvent Unit) := [.checked, .socketFailed "refused",
      .socketFailed "no route", .finished .handshakeFailed, .deadlinePassed, .checked, .timerFired,
      .checked]
    let net : Network Unit Unit := {
      dial := fun _ _ ↦ pure events
      send := fun _ _ _ ↦ pure .silence
      openStream := fun _ _ ↦ pure .silence
      receive := fun _ _ ↦ pure .silence
      http := fun _ _ _ ↦ pure none
      probe := fun _ _ _ ↦ pure false
      choose := fun _ ↦ pure 0 }
    (Duration.seconds 5).isZero = false ∧
      (∃ target, endpoint "localhost:15010" false = .ok target) ∧
      DecidedAfter events (events.take 5) ∧
      ((net.connect "localhost:15010" false (.seconds 5)).run.run ()).1 =
        .error (.dial "localhost:15010" "refused") := by
  intro events net
  have htimeout : (Duration.seconds 5).isZero = false := rfl
  obtain ⟨target, hendpoint⟩ : ∃ target, endpoint "localhost:15010" false = .ok target := ⟨_, rfl⟩
  have hseen : DecidedAfter events (events.take 5) := by
    refine ⟨⟨[.timerFired, .checked], rfl⟩, fun h ↦ h.sockets "refused" (by simp [events]), ?_⟩
    intro front back hcut
    cases front with
    | nil => exact ⟨nofun, nofun, nofun⟩
    | cons event front =>
      have hlook : .checked ∈ events.tail.take 4 := by
        rw [show events.tail.take 4 = front ++ .checked :: back from (List.cons.inj hcut).2]
        simp
      simp [events] at hlook
  obtain ⟨outcome, hrun, houtcome, -⟩ :=
    (connect_has_one_winner net "localhost:15010" false (.seconds 5) ()).2.2.1
      htimeout target hendpoint
  have hfirst : IsFirst .socketFailed (events.take 5) "refused" :=
    ⟨[.checked], _, rfl, by simp⟩
  refine ⟨htimeout, ⟨target, hendpoint⟩, hseen, ?_⟩
  rw [hrun]
  exact (houtcome _ hseen).1.socket (by simp [events]) "refused" hfirst

end Network

end MeshSurvey
