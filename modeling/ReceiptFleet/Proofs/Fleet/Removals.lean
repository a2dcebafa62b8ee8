import ReceiptFleet.Proofs.Fleet.AccessLogs
import ReceiptFleet.Proofs.Fleet.Registrations
import ReceiptFleet.Proofs.Fleet.Retirement

/-!
Removals. Once a removal has taken the entry of a registration, the poller of that registration has nothing
more to say, wherever it is in its poll; and when the removal returns, it has closed the device once, and
the poller was done with the device before.
-/

namespace ReceiptFleet.Fleet

variable {f g : Fleet} {move : Move} {events : List Event} {id number : Nat}

-----------------------------------------------------------------------------------------
-- Calls in the log
-----------------------------------------------------------------------------------------

/-- The events of a call. -/
def eventsOf (number : Nat) (events : List Event) : List Event :=
  events.filter (·.access.agent = .call number)

theorem eventsOf_append (number : Nat) (events more : List Event)
    : eventsOf number (events ++ more) = eventsOf number events ++ eventsOf number more :=
  List.filter_append _ _

/-- Whether a call has begun to use its device. -/
def Progress.hasBegun : Progress → Bool
  | .working _ _ | .joining _ _ | .returned _ => true
  | .asked | .taken _ | .bound _ _ | .waiting _ _ => false

/-- The calls in a log are those that have begun to use their devices. -/
def Attributed (f : Fleet) (events : List Event) : Prop :=
  ∀ event ∈ events, ∀ number,
    event.access.agent = .call number
    → ∃ c, f.calls[number]? = some c ∧ c.progress.hasBegun = true

theorem hasBegun_of_inFlight {access : Access} (inFlight : f.InFlight access)
    (agent : access.agent = .call number)
    : ∃ c, f.calls[number]? = some c ∧ c.progress.hasBegun = true := by
  rw [InFlight, agent] at inFlight
  obtain ⟨c, called, busy⟩ := Option.bind_eq_some_iff.mp inFlight
  refine ⟨c, called, ?_⟩
  cases progress : c.progress <;> rw [progress] at busy <;> first | rfl | cases busy

/-- A call does not go back behind that. -/
theorem hasBegun_next {c : Call} (called : f.calls[number]? = some c)
    (begun : c.progress.hasBegun = true) (step : f.step move = some g)
    : ∃ c', g.calls[number]? = some c' ∧ c'.progress.hasBegun = true := by
  by_cases own : ∃ outcome, move = .call number outcome
  · obtain ⟨outcome, rfl⟩ := own
    obtain ⟨c', called', going⟩ := stepCall_called step
    rw [called] at called'
    cases called'
    cases going with
    | taken progress | bound progress | cancels progress | queues progress | begins progress =>
        rw [progress] at begun
        cases begun
    | refused _ => exact ⟨_, calls_setProgress_self called _, rfl⟩
    | closed _ _ => exact ⟨_, calls_setProgress_self called _, rfl⟩
    | executed _ _ => exact ⟨_, calls_setProgress_self called _, rfl⟩
    | returns _ _ _ => exact ⟨_, calls_setProgress_self called _, rfl⟩
  · exact ⟨c, step_call_of_other called (fun outcome same => own ⟨outcome, same⟩) step, begun⟩

theorem Attributed.next (attributed : Attributed f events) (step : f.step move = some g)
    : Attributed g (events ++ f.passage move g) := by
  intro event member number agent
  rcases List.mem_append.mp member with old | new
  · obtain ⟨c, called, begun⟩ := attributed event old number agent
    exact hasBegun_next called begun step
  · rcases access_of_mem_passage new with before | after
    · obtain ⟨c, called, begun⟩ := hasBegun_of_inFlight (accessBy_eq_some_iff.mp before).2 agent
      exact hasBegun_next called begun step
    · exact hasBegun_of_inFlight (accessBy_eq_some_iff.mp after).2 agent

/-- A call that has not begun to use its device has no events. -/
theorem Attributed.eventsOf_eq_nil (attributed : Attributed f events) {c : Call}
    (called : f.calls[number]? = some c) (before : c.progress.hasBegun = false)
    : eventsOf number events = [] := by
  rw [eventsOf, List.filter_eq_nil_iff]
  intro event member agent
  obtain ⟨c', called', begun⟩ := attributed event member number (of_decide_eq_true agent)
  rw [called] at called'
  cases called'
  rw [before] at begun
  cases begun

/-- A call that uses no device before or after a step is not in what the step logs. -/
theorem eventsOf_passage_of_idle (before : f.calling? number = none)
    (after : g.calling? number = none)
    : eventsOf number (f.passage move g) = [] := by
  rw [eventsOf, List.filter_eq_nil_iff]
  intro event member agent
  have agent : event.access.agent = .call number := of_decide_eq_true agent
  rcases access_of_mem_passage member with own | own
  all_goals
    have inFlight := (accessBy_eq_some_iff.mp own).2
    rw [InFlight, agent] at inFlight
    simp only [before, after, reduceCtorEq] at inFlight

theorem eventsOf_passage_of_other (other : ∀ outcome, move ≠ .call number outcome)
    : eventsOf number (f.passage move g) = [] := by
  have apart {f : Fleet} {access : Access} (own : f.accessBy move = some access)
      : access.agent ≠ .call number := by
    intro agent
    have own := (accessBy_eq_some_iff.mp own).1
    rw [agent] at own
    cases move with
    | add | ask | drop => exact own
    | poller => exact Agent.noConfusion own.2
    | call _ outcome => exact other outcome (Agent.call.inj own ▸ rfl)
  rw [eventsOf, List.filter_eq_nil_iff]
  intro event member agent
  rcases access_of_mem_passage member with own | own <;>
    exact apart own (of_decide_eq_true agent)

/-- A call that begins to use its device, or ends that, is all there is in what its step logs. -/
theorem passage_of_begins {operation : Simulation.Operation} {outcome : Except Fault Unit}
    (before : f.calling? number = none) (after : g.calling? number = some (id, operation))
    : f.passage (.call number outcome) g = [.began ⟨id, .call number, operation⟩] := by
  rw [passage, accessBy, accessBy, before, after]
  rfl

theorem passage_of_ends {operation : Simulation.Operation} {outcome : Except Fault Unit}
    (before : f.calling? number = some (id, operation)) (after : g.calling? number = none)
    : f.passage (.call number outcome) g
      = [.ended ⟨id, .call number, operation⟩ (Move.call number outcome).fault?] := by
  rw [passage, accessBy, accessBy, before, after]
  rfl

-----------------------------------------------------------------------------------------
-- What the log says of a removal that has closed its device
-----------------------------------------------------------------------------------------

/-- A removal has closed its device once; everything that began there earlier had ended, and nothing that
came later was the poller's. -/
structure ClosedOnce (id number : Nat) (fault : Option Fault) (events : List Event) : Prop where
  once
    : eventsOf number events
      = [.began ⟨id, .call number, .close⟩, .ended ⟨id, .call number, .close⟩ fault]
  last
    : ∃ earlier later,
        eventsAt id events
          = earlier
            ++ [.began ⟨id, .call number, .close⟩, .ended ⟨id, .call number, .close⟩ fault]
            ++ later
        ∧ Serial earlier none
        ∧ ∀ event ∈ later, event.access.agent ≠ .poller

/-- The last access of a row that has not ended is the last that began. -/
theorem Serial.of_some {access : Access} (serial : Serial events (some access))
    : ∃ earlier, events = earlier ++ [.began access] ∧ Serial earlier none := by
  cases serial with
  | began _ done => exact ⟨_, rfl, done⟩

/-- While a removal is closing its device, it is at the end of the log there. -/
theorem ClosedOnce.of_logged (logged : Logged f events)
    (inFlight : f.InFlight ⟨id, .call number, .close⟩)
    (begun : eventsOf number events = [.began ⟨id, .call number, .close⟩]) (fault : Option Fault)
    : ClosedOnce id number fault (events ++ [.ended ⟨id, .call number, .close⟩ fault]) := by
  obtain ⟨current, serial, only⟩ := logged.serial id
  rw [(only _).mpr ⟨rfl, inFlight⟩] at serial
  obtain ⟨earlier, row, done⟩ := serial.of_some
  refine ⟨?_, earlier, [], ?_, done, nofun⟩
  · rw [eventsOf_append, begun]
    simp [eventsOf, Event.access]
  · rw [eventsAt_append, row]
    simp [eventsAt, Event.access]

/-- Steps of others add nothing of the removal and, once the poller has retired, nothing of the poller. -/
theorem ClosedOnce.next {fault : Option Fault} (closed : ClosedOnce id number fault events)
    (before : f.Retired id) (after : g.Retired id)
    (idle : eventsOf number (f.passage move g) = [])
    : ClosedOnce id number fault (events ++ f.passage move g) := by
  obtain ⟨earlier, later, row, done, others⟩ := closed.last
  refine ⟨?_, earlier, later ++ eventsAt id (f.passage move g), ?_, done, ?_⟩
  · rw [eventsOf_append, closed.once, idle, List.append_nil]
  · rw [eventsAt_append, row, List.append_assoc]
  · intro event member
    rcases List.mem_append.mp member with old | new
    · exact others event old
    · obtain ⟨new, here⟩ := List.mem_filter.mp new
      have here : event.access.registration = id := of_decide_eq_true here
      rcases access_of_mem_passage new with own | own
      · exact before.agent_ne_poller (accessBy_eq_some_iff.mp own).2 here
      · exact after.agent_ne_poller (accessBy_eq_some_iff.mp own).2 here

-----------------------------------------------------------------------------------------
-- Stages of a removal
-----------------------------------------------------------------------------------------

/-- What a removal returns, by the fault that its device was closed with. -/
def removalResult (name : String) : Option Fault → Except CallError Unit
  | none => .ok ()
  | some fault => .error (.device name fault)

theorem deviceResult_remove (name : String) (progress : Progress) (outcome : Except Fault Unit)
    (number : Nat)
    : Call.deviceResult ⟨.remove name, progress⟩ outcome
      = removalResult name (Move.call number outcome).fault? := by
  cases outcome <;> rfl

/-- How far a removal that has taken its entry has got: the poller is told to stop before the removal
waits for the device, and has retired when the removal gives the device back. -/
inductive Removing (id number : Nat) (name : String) (f : Fleet) (events : List Event)
    : Progress → Prop
  | taken : Removing id number name f events (.taken id)
  | bound (stopping : f.Stopping id) : Removing id number name f events (.bound id .close)
  | waiting (stopping : f.Stopping id) : Removing id number name f events (.waiting id .close)
  | working (stopping : f.Stopping id)
    (begun : eventsOf number events = [.began ⟨id, .call number, .close⟩])
    : Removing id number name f events (.working id .close)
  | joining {outcome} (retired : f.Retired id)
    (closed : ClosedOnce id number (Move.call number outcome).fault? events)
    : Removing id number name f events (.joining id outcome)
  | returned {fault} (retired : f.Retired id) (closed : ClosedOnce id number fault events)
    : Removing id number name f events (.returned (removalResult name fault))

variable {name : String} {progress : Progress}

/-- Steps of others leave a removal where it is. -/
theorem Removing.next_of_other (removing : Removing id number name f events progress)
    (other : ∀ outcome, move ≠ .call number outcome) (step : f.step move = some g)
    : Removing id number name g (events ++ f.passage move g) progress := by
  have idle : eventsOf number (f.passage move g) = [] := eventsOf_passage_of_other other
  cases removing with
  | taken => exact .taken
  | bound stopping => exact .bound (stopping.next step)
  | waiting stopping => exact .waiting (stopping.next step)
  | working stopping begun =>
      refine .working (stopping.next step) ?_
      rw [eventsOf_append, begun, idle, List.append_nil]
  | joining retired closed =>
      have after := retired.next step
      exact .joining after (closed.next retired after idle)
  | returned retired closed =>
      have after := retired.next step
      exact .returned after (closed.next retired after idle)

/-- Its own step takes it to the next stage. -/
theorem Removing.next_of_call {outcome : Except Fault Unit}
    (removing : Removing id number name f events progress) (logged : Logged f events)
    (attributed : Attributed f events) (called : f.calls[number]? = some ⟨.remove name, progress⟩)
    (step : f.step (.call number outcome) = some g)
    : ∃ progress',
        g.calls[number]? = some ⟨.remove name, progress'⟩
        ∧ Removing id number name g (events ++ f.passage (.call number outcome) g) progress' := by
  obtain ⟨c, same, going⟩ := stepCall_called step
  rw [called] at same
  cases same
  have before := calling?_of_progress called
  cases going with
  | refused asked | taken asked | bound asked =>
      cases asked
      cases removing
  | @cancels here w taken found =>
      cases taken
      cases removing
      refine ⟨_, calls_setProgress_self called _, .bound ⟨{ w with cancelled := true }, ?_, rfl⟩⟩
      exact watch?_setWatch_self found _
  | queues bound found =>
      cases bound
      cases removing with
      | bound stopping => exact ⟨_, calls_setProgress_self called _, .waiting (stopping.next step)⟩
  | begins waiting found holds =>
      cases waiting
      cases removing with
      | waiting stopping =>
          have after := calls_setProgress_self called (.working id .close)
          refine ⟨_, after, .working (stopping.next step) ?_⟩
          rw [eventsOf_append, attributed.eventsOf_eq_nil called rfl,
            passage_of_begins before (calling?_of_progress after)]
          simp [eventsOf, Event.access, Simulation.World.operationOf]
  | @closed here w working found =>
      cases working
      cases removing with
      | working stopping begun =>
          have after := calls_setProgress_self (f := f.setWatch id w.release) called
            (.joining id outcome)
          have inFlight : f.InFlight ⟨id, .call number, .close⟩ := before
          have retired := stopping.retired logged.held (logged.held _ inFlight)
          refine ⟨_, after, .joining (retired.next step) ?_⟩
          rw [passage_of_ends before (calling?_of_progress after)]
          exact .of_logged logged inFlight begun _
  | executed working found =>
      cases working
      cases removing
  | @returns _ result w joining found stopped =>
      cases joining
      cases removing with
      | joining retired closed =>
          rw [deviceResult_remove name _ result number] at step ⊢
          have after := calls_setProgress_self called
            (.returned (removalResult name (Move.call number result).fault?))
          refine ⟨_, after, .returned (retired.next step) ?_⟩
          exact closed.next retired (retired.next step)
            (eventsOf_passage_of_idle before (calling?_of_progress after))

/-- Every step takes a removal on or leaves it where it is. -/
theorem Removing.next (removing : Removing id number name f events progress)
    (logged : Logged f events) (attributed : Attributed f events)
    (called : f.calls[number]? = some ⟨.remove name, progress⟩) (step : f.step move = some g)
    : ∃ progress',
        g.calls[number]? = some ⟨.remove name, progress'⟩
        ∧ Removing id number name g (events ++ f.passage move g) progress' := by
  by_cases own : ∃ outcome, move = .call number outcome
  · obtain ⟨outcome, rfl⟩ := own
    exact removing.next_of_call logged attributed called step
  · have other (outcome : Except Fault Unit) (same : move = .call number outcome) : False :=
      own ⟨outcome, same⟩
    exact ⟨progress, step_call_of_other called other step, removing.next_of_other other step⟩

-----------------------------------------------------------------------------------------
-- Whole runs
-----------------------------------------------------------------------------------------

theorem attributed_start (threshold : Nat) : Attributed { threshold } [] := nofun

theorem run_attributed {moves : List Move} (attributed : Attributed f events)
    (reached : f.run moves = some g)
    : Attributed g (events ++ f.log moves) :=
  run_log_invariant Attributed.next attributed reached

/-- Every run takes a removal on or leaves it where it is. -/
theorem run_removing {moves : List Move} (removing : Removing id number name f events progress)
    (logged : Logged f events) (attributed : Attributed f events)
    (called : f.calls[number]? = some ⟨.remove name, progress⟩) (reached : f.run moves = some g)
    : ∃ progress',
        g.calls[number]? = some ⟨.remove name, progress'⟩
        ∧ Removing id number name g (events ++ f.log moves) progress' := by
  have invariant := run_log_invariant
    (P := fun f events =>
      (Logged f events ∧ Attributed f events)
      ∧ ∃ progress,
          f.calls[number]? = some ⟨.remove name, progress⟩
          ∧ Removing id number name f events progress)
    (fun ⟨⟨logged, attributed⟩, _, called, removing⟩ step =>
      ⟨⟨logged.next step, attributed.next step⟩, removing.next logged attributed called step⟩)
    ⟨⟨logged, attributed⟩, progress, called, removing⟩ reached
  exact invariant.2

-----------------------------------------------------------------------------------------
-- Registrations that were removed
-----------------------------------------------------------------------------------------

/-- A registration is gone: no entry has its number, its poller changes nothing of the registry any more,
whatever it does, and every status was published by another registration. -/
structure Gone (f : Fleet) (id : Nat) (reports : List Report) : Prop where
  outOfForce : ∀ name, ¬ f.registry.InForce ⟨name, id⟩
  silent : ∀ signal g, f.step (.poller id signal) = some g → g.registry = f.registry
  forgotten
    : ∀ name status,
        f.registry.statuses.get? name = some status
        → ∃ other,
            other ≠ id ∧ lastPublished reports name = some ⟨⟨name, other⟩, status, true⟩

/-- A registration that is out of force is gone. -/
theorem Registered.gone {reports : List Report} (registered : Registered f reports)
    (made : f.registrations[id]? = some ⟨name, id⟩) (stale : ¬ f.registry.InForce ⟨name, id⟩)
    : Gone f id reports := by
  have outOfForce (other : String) : ¬ f.registry.InForce ⟨other, id⟩ := by
    rintro ⟨member, found⟩
    have same := registrations_of_memories (registered.remembered other _ found)
    rw [made] at same
    cases same
    exact stale ⟨member, found⟩
  refine ⟨outOfForce, ?_, ?_⟩
  · intro signal g step
    obtain ⟨w, w', r, found, rfl, _, told⟩ := stepPoller_turn step
    have known := registrations_of_memories (memories_of_found (pollers_of_watch found))
    rw [made] at known
    exact told.registry_of_stale (Option.some.inj known ▸ stale)
  · intro other status known
    obtain ⟨entry, found, last⟩ := registered.published other status known
    refine ⟨entry.id, ?_, last⟩
    rintro rfl
    exact outOfForce other ⟨entry.member, found⟩

/-- A removal that has returned has closed its device. -/
theorem Removing.closed {result : Except CallError Unit}
    (removing : Removing id number name f events progress)
    (returned : Call.result? ⟨.remove name, progress⟩ = some result)
    : ∃ fault, result = removalResult name fault ∧ ClosedOnce id number fault events := by
  cases removing with
  | returned _ closed =>
      cases returned
      exact ⟨_, rfl, closed⟩
  | taken | bound | waiting | working | joining => cases returned

/-- The first step of a removal, from any state that a run from the empty fleet reaches. A name that is
not registered is refused, and nothing else changes. Of a registered name the entry and the status are
taken at once, and whatever happens from then on, in any order, the registration is gone; and if the
removal has returned, it has closed the device once, after the last operation of the poller, and returned
the fault of that, if there was one. -/
theorem run_removal {threshold number : Nat} {name : String} {before : List Move} {f : Fleet}
    (reached : Fleet.run { threshold } before = some f)
    (asked : f.calls[number]? = some { request := .remove name }) (outcome : Except Fault Unit)
    : ∃ g,
        f.step (.call number outcome) = some g
        ∧ (f.registry.entries.get? name = none
          → g = f.setProgress number (.returned (.error (.unknownPrinter name))))
        ∧ ∀ entry,
            f.registry.entries.get? name = some entry
            → g.registry = f.registry.forget name
              ∧ ∀ after h,
                  g.run after = some h
                  → let moves := before ++ .call number outcome :: after
                    Gone h entry.id (Fleet.history { threshold } moves)
                    ∧ ∀ c result,
                        h.calls[number]? = some c
                        → c.result? = some result
                        → ∃ fault,
                            result = removalResult name fault
                            ∧ ClosedOnce entry.id number fault
                              (Fleet.log { threshold } moves) := by
  have step : f.step (.call number outcome) = some (f.beginRemoval number name) := by
    rw [Fleet.step, stepCall, asked]
    rfl
  refine ⟨_, step, ?_, ?_⟩
  · intro unknown
    rw [beginRemoval, unknown]
    rfl
  · intro entry known
    have taken
        : f.beginRemoval number name
          = { f with registry := f.registry.forget name }.setProgress number
              (.taken entry.id) := by
      rw [beginRemoval, known]
    rw [taken] at step ⊢
    refine ⟨rfl, fun after h later => ?_⟩
    constructor
    · have earlier := run_registered (registered_start threshold) reached
      have made := registrations_of_memories (earlier.remembered name entry known)
      obtain ⟨⟨more, grown⟩, stays⟩ := run_stale (earlier.next (step_stepped step)) later
      have still : h.registrations[entry.id]? = some ⟨name, entry.id⟩ := by
        rw [← grown]
        exact (List.getElem?_append_left (List.getElem?_eq_some_iff.mp made).1).trans made
      have total
          : Fleet.run { threshold } (before ++ .call number outcome :: after) = some h := by
        rw [run_append, reached, Option.bind_some, run, step, Option.bind_some, later]
      refine (run_registered (registered_start threshold) total).gone still ?_
      exact stays _ (List.mem_of_getElem? made) (Registry.not_inForce_forget _ _ _)
    · have logged := run_logged (logged_start threshold) reached
      have attributed := run_attributed (attributed_start threshold) reached
      obtain ⟨progress, called, removing⟩ := run_removing .taken (logged.next step)
        (attributed.next step) (calls_setProgress_self asked _) later
      intro c result called' returned
      rw [called] at called'
      cases called'
      rw [log_append reached, log_cons step, ← List.append_assoc]
      exact removing.closed returned

/-- Witness: a printer is removed while its status is fetched, and the closing of its device fails. The
fetched status is refused, and the poller stops. -/
theorem run_removal_of_fetching
    : let bar : Member := ⟨"epson", "bar", 42, .empty⟩
      let lost : Fault := .timeout "no answer"
      let before : List Move :=
        [.add bar, .poller 0 (.proceed true), .poller 0 (.proceed true), .ask (.remove "bar")]
      let after : List Move :=
        [.call 0 (.ok ()), .call 0 (.ok ()), .poller 0 (.fetched (.ok .empty)), .call 0 (.ok ()),
          .call 0 (.error lost), .poller 0 (.proceed true), .call 0 (.ok ())]
      let moves := before ++ .call 0 (.ok ()) :: after
      ∃ h c,
        Fleet.run { threshold := 3 } moves = some h
        ∧ h.calls[0]? = some c
        ∧ c.result? = some (.error (.device "bar" lost))
        ∧ Gone h 0 (Fleet.history { threshold := 3 } moves)
        ∧ ClosedOnce 0 0 (some lost) (Fleet.log { threshold := 3 } moves) := by
  intro bar lost before after moves
  have asked
      : (Fleet.run { threshold := 3 } before).bind (·.calls[0]?) = some ⟨.remove "bar", .asked⟩ :=
    rfl
  have known
      : (Fleet.run { threshold := 3 } before).bind (·.registry.entries.get? "bar")
        = some ⟨0, bar⟩ := by
    decide
  have returned
      : (Fleet.run { threshold := 3 } moves).bind (·.calls[0]?)
        = some ⟨.remove "bar", .returned (.error (.device "bar" lost))⟩ :=
    rfl
  obtain ⟨f, reached, asked⟩ := Option.bind_eq_some_iff.mp asked
  obtain ⟨h, total, called⟩ := Option.bind_eq_some_iff.mp returned
  rw [reached, Option.bind_some] at known
  obtain ⟨g, step, _, removed⟩ := run_removal reached asked (.ok ())
  have later : g.run after = some h := by
    rw [run_append, reached, Option.bind_some, run, step, Option.bind_some] at total
    exact total
  obtain ⟨gone, closed⟩ := (removed ⟨0, bar⟩ known).2 after h later
  obtain ⟨fault, result, once⟩ := closed _ _ called rfl
  cases fault with
  | none => cases result
  | some fault =>
      cases result
      exact ⟨h, _, total, called, rfl, gone, once⟩

end ReceiptFleet.Fleet
