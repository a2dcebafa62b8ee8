import ReceiptFleet.Proofs.Fleet.Accesses

/-!
Logs of accesses. The log of a run says in order which accesses began and ended. What it says of one
registration is a row of accesses, each of which ends before the next one begins.
-/

namespace ReceiptFleet.Fleet

-----------------------------------------------------------------------------------------
-- The log of a run
-----------------------------------------------------------------------------------------

/-- An access begins, or ends with a fault or without. -/
inductive Event where
  | began (access : Access)
  | ended (access : Access) (fault : Option Fault)
deriving DecidableEq

def Event.access : Event → Access
  | .began access => access
  | .ended access _ => access

/-- The fault that an operation ends with in a move. -/
def Move.fault? : Move → Option Fault
  | .poller _ (.opened (.error fault)) => some fault
  | .poller _ (.fetched (.error fault)) => some fault
  | .poller _ (.closed (.error fault)) => some fault
  | .call _ (.error fault) => some fault
  | _ => none

/-- What a move from one fleet to another ends and begins. -/
def passage (f : Fleet) (move : Move) (g : Fleet) : List Event :=
  ((f.accessBy move).map fun access => .ended access move.fault?).toList
    ++ ((g.accessBy move).map .began).toList

/-- What ends and begins in the moves of a run. -/
def log (f : Fleet) : List Move → List Event
  | [] => []
  | move :: others =>
    match f.step move with
    | some g => f.passage move g ++ g.log others
    | none => []

/-- The events at the device of a registration. -/
def eventsAt (id : Nat) (events : List Event) : List Event :=
  events.filter (·.access.registration = id)

theorem eventsAt_append (id : Nat) (events more : List Event)
    : eventsAt id (events ++ more) = eventsAt id events ++ eventsAt id more :=
  List.filter_append _ _

/-- A row of accesses, each of which ends before the next one begins, up to the one that has not
ended. -/
inductive Serial : List Event → Option Access → Prop
  | nil : Serial [] none
  | began {events} (access : Access) (done : Serial events none)
    : Serial (events ++ [.began access]) (some access)
  | ended {events access} (fault : Option Fault) (current : Serial events (some access))
    : Serial (events ++ [.ended access fault]) none

-----------------------------------------------------------------------------------------
-- What a run preserves
-----------------------------------------------------------------------------------------

/-- A log says of every registration in order what is in flight at its device: one access at most, and
none that is not by the holder. -/
structure Logged (f : Fleet) (events : List Event) : Prop where
  held : Held f
  serial
    : ∀ id,
        ∃ current,
          Serial (eventsAt id events) current
          ∧ ∀ access, current = some access ↔ access.registration = id ∧ f.InFlight access

variable {f g : Fleet} {move : Move} {events : List Event}

/-- At most one access is in flight at the device of a registration. -/
theorem Logged.eq_of_inFlight (logged : Logged f events) {first second : Access}
    (one : f.InFlight first) (two : f.InFlight second)
    (same : first.registration = second.registration)
    : first = second := by
  obtain ⟨current, _, inFlight⟩ := logged.serial second.registration
  have this := (inFlight first).mpr ⟨same, one⟩
  rw [(inFlight second).mpr ⟨rfl, two⟩] at this
  exact (Option.some.inj this).symm

theorem access_of_mem_passage {event : Event} (member : event ∈ f.passage move g)
    : f.accessBy move = some event.access ∨ g.accessBy move = some event.access := by
  rw [passage, List.mem_append] at member
  rcases member with member | member
  · obtain ⟨access, own, rfl⟩ := Option.map_eq_some_iff.mp (Option.mem_toList.mp member)
    exact .inl own
  · obtain ⟨access, own, rfl⟩ := Option.map_eq_some_iff.mp (Option.mem_toList.mp member)
    exact .inr own

/-- What a move ends at a device was the one access in flight there. -/
theorem Serial.end {id : Nat} {current : Option Access}
    (serial : Serial (eventsAt id events) current) (move : Move)
    (inFlight : ∀ access, current = some access ↔ access.registration = id ∧ f.InFlight access)
    : ∃ rest,
        Serial
            (eventsAt id events
              ++ eventsAt id ((f.accessBy move).map fun access => .ended access move.fault?).toList)
            rest
        ∧ ∀ access,
            rest = some access
            ↔ access.registration = id
              ∧ ¬ move.IsBy access.registration access.agent
              ∧ f.InFlight access := by
  have others (access : Access) (apart : access.registration = id → f.accessBy move ≠ some access)
      : current = some access
        ↔ access.registration = id
          ∧ ¬ move.IsBy access.registration access.agent
          ∧ f.InFlight access := by
    rw [inFlight]
    constructor
    · rintro ⟨here, busy⟩
      exact ⟨here, fun own => apart here (accessBy_eq_some_iff.mpr ⟨own, busy⟩), busy⟩
    · rintro ⟨here, _, busy⟩
      exact ⟨here, busy⟩
  cases ending : f.accessBy move with
  | none =>
      refine ⟨current, by simpa [eventsAt] using serial, fun access => ?_⟩
      exact others access fun _ => by rw [ending]; nofun
  | some access =>
      obtain ⟨own, busy⟩ := accessBy_eq_some_iff.mp ending
      by_cases here : access.registration = id
      · have this := (inFlight access).mpr ⟨here, busy⟩
        subst this
        refine ⟨none, ?_, ?_⟩
        · simp only [eventsAt, Option.map_some, Option.toList_some, Event.access, here,
            decide_true, List.filter_cons_of_pos, List.filter_nil]
          exact serial.ended move.fault?
        · intro other
          refine ⟨nofun, fun ⟨there, another, busy⟩ => absurd own ?_⟩
          rw [Option.some.inj ((inFlight other).mpr ⟨there, busy⟩)]
          exact another
      · refine ⟨current, by simpa [eventsAt, Event.access, here] using serial, fun other => ?_⟩
        refine others other fun there same => ?_
        rw [ending] at same
        exact here (Option.some.inj same ▸ there)

/-- Every step keeps the log in order. What it ends is taken off the device first; what it begins finds
the device free, since its agent is the holder and is at nothing else. -/
theorem Logged.next (logged : Logged f events) (step : f.step move = some g)
    : Logged g (events ++ f.passage move g) := by
  have frame := step_frame logged.held step
  refine ⟨logged.held.next frame, fun id => ?_⟩
  obtain ⟨current, serial, inFlight⟩ := logged.serial id
  obtain ⟨rest, serial, left⟩ := serial.end move inFlight
  rw [passage, ← List.append_assoc, eventsAt_append, eventsAt_append]
  cases beginning : g.accessBy move with
  | none =>
      refine ⟨rest, by simpa [eventsAt] using serial, fun access => ?_⟩
      rw [frame.inFlight_iff, beginning, left]
      simp only [reduceCtorEq, false_or]
  | some access =>
      by_cases here : access.registration = id
      · have free : rest = none := by
          refine Option.eq_none_iff_forall_ne_some.mpr fun other that => ?_
          obtain ⟨there, another, busy⟩ := (left other).mp that
          have holds := logged.held other busy
          rw [there, ← here, (frame.held access beginning).1] at holds
          have own := (accessBy_eq_some_iff.mp beginning).1
          rw [Option.some.inj holds, here, ← there] at own
          exact another own
        subst free
        refine ⟨some access, ?_, fun other => ?_⟩
        · simp only [eventsAt, Option.map_some, Option.toList_some, Event.access, here,
            decide_true, List.filter_cons_of_pos, List.filter_nil] at serial ⊢
          exact serial.began access
        · rw [frame.inFlight_iff, beginning]
          constructor
          · rintro ⟨⟩
            exact ⟨here, .inl rfl⟩
          · rintro ⟨there, own | other⟩
            · exact own
            · cases (left _).mpr ⟨there, other⟩
      · refine ⟨rest, by simpa [eventsAt, Event.access, here] using serial, fun other => ?_⟩
        rw [frame.inFlight_iff, beginning, left]
        constructor
        · rintro ⟨there, other⟩
          exact ⟨there, .inr other⟩
        · rintro ⟨there, own | other⟩
          · exact absurd (Option.some.inj own ▸ there) here
          · exact ⟨there, other⟩

theorem log_cons (step : f.step move = some g) (others : List Move)
    : f.log (move :: others) = f.passage move g ++ g.log others := by
  rw [log, step]

theorem log_append {before : List Move} (reached : f.run before = some g) (after : List Move)
    : f.log (before ++ after) = f.log before ++ g.log after := by
  induction before generalizing f with
  | nil =>
      cases reached
      rfl
  | cons move others ih =>
      obtain ⟨next, step, rest⟩ := Option.bind_eq_some_iff.mp reached
      rw [List.cons_append, log_cons step, log_cons step, ih rest, List.append_assoc]

/-- What every step preserves of a fleet and its log, every run preserves, by induction over its moves. -/
theorem run_log_invariant {P : Fleet → List Event → Prop}
    (next
      : ∀ {f g : Fleet} {move : Move} {events : List Event},
          P f events → f.step move = some g → P g (events ++ f.passage move g))
    {moves : List Move} (start : P f events) (reached : f.run moves = some g)
    : P g (events ++ f.log moves) := by
  induction moves generalizing f events with
  | nil =>
      cases reached
      rw [log, List.append_nil]
      exact start
  | cons move others ih =>
      obtain ⟨f', step, rest⟩ := Option.bind_eq_some_iff.mp reached
      rw [log_cons step, ← List.append_assoc]
      exact ih (next start step) rest

theorem logged_start (threshold : Nat)
    : Logged { threshold } [] := by
  have idle (access : Access) : ¬ InFlight { threshold } access := by
    obtain ⟨registration, agent, operation⟩ := access
    cases agent <;> nofun
  refine ⟨fun access busy => absurd busy (idle access), fun id => ⟨none, .nil, fun access => ?_⟩⟩
  exact ⟨nofun, fun ⟨_, busy⟩ => absurd busy (idle access)⟩

/-- Every run keeps the log in order. -/
theorem run_logged {moves : List Move} (logged : Logged f events) (reached : f.run moves = some g)
    : Logged g (events ++ f.log moves) :=
  run_log_invariant Logged.next logged reached

end ReceiptFleet.Fleet
