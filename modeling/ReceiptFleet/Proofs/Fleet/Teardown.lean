import ReceiptFleet.Proofs.Fleet.Printing
import ReceiptFleet.Proofs.Fleet.WindingUp
import ReceiptFleet.Proofs.Keyed

/-!
Removing all printers of a fleet. The removals run side by side, in any order of their steps and those of
the pollers. Each goes through the stages of a removal whatever becomes of the others, and when all
have returned, every device has been closed once, nothing is registered, and nothing can happen any more.
-/

namespace ReceiptFleet

namespace Fleet

variable {f g : Fleet} {move : Move} {events : List Event} {first number : Nat} {name : String}
  {entry : Entry} {progress : Progress}

-----------------------------------------------------------------------------------------
-- One of many removals
-----------------------------------------------------------------------------------------

/-- How far the removal of a registered printer has got: its entry is still in the registry, or the removal
has taken it. -/
inductive Clearing (entry : Entry) (number : Nat) (name : String) (f : Fleet)
    (events : List Event) : Progress → Prop
  | asked (known : f.registry.entries.get? name = some entry)
    : Clearing entry number name f events .asked
  | taken {progress : Progress} (gone : f.registry.entries.get? name = none)
    (removing : Removing entry.id number name f events progress)
    : Clearing entry number name f events progress

/-- What an internal step does to the entries: nothing, unless it is the first step of a removal. -/
theorem internal_entries (internal : move.IsInternal) (step : f.step move = some g)
    : g.registry.entries = f.registry.entries
      ∨ ∃ number outcome c name,
          move = .call number outcome
          ∧ f.calls[number]? = some c
          ∧ c.request = .remove name
          ∧ g.registry.entries = f.registry.entries.erase name := by
  cases step_cases step with
  | kept | added | asked | dropped => cases internal
  | polled _ _ told => exact .inl told.entries
  | called called going =>
      cases going with
      | taken _ request => exact .inr ⟨_, _, _, _, rfl, called, request, rfl⟩
      | refused | bound | cancels | queues | begins | closed | executed | returns => exact .inl rfl

/-- The first step of a removal takes the entry. -/
theorem step_of_asked {outcome : Except Fault Unit}
    (called : f.calls[number]? = some { request := .remove name })
    (known : f.registry.entries.get? name = some entry)
    : f.step (.call number outcome)
      = some ({ f with registry := f.registry.forget name }.setProgress number
          (.taken entry.id)) := by
  simp only [Fleet.step, stepCall, called, Option.bind_eq_bind, Option.bind_some, Fleet.begin,
    beginRemoval, known]
  rfl

/-- Every internal step takes a removal on or leaves it where it is, if other calls leave its printer
alone. -/
theorem Clearing.next (clearing : Clearing entry number name f events progress)
    (logged : Logged f events) (attributed : Attributed f events)
    (called : f.calls[number]? = some ⟨.remove name, progress⟩) (internal : move.IsInternal)
    (kept
      : (∀ outcome, move ≠ .call number outcome)
        → g.registry.entries.get? name = f.registry.entries.get? name)
    (step : f.step move = some g)
    : ∃ progress',
        g.calls[number]? = some ⟨.remove name, progress'⟩
        ∧ Clearing entry number name g (events ++ f.passage move g) progress' := by
  cases clearing with
  | asked known =>
      by_cases own : ∃ outcome, move = .call number outcome
      · obtain ⟨outcome, rfl⟩ := own
        rw [step_of_asked called known] at step
        cases step
        refine ⟨.taken entry.id, calls_setProgress_self called _, .taken ?_ .taken⟩
        exact (Keyed.get?_erase _ _ _).trans (if_pos rfl)
      · have other (outcome : Except Fault Unit) (same : move = .call number outcome) : False :=
          own ⟨outcome, same⟩
        exact ⟨.asked, step_call_of_other called other step, .asked ((kept other).trans known)⟩
  | taken gone removing =>
      obtain ⟨progress', called', removing⟩ := removing.next logged attributed called step
      refine ⟨progress', called', .taken ?_ removing⟩
      rcases internal_entries internal step with same | ⟨_, _, _, other, _, _, _, erased⟩
      · rw [same, gone]
      · rw [erased, Keyed.get?_erase, gone, ite_self]

/-- A removal that has not returned goes on, or another agent at its device does. -/
theorem Clearing.goesOn {outcomes : Nat → Except Fault Unit}
    (clearing : Clearing entry number name f events progress) (sound : Sound f)
    (called : f.calls[number]? = some ⟨.remove name, progress⟩)
    (going : Call.result? ⟨.remove name, progress⟩ = none)
    : f.GoesOn outcomes := by
  cases clearing with
  | asked known =>
      exact goesOn_of_call number (by rw [step_of_asked called known]; rfl)
  | taken _ removing => exact removing.goesOn sound called going

/-- Once it has told the poller to stop, the poller is to stop. -/
theorem Clearing.stopping (clearing : Clearing entry number name f events progress)
    (told : progress ≠ .asked ∧ ∀ id, progress ≠ .taken id)
    : f.registry.entries.get? name = none ∧ f.Stopping entry.id := by
  cases clearing with
  | asked => exact absurd rfl told.1
  | taken gone removing =>
      refine ⟨gone, ?_⟩
      cases removing with
      | taken => exact absurd rfl (told.2 _)
      | bound stopping | waiting stopping | working stopping => exact stopping
      | joining retired | returned retired =>
          obtain ⟨w, found, stops, _⟩ := retired
          exact ⟨w, found, stops⟩

/-- The registration in its hands is that of the entry. -/
theorem Clearing.removes? {id : Nat} (clearing : Clearing entry number name f events progress)
    (removes : progress.removes? = some id)
    : id = entry.id := by
  cases clearing with
  | asked => cases removes
  | taken _ removing => cases removing <;> cases removes <;> rfl

-----------------------------------------------------------------------------------------
-- All removals
-----------------------------------------------------------------------------------------

/-- No call is under way. -/
def Idle (f : Fleet) : Prop := ∀ c ∈ f.calls, c.result?.isSome = true

/-- All printers of a map are being removed, by one call for each from a number on; the calls before have
returned, and nothing else is registered. -/
structure TearingDown (printers : Keyed Entry) (first : Nat) (f : Fleet) (events : List Event)
    : Prop where
  sound : Sound f
  accounted : Accounted f
  logged : Logged f events
  attributed : Attributed f events
  count : f.calls.length = first + printers.entries.length
  earlier : ∀ number < first, ∃ c, f.calls[number]? = some c ∧ c.result?.isSome = true
  each
    : ∀ i name entry,
        printers.entries[i]? = some (name, entry)
        → ∃ progress,
            f.calls[first + i]? = some ⟨.remove name, progress⟩
            ∧ Clearing entry (first + i) name f events progress
  left
    : ∀ name entry,
        f.registry.entries.get? name = some entry → printers.get? name = some entry

variable {printers : Keyed Entry}

/-- A call that can take a step is one of the removals. -/
theorem TearingDown.origin {outcome : Except Fault Unit}
    (down : TearingDown printers first f events) (step : f.step (.call number outcome) = some g)
    : ∃ i name entry progress,
        number = first + i
        ∧ printers.entries[i]? = some (name, entry)
        ∧ f.calls[number]? = some ⟨.remove name, progress⟩ := by
  obtain ⟨c, called, going⟩ := stepCall_called step
  have bound := (List.getElem?_eq_some_iff.mp called).1
  by_cases early : number < first
  · obtain ⟨c', called', returned⟩ := down.earlier number early
    cases called.symm.trans called'
    rw [going.result?_eq_none] at returned
    cases returned
  · obtain ⟨i, rfl⟩ := Nat.exists_eq_add_of_le (Nat.le_of_not_lt early)
    have place : i < printers.entries.length := by
      have := down.count
      omega
    rcases at_i : printers.entries[i] with ⟨name, entry⟩
    have found : printers.entries[i]? = some (name, entry) :=
      List.getElem?_eq_some_iff.mpr ⟨place, at_i⟩
    obtain ⟨progress, called', _⟩ := down.each i name entry found
    exact ⟨i, name, entry, progress, rfl, found, called'⟩

/-- Every internal step goes on with the teardown. -/
theorem TearingDown.next (down : TearingDown printers first f events)
    (internal : move.IsInternal) (step : f.step move = some g)
    : TearingDown printers first g (events ++ f.passage move g) := by
  refine {
    sound := down.sound.next step
    accounted := down.accounted.next step
    logged := down.logged.next step
    attributed := down.attributed.next step
    count := (internal.lengths step).2.trans down.count
    earlier := ?_
    each := ?_
    left := ?_
  }
  · intro number early
    obtain ⟨c, called, returned⟩ := down.earlier number early
    obtain ⟨result, returned'⟩ := Option.isSome_iff_exists.mp returned
    obtain ⟨called', _⟩ := next_of_returned called returned' step
    exact ⟨c, called', returned⟩
  · intro i name entry found
    obtain ⟨progress, called, clearing⟩ := down.each i name entry found
    refine clearing.next down.logged down.attributed called internal (fun other => ?_) step
    rcases internal_entries internal step with
      same | ⟨number, outcome, c, another, rfl, called', request, erased⟩
    · rw [same]
    · obtain ⟨j, name', entry', progress', rfl, found', removal⟩ := down.origin step
      cases called'.symm.trans removal
      cases request
      rw [erased, Keyed.get?_erase, if_neg]
      rintro rfl
      rw [Keyed.place_unique printers found found'] at other
      exact other outcome rfl
  · intro name entry known
    refine down.left name entry ?_
    rcases internal_entries internal step with same | ⟨_, _, _, other, _, _, _, erased⟩
    · rw [← same, known]
    · rw [erased, Keyed.get?_erase] at known
      split at known
      · cases known
      · exact known

/-- So does every run of internal moves, by induction over the moves. -/
theorem run_tearingDown {moves : List Move} (down : TearingDown printers first f events)
    (internal : ∀ move ∈ moves, move.IsInternal) (reached : f.run moves = some g)
    : TearingDown printers first g (events ++ f.log moves) := by
  induction moves generalizing f events with
  | nil =>
      cases reached
      rw [log, List.append_nil]
      exact down
  | cons move others ih =>
      obtain ⟨next, step, rest⟩ := Option.bind_eq_some_iff.mp reached
      obtain ⟨one, later⟩ := List.forall_mem_cons.mp internal
      rw [log_cons step, ← List.append_assoc]
      exact ih (down.next one step) later rest

/-- Every call is one of those before or one of the removals. -/
theorem TearingDown.cases (down : TearingDown printers first f events) {c : Call}
    (called : f.calls[number]? = some c)
    : (number < first ∧ c.result?.isSome = true)
      ∨ ∃ i name entry progress,
          number = first + i
          ∧ printers.entries[i]? = some (name, entry)
          ∧ c = ⟨.remove name, progress⟩
          ∧ Clearing entry number name f events progress := by
  by_cases early : number < first
  · obtain ⟨c', called', returned⟩ := down.earlier number early
    cases called.symm.trans called'
    exact .inl ⟨early, returned⟩
  · obtain ⟨i, rfl⟩ := Nat.exists_eq_add_of_le (Nat.le_of_not_lt early)
    have bound := (List.getElem?_eq_some_iff.mp called).1
    have place : i < printers.entries.length := by
      have := down.count
      omega
    have found : printers.entries[i]? = some (printers.entries[i].1, printers.entries[i].2) :=
      List.getElem?_eq_getElem place
    obtain ⟨progress, called', clearing⟩ := down.each i _ _ found
    cases called.symm.trans called'
    exact .inr ⟨i, _, _, progress, rfl, found, rfl, clearing⟩

/-- As long as a removal has not returned, the teardown goes on. -/
theorem TearingDown.goesOn (outcomes : Nat → Except Fault Unit)
    (down : TearingDown printers first f events) (busy : ¬ f.Idle)
    : f.GoesOn outcomes := by
  simp only [Idle, Classical.not_forall] at busy
  obtain ⟨c, member, unreturned⟩ := busy
  obtain ⟨number, called⟩ := List.getElem?_of_mem member
  rcases down.cases called with ⟨_, returned⟩ | ⟨i, name, entry, progress, rfl, _, rfl, clearing⟩
  · exact absurd returned unreturned
  · exact clearing.goesOn down.sound called (Option.not_isSome_iff_eq_none.mp unreturned)

/-- All removals can return, with any outcomes of the closings that are yet to come. The induction is on
what is left to be done. -/
theorem TearingDown.canFinish (outcomes : Nat → Except Fault Unit)
    (down : TearingDown printers first f events)
    : ∃ more g, (∀ move ∈ more, move.Heeds outcomes) ∧ f.run more = some g ∧ g.Idle := by
  induction left : f.remaining using Nat.strongRecOn generalizing f events with
  | ind left ih =>
      subst left
      by_cases idle : f.Idle
      · exact ⟨[], f, nofun, rfl, idle⟩
      · obtain ⟨move, next, heeds, step, less⟩ := down.goesOn outcomes idle
        obtain ⟨more, g, all, rest, idle⟩ := ih _ less (down.next heeds.isInternal step) rfl
        refine ⟨move :: more, g, List.forall_mem_cons.mpr ⟨heeds, all⟩, ?_, idle⟩
        rw [run, step]
        exact rest

/-- Once every removal has told its poller to stop, all pollers are to stop. -/
theorem TearingDown.ending (down : TearingDown printers first f events)
    (told : ∀ c ∈ f.calls, c.progress ≠ .asked ∧ ∀ id, c.progress ≠ .taken id)
    : f.Ending := by
  intro id w found
  rcases down.accounted id w found with ⟨name, entry, known, rfl⟩ | ⟨c, member, removes⟩ | stopped
  · obtain ⟨i, place⟩ := List.getElem?_of_mem (Keyed.get?_eq_some_iff.mp (down.left _ _ known))
    obtain ⟨progress, called, clearing⟩ := down.each i name entry place
    cases known.symm.trans (clearing.stopping (told _ (List.mem_of_getElem? called))).1
  · obtain ⟨number, called⟩ := List.getElem?_of_mem member
    rcases down.cases called with ⟨_, returned⟩ | ⟨_, name, entry, progress, _, _, rfl, clearing⟩
    · cases progress : c.progress <;> simp [progress, Call.result?] at returned
      rw [progress] at removes
      cases removes
    · obtain ⟨w', found', stops⟩ := (clearing.stopping (told _ member)).2
      rw [← clearing.removes? removes, found] at found'
      cases found'
      exact stops
  · exact down.sound.lined.stopped id w found stopped

/-- The fault that a call has ended its use of a device with. -/
def faultOf (number : Nat) (events : List Event) : Option Fault :=
  (eventsOf number events).findSome? fun
    | .began _ => none
    | .ended _ fault => fault

theorem ClosedOnce.faultOf {id : Nat} {fault : Option Fault}
    (closed : ClosedOnce id number fault events)
    : Fleet.faultOf number events = fault := by
  rw [Fleet.faultOf, closed.once]
  cases fault <;> rfl

/-- When all removals have returned, each has closed its device once, and returned the fault of that. -/
theorem TearingDown.closed (down : TearingDown printers first f events) (idle : f.Idle) {i : Nat}
    (found : printers.entries[i]? = some (name, entry))
    : f.registry.entries.get? name = none
      ∧ ClosedOnce entry.id (first + i) (faultOf (first + i) events) events
      ∧ f.calls[first + i]?
        = some
            ⟨.remove name, .returned (removalResult name (faultOf (first + i) events))⟩ := by
  obtain ⟨progress, called, clearing⟩ := down.each i name entry found
  have returned := idle _ (List.mem_of_getElem? called)
  cases clearing with
  | asked => cases returned
  | taken gone removing =>
      cases removing with
      | returned _ closed =>
          rw [closed.faultOf]
          exact ⟨gone, closed, called⟩
      | taken | bound | waiting | working | joining => cases returned

theorem TearingDown.unregistered (down : TearingDown printers first f events) (idle : f.Idle)
    (name : String)
    : f.registry.entries.get? name = none := by
  cases known : f.registry.entries.get? name with
  | none => rfl
  | some entry =>
      obtain ⟨i, place⟩ := List.getElem?_of_mem (Keyed.get?_eq_some_iff.mp (down.left _ _ known))
      exact known.symm.trans (down.closed idle place).1

-----------------------------------------------------------------------------------------
-- The beginning of a teardown
-----------------------------------------------------------------------------------------

/-- A fleet that is asked for several things has a call for each of them, in their order. -/
theorem run_asks (inUse : f.registry.dropped = false) (requests : List Request)
    : f.run (requests.map .ask)
      = some { f with calls := f.calls ++ requests.map fun request => { request } } := by
  induction requests generalizing f with
  | nil => simp [run]
  | cons request others ih =>
      have step : f.step (.ask request) = some { f with calls := f.calls ++ [{ request }] } := by
        simp [Fleet.step, inUse, ask]
      rw [List.map_cons, run, step, Option.bind_some]
      exact (ih (f := { f with calls := f.calls ++ [{ request }] }) inUse).trans (by simp)

/-- When the removals have been asked for, all printers are being removed. -/
theorem tearingDown_asked {threshold : Nat} {before : List Move} {asked : Fleet}
    (reached : Fleet.run { threshold } before = some f) (idle : f.Idle)
    (inUse : f.registry.dropped = false) (asks : f.run (f.closing.map .ask) = some asked)
    : TearingDown f.registry.entries f.calls.length asked
        (Fleet.log { threshold } (before ++ f.closing.map .ask)) := by
  have total : Fleet.run { threshold } (before ++ f.closing.map .ask) = some asked := by
    rw [run_append, reached, Option.bind_some, asks]
  rw [run_asks inUse] at asks
  cases asks
  refine {
    sound := run_sound (sound_start threshold) total
    accounted := run_invariant Accounted.next (accounted_start threshold) total
    logged := run_logged (logged_start threshold) total
    attributed := run_attributed (attributed_start threshold) total
    count := by simp [closing, Registry.names, Keyed.names]
    earlier := fun number early => ?_
    each := fun i name entry found => ?_
    left := fun _ _ known => known
  }
  · refine ⟨f.calls[number], ?_, idle _ (List.getElem_mem early)⟩
    exact (List.getElem?_append_left early).trans (List.getElem?_eq_getElem early)
  · refine ⟨.asked, ?_, .asked (Keyed.get?_eq_some_iff.mpr (List.mem_of_getElem? found))⟩
    rw [List.getElem?_append_right (Nat.le_add_right _ i), Nat.add_sub_cancel_left]
    simp [closing, Registry.names, Keyed.names, found]

-----------------------------------------------------------------------------------------
-- The end of a teardown
-----------------------------------------------------------------------------------------

/-- The removals of all printers: the names of these in order, with the numbers of the calls. -/
def removals (f : Fleet) : List (String × Nat) := f.registry.names.zipIdx f.calls.length

theorem getElem?_removals (i : Nat)
    : f.removals[i]? = f.registry.entries.entries[i]?.map fun (name, _) => (name, f.calls.length + i)
    := by
  rw [removals, List.getElem?_zipIdx, Registry.names, Keyed.names, List.getElem?_map,
    Option.map_map]
  rfl

/-- A teardown has failed if one of its removals has, and lists the failures in the order of the removals. -/
theorem teardownResult_removals (removals : List (String × Nat)) (fault : Nat → Option Fault)
    : let results := removals.map fun (name, number) => removalResult name (fault number)
      (teardownResult results = .ok () ↔ ∀ removal ∈ removals, fault removal.2 = none)
      ∧ ∀ error,
          teardownResult results = .error error
          → error.errors
            = removals.filterMap fun (name, number) => (fault number).map (.device name) := by
  intro results
  let errors : List CallError :=
    removals.filterMap fun (name, number) => (fault number).map (.device name)
  have failed
      : teardownResult results = if errors.isEmpty then .ok () else .error ⟨errors⟩ := by
    let failure (errors : List CallError) : Except TeardownError Unit :=
      if errors.isEmpty then .ok () else .error ⟨errors⟩
    refine congrArg failure (?_ : _ = errors)
    rw [List.filterMap_map]
    refine congrArg (fun view => removals.filterMap view) (funext fun (name, number) => ?_)
    simp only [Function.comp_apply]
    cases fault number <;> rfl
  have none : errors = [] ↔ ∀ removal ∈ removals, fault removal.2 = none := by
    simp [errors, List.filterMap_eq_nil_iff]
  rw [failed, ← none, ← List.isEmpty_iff]
  split
  · rename_i empty
    exact ⟨iff_of_true rfl empty, nofun⟩
  · rename_i some
    refine ⟨iff_of_false nofun some, fun error same => ?_⟩
    cases same
    rfl

/-- A call that has returned does nothing more. -/
theorem eventsOf_log_of_returned {moves : List Move} {c : Call} {result : Except CallError Unit}
    (called : f.calls[number]? = some c) (returned : c.result? = some result)
    (reached : f.run moves = some g)
    : eventsOf number (f.log moves) = [] := by
  have start : f.calls[number]? = some c ∧ eventsOf number [] = [] := ⟨called, rfl⟩
  have invariant := run_log_invariant
    (P := fun f events => f.calls[number]? = some c ∧ eventsOf number events = [])
    (fun ⟨called, unused⟩ step => by
      obtain ⟨called', idle⟩ := next_of_returned called returned step
      exact ⟨called', by rw [eventsOf_append, unused, idle, List.append_nil]⟩)
    start reached
  exact invariant.2

/-- All printers that a fleet had are removed. Each device was closed once, by the removal of its printer, and
no call used a device for anything else meanwhile; what the removals and the whole teardown return is
decided by the faults of these closings alone; nothing is left to be removed, and nothing more
can happen. -/
structure TornDown (f : Fleet) (events meanwhile : List Event) (g : Fleet) : Prop where
  closed
    : ∀ i name entry,
        f.registry.entries.entries[i]? = some (name, entry)
        → ClosedOnce entry.id (f.calls.length + i) (faultOf (f.calls.length + i) events) events
  only
    : ∀ event ∈ meanwhile, ∀ number,
        event.access.agent = .call number
        → ∃ i name entry,
            f.registry.entries.entries[i]? = some (name, entry)
            ∧ number = f.calls.length + i
            ∧ event.access = ⟨entry.id, .call number, .close⟩
  results
    : (g.calls.drop f.calls.length).filterMap (·.result?)
      = f.removals.map fun (name, number) => removalResult name (faultOf number events)
  names : g.registry.names = []
  statuses : g.registry.statuses = .empty
  finished : ∀ move, move.IsInternal → g.step move = none

theorem TearingDown.tornDown {asked : Fleet} {earlier : List Event} {after : List Move}
    (down : TearingDown f.registry.entries f.calls.length asked earlier)
    (internal : ∀ move ∈ after, move.IsInternal) (reached : asked.run after = some g)
    (idle : g.Idle)
    : TornDown f (earlier ++ asked.log after) (asked.log after) g := by
  have done := run_tearingDown down internal reached
  refine {
    closed := fun i name entry found => (done.closed idle found).2.1
    only := fun event member number agent => ?_
    results := ?_
    names := ?_
    statuses := ?_
    finished := fun move internal =>
      done.accounted.step_eq_none (done.unregistered idle) idle internal
  }
  · have logged : event ∈ earlier ++ asked.log after := List.mem_append_right _ member
    obtain ⟨c, called, _⟩ := done.attributed event logged number agent
    rcases done.cases called with ⟨early, _⟩ | ⟨i, name, entry, _, rfl, found, _⟩
    · obtain ⟨c', called', returned⟩ := down.earlier number early
      obtain ⟨result, returned⟩ := Option.isSome_iff_exists.mp returned
      have unused := eventsOf_log_of_returned called' returned reached
      rw [eventsOf, List.filter_eq_nil_iff] at unused
      exact absurd (decide_eq_true agent) (unused event member)
    · have own : event ∈ eventsOf (f.calls.length + i) (earlier ++ asked.log after) :=
        List.mem_filter.mpr ⟨logged, decide_eq_true agent⟩
      rw [(done.closed idle found).2.1.once, List.mem_cons, List.mem_singleton] at own
      refine ⟨i, name, entry, found, rfl, ?_⟩
      rcases own with rfl | rfl <;> rfl
  · have calls
        : g.calls.drop f.calls.length
          = f.removals.map fun (name, number) =>
              ⟨.remove name,
                .returned (removalResult name (faultOf number (earlier ++ asked.log after)))⟩ := by
      refine List.ext_getElem? fun i => ?_
      rw [List.getElem?_drop, List.getElem?_map, getElem?_removals]
      cases found : f.registry.entries.entries[i]? with
      | none =>
          rw [List.getElem?_eq_none_iff] at found
          rw [List.getElem?_eq_none (by have := done.count; omega)]
          rfl
      | some printer =>
          obtain ⟨name, entry⟩ := printer
          exact (done.closed idle found).2.2
    rw [calls, List.filterMap_map]
    exact congrFun List.filterMap_eq_map _
  · rw [Registry.names, Keyed.eq_empty_of_get? (done.unregistered idle)]
    rfl
  · refine Keyed.eq_empty_of_get? fun name => ?_
    cases known : g.registry.statuses.get? name with
    | none => rfl
    | some status =>
        obtain ⟨_, registered⟩ := done.sound.registered
        obtain ⟨entry, found, _⟩ := registered.published name status known
        cases found.symm.trans (done.unregistered idle name)

/-- Removing all printers, from any state that a run from the empty fleet reaches in which no call is under
way. The removals are asked for in the order of the names. Whatever then happens, in any order of the steps
of the removals and the pollers and with any outcomes of what they use the devices for, all removals can
still return, with any outcomes of the closings to come; and once each has told its poller to stop,
there is an end to all steps. When they have returned, all printers are removed, and the result is
decided by the closings: it is a success if none has failed, and otherwise has one error for each that has
failed, with its fault, in the order of the names. To remove all printers again is to ask for nothing, and
succeeds. -/
theorem run_teardown {threshold : Nat} {before : List Move} {f : Fleet}
    (reached : Fleet.run { threshold } before = some f) (idle : f.Idle)
    (inUse : f.registry.dropped = false)
    : let asks := f.closing.map .ask
      f.registry.names.Pairwise (· < ·)
      ∧ ∃ asked,
          f.run asks = some asked
          ∧ ∀ after g,
              (∀ move ∈ after, move.IsInternal)
              → asked.run after = some g
              → let events := Fleet.log { threshold } (before ++ asks ++ after)
                (∀ outcomes,
                  ∃ more h,
                    (∀ move ∈ more, move.Heeds outcomes) ∧ g.run more = some h ∧ h.Idle)
                ∧ ((∀ c ∈ g.calls, c.progress ≠ .asked ∧ ∀ id, c.progress ≠ .taken id)
                  → ∀ more h,
                      (∀ move ∈ more, move.IsInternal)
                      → g.run more = some h
                      → more.length ≤ 6 * (g.watches.length + g.calls.length))
                ∧ (g.Idle
                  → let results := (g.calls.drop f.calls.length).filterMap (·.result?)
                    TornDown f events (asked.log after) g
                    ∧ (teardownResult results = .ok ()
                      ↔ ∀ removal ∈ f.removals, faultOf removal.2 events = none)
                    ∧ (∀ error,
                        teardownResult results = .error error
                        → error.errors
                          = f.removals.filterMap fun (name, number) =>
                              (faultOf number events).map (.device name))
                    ∧ g.closing = []
                    ∧ teardownResult [] = .ok ()) := by
  intro asks
  obtain ⟨asked, begun⟩ : ∃ asked, f.run asks = some asked := ⟨_, run_asks inUse f.closing⟩
  refine ⟨List.pairwise_map.mpr f.registry.entries.sorted, asked, begun, ?_⟩
  intro after g internal later events
  have down := tearingDown_asked reached idle inUse begun
  have total : Fleet.run { threshold } (before ++ asks) = some asked := by
    rw [run_append, reached, Option.bind_some, begun]
  have now := run_tearingDown down internal later
  refine ⟨now.canFinish, fun told more h only reached' => ?_, fun done => ?_⟩
  · exact Nat.le_trans ((now.ending told).length_le only reached') g.remaining_le
  · have torn := down.tornDown internal later done
    rw [← log_append total] at torn
    obtain ⟨success, failure⟩ := teardownResult_removals f.removals fun n => faultOf n events
    rw [torn.results]
    refine ⟨torn, success, failure, ?_, rfl⟩
    rw [closing, torn.names, List.map_nil]

/-- Witness: of three printers the first and the last cannot be closed, and the removal of the last is
the first one to return. -/
theorem run_teardown_of_three
    : let member name : Member := ⟨"epson", name, 42, .empty⟩
      let before : List Move := [.add (member "kitchen"), .add (member "bar"), .add (member "grill")]
      let removal (number id : Nat) (outcome : Except Fault Unit) : List Move :=
        List.replicate 4 (.call number (.ok ())) ++ [.call number outcome]
          ++ List.replicate 3 (.poller id (.proceed false)) ++ [.call number (.ok ())]
      let after : List Move :=
        removal 2 0 (.error (.timeout "no answer")) ++ removal 0 1 (.error (.offline "no power"))
          ++ removal 1 2 (.ok ())
      ∃ f asked g,
        Fleet.run { threshold := 3 } before = some f
        ∧ f.run (f.closing.map .ask) = some asked
        ∧ asked.run after = some g
        ∧ TornDown f (Fleet.log { threshold := 3 } (before ++ f.closing.map .ask ++ after))
            (asked.log after) g
        ∧ teardownResult (g.calls.filterMap (·.result?))
          = .error
              ⟨[.device "bar" (.offline "no power"), .device "kitchen" (.timeout "no answer")]⟩ := by
  intro member before removal after
  let asks : List Move := ["bar", "grill", "kitchen"].map fun name => .ask (.remove name)
  have start
      : (Fleet.run { threshold := 3 } before).map
          (fun f => (f.calls.length, f.registry.dropped, f.registry.names))
        = some (0, false, ["bar", "grill", "kitchen"]) := by
    decide
  have ended
      : (Fleet.run { threshold := 3 } (before ++ asks ++ after)).map
          (fun g => g.calls.map (·.result?))
        = some
            [some (.error (.device "bar" (.offline "no power"))), some (.ok ()),
              some (.error (.device "kitchen" (.timeout "no answer")))] := by
    decide +kernel
  obtain ⟨f, reached, same⟩ := Option.map_eq_some_iff.mp start
  obtain ⟨g, total, results⟩ := Option.map_eq_some_iff.mp ended
  simp only [Prod.mk.injEq, List.length_eq_zero_iff] at same
  obtain ⟨unused, inUse, names⟩ := same
  have idle : f.Idle := by
    rw [Idle, unused]
    exact nofun
  have closes : f.closing.map .ask = asks := by
    rw [closing, names]
    rfl
  obtain ⟨_, asked, begun, torn⟩ := run_teardown reached idle inUse
  have later : asked.run after = some g := by
    rw [closes] at begun
    rw [run_append, run_append, reached, Option.bind_some, begun, Option.bind_some] at total
    exact total
  have internal : ∀ move ∈ after, move.IsInternal := by
    simp [after, removal, Move.IsInternal]
  have returned : ∀ result ∈ g.calls.map (·.result?), result.isSome = true := by
    rw [results]
    decide
  rw [List.forall_mem_map] at returned
  refine ⟨f, asked, g, reached, begun, later, ((torn after g internal later).2.2 returned).1, ?_⟩
  have collected
      : g.calls.filterMap (·.result?) = (g.calls.map (·.result?)).filterMap id := by
    rw [List.filterMap_map]
    rfl
  rw [collected, results]
  rfl

end Fleet

end ReceiptFleet
