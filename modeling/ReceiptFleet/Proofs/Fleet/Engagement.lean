import ReceiptFleet.Proofs.Fleet.AccessLogs
import ReceiptFleet.Proofs.Fleet.Registrations
import ReceiptFleet.Proofs.Fleet.Retirement

/-!
Who will still use a device. A registration is over when its poller has retired and no call wants its
device any more. While one registration of a device at most is not over, one operation at most is in flight
at the device; and it stays so if the device is registered again only when its registrations are over.
-/

namespace ReceiptFleet.Fleet

variable {f g : Fleet} {move : Move} {id number : Nat} {device : String}

-----------------------------------------------------------------------------------------
-- Registrations that are over
-----------------------------------------------------------------------------------------

/-- The registration whose device a call has yet to use, or is using. -/
def Progress.wants? : Progress → Option Nat
  | .taken id | .bound id _ | .waiting id _ | .working id _ => some id
  | .asked | .joining _ _ | .returned _ => none

theorem Progress.wants?_of_operation? {progress : Progress} {operation : Simulation.Operation}
    (busy : progress.operation? = some (id, operation))
    : progress.wants? = some id := by
  cases progress with
  | working here work =>
      obtain ⟨rfl, _⟩ := Prod.mk.inj (Option.some.inj busy)
      rfl
  | asked | taken | bound | waiting | joining | returned => cases busy

/-- Nobody will use the device of a registration any more. -/
def Over (f : Fleet) (id : Nat) : Prop :=
  f.Retired id ∧ ∀ c ∈ f.calls, c.progress.wants? ≠ some id

/-- The device of a registration. -/
def device? (f : Fleet) (id : Nat) : Option String := (f.watch? id).map (·.member.device)

/-- A registration is engaged at its device until it is over. -/
def Engaged (f : Fleet) (device : String) (id : Nat) : Prop :=
  f.device? id = some device ∧ ¬ f.Over id

/-- At most one registration is engaged at a device. -/
def Sole (f : Fleet) (device : String) : Prop :=
  ∀ first second, f.Engaged device first → f.Engaged device second → first = second

/-- At most one operation is in flight at a device. -/
def Exclusive (f : Fleet) (device : String) : Prop :=
  ∀ first second,
    f.InFlight first
    → f.InFlight second
    → f.device? first.registration = some device
    → f.device? second.registration = some device
    → first = second

instance (f : Fleet) (id : Nat) : Decidable (f.Retired id) :=
  inferInstanceAs
    (Decidable
      (∃ w, w ∈ f.watch? id ∧ f.isCancelled w = true ∧ w.activity.operation? = none))

instance (f : Fleet) (id : Nat) : Decidable (f.Over id) := inferInstanceAs (Decidable (_ ∧ _))

instance (f : Fleet) (device : String) (id : Nat) : Decidable (f.Engaged device id) :=
  inferInstanceAs (Decidable (_ ∧ _))

-----------------------------------------------------------------------------------------
-- Where calls, entries and watches come from
-----------------------------------------------------------------------------------------

theorem mem_calls_origin {c' : Call} (member : c' ∈ g.calls) (step : f.step move = some g)
    : c' ∈ f.calls
      ∨ c'.progress = .asked
      ∨ ∃ number outcome c,
          f.calls[number]? = some c
          ∧ g.calls[number]? = some c'
          ∧ Called f number c outcome g := by
  obtain ⟨number, called'⟩ := List.getElem?_of_mem member
  rcases step_call_origin called' step with old | asked | ⟨outcome, c, _, called, going⟩
  · exact .inl (List.mem_of_getElem? old)
  · exact .inr (.inl asked)
  · exact .inr (.inr ⟨number, outcome, c, called, called', going⟩)

/-- A call that goes on wants what it wanted, or begins to want the device of an entry. -/
theorem Called.wants? {c c' : Call} {outcome : Except Fault Unit}
    (going : Called f number c outcome g) (called : f.calls[number]? = some c)
    (called' : g.calls[number]? = some c') (wants : c'.progress.wants? = some id)
    : c.progress.wants? = some id
      ∨ c.progress = .asked
        ∧ ∃ name entry, f.registry.entries.get? name = some entry ∧ entry.id = id := by
  have after {f' : Fleet} {progress : Progress} (same : f'.calls = f.calls)
      (next : (f'.setProgress number progress).calls[number]? = some c')
      : progress.wants? = some id := by
    rw [calls_setProgress_self (same ▸ called)] at next
    cases next
    exact wants
  cases going with
  | refused | closed | executed | returns => cases after rfl called'
  | taken asked _ found => exact .inr ⟨asked, _, _, found, Option.some.inj (after rfl called')⟩
  | bound asked found => exact .inr ⟨asked, _, _, found, Option.some.inj (after rfl called')⟩
  | cancels progress _ | queues progress _ | begins progress _ _ =>
      have wanted := after rfl called'
      rw [progress]
      exact .inl wanted

/-- A call that has just taken an entry has taken it out of the registry. -/
theorem Called.forgets {c c' : Call} {outcome : Except Fault Unit}
    (going : Called f number c outcome g) (called : f.calls[number]? = some c)
    (called' : g.calls[number]? = some c') (taken : c'.progress = .taken id)
    : ∃ name entry,
        f.registry.entries.get? name = some entry
        ∧ entry.id = id
        ∧ g.registry = f.registry.forget name := by
  have after {f' : Fleet} {progress : Progress} (same : f'.calls = f.calls)
      (next : (f'.setProgress number progress).calls[number]? = some c')
      : progress = .taken id := by
    rw [calls_setProgress_self (same ▸ called)] at next
    cases next
    exact taken
  cases going with
  | refused | bound | cancels | queues | begins | closed | executed | returns =>
      cases after rfl called'
  | taken _ _ found =>
      cases after rfl called'
      exact ⟨_, _, found, rfl, rfl⟩

/-- An entry after a step was there before it, or is that of a new watch. -/
theorem step_entries {name : String} {entry : Entry}
    (known : g.registry.entries.get? name = some entry) (step : f.step move = some g)
    : f.registry.entries.get? name = some entry
      ∨ entry.id = f.watches.length
        ∧ ∃ w, g.watch? entry.id = some w ∧ w.cancelled = false := by
  cases step_cases step with
  | kept | asked | dropped => exact .inl known
  | added =>
      rw [Registry.register, Keyed.get?_insert] at known
      split at known
      · cases known
        exact .inr ⟨rfl, _, List.getElem?_concat_length, rfl⟩
      · exact .inl known
  | polled _ _ told => exact .inl (told.entries ▸ known)
  | called _ going =>
      cases going with
      | taken =>
          simp only [setProgress, Registry.forget, Keyed.get?_erase] at known
          split at known
          · cases known
          · exact .inl known
      | refused | bound | cancels | queues | begins | closed | executed | returns =>
          exact .inl known

/-- A watch after a step was there before it, or is that of a new registration. -/
theorem step_watch_origin {w' : Watch} (found : g.watch? id = some w')
    (step : f.step move = some g)
    : (∃ w, f.watch? id = some w)
      ∨ ∃ member,
          move = .add member
          ∧ f.registry.entries.get? member.name = none
          ∧ id = f.watches.length
          ∧ w'.member = member
          ∧ w'.activity = .due
          ∧ w'.queue = [] := by
  have old (same : g.watches.length = f.watches.length) : ∃ w, f.watch? id = some w := by
    have bound := (List.getElem?_eq_some_iff.mp found).1
    exact ⟨_, List.getElem?_eq_getElem (same ▸ bound)⟩
  cases step_cases step with
  | kept | asked | dropped => exact .inl ⟨w', found⟩
  | added _ new =>
      rcases getElem?_concat_eq_some found with known | ⟨last, rfl⟩
      · exact .inl ⟨w', known⟩
      · exact .inr ⟨_, rfl, new, last, rfl, rfl, rfl⟩
  | polled => exact .inl (old List.length_set)
  | called _ going =>
      cases going with
      | refused | taken | bound | begins | returns => exact .inl ⟨w', found⟩
      | cancels | queues | closed | executed => exact .inl (old List.length_set)

-----------------------------------------------------------------------------------------
-- Order among registry, watches and calls
-----------------------------------------------------------------------------------------

/-- The poller of an entry was not told to stop; an entry that a call has taken is in the registry no
more; the registration that a call is about has a watch; and calls of a dropped fleet have returned. -/
structure Orderly (f : Fleet) : Prop where
  watched
    : ∀ name entry,
        f.registry.entries.get? name = some entry
        → ∃ w, f.watch? entry.id = some w ∧ w.cancelled = false
  taken
    : ∀ c ∈ f.calls, ∀ id,
        c.progress = .taken id
        → ∀ name entry, f.registry.entries.get? name = some entry → entry.id ≠ id
  known
    : ∀ c ∈ f.calls, ∀ id, c.progress.wants? = some id → ∃ w, f.watch? id = some w
  dropped : f.registry.dropped = true → ∀ c ∈ f.calls, c.result?.isSome = true

theorem orderly_start (threshold : Nat) : Orderly { threshold } :=
  ⟨nofun, nofun, nofun, nofun⟩

/-- Who goes on has not returned. -/
theorem Called.result?_eq_none {c : Call} {outcome : Except Fault Unit}
    (going : Called f number c outcome g)
    : c.result? = none := by
  cases going with
  | refused progress | taken progress _ _ | bound progress _ | cancels progress _
  | queues progress _ | begins progress _ _ | closed progress _ | executed progress _
  | returns progress _ _ =>
      rw [Call.result?, progress]

theorem Called.dropped {c : Call} {outcome : Except Fault Unit}
    (going : Called f number c outcome g)
    : g.registry.dropped = f.registry.dropped := by
  cases going <;> rfl

/-- Every step keeps this order. -/
theorem Orderly.next {reports : List Report} (orderly : Orderly f)
    (registered : Registered f reports) (step : f.step move = some g)
    : Orderly g := by
  refine ⟨?_, ?_, ?_, ?_⟩
  · intro name entry found
    rcases step_entries found step with old | ⟨_, new⟩
    · obtain ⟨w, watched, free⟩ := orderly.watched name entry old
      obtain ⟨w', passes⟩ := step_passes watched step
      refine ⟨w', passes.found, ?_⟩
      rcases passes.cancelled with same | ⟨_, number, outcome, c, _, called, taken⟩
      · rw [same, free]
      · exact absurd rfl (orderly.taken c (List.mem_of_getElem? called) _ taken name entry old)
    · exact new
  · intro c' member id taken name entry found same
    rcases mem_calls_origin member step with old | asked | ⟨_, _, c, called, called', going⟩
    · rcases step_entries found step with entered | ⟨last, _⟩
      · exact orderly.taken c' old id taken name entry entered same
      · obtain ⟨w, watched⟩ := orderly.known c' old id (by rw [taken]; rfl)
        have bound := (List.getElem?_eq_some_iff.mp watched).1
        omega
    · rw [asked] at taken
      cases taken
    · obtain ⟨other, another, known, rfl, forgotten⟩ := going.forgets called called' taken
      rw [forgotten, Registry.forget, Keyed.get?_erase] at found
      split at found
      · cases found
      · rename_i apart
        exact apart (registered.name_unique found known same)
  · intro c' member id wants
    have stays {w : Watch} (watched : f.watch? id = some w) : ∃ w', g.watch? id = some w' := by
      obtain ⟨w', passes⟩ := step_passes watched step
      exact ⟨w', passes.found⟩
    rcases mem_calls_origin member step with old | asked | ⟨_, _, c, called, called', going⟩
    · obtain ⟨w, watched⟩ := orderly.known c' old id wants
      exact stays watched
    · rw [asked] at wants
      cases wants
    · rcases going.wants? called called' wants with old | ⟨_, name, entry, found, rfl⟩
      · obtain ⟨w, watched⟩ := orderly.known c (List.mem_of_getElem? called) id old
        exact stays watched
      · obtain ⟨w, watched, _⟩ := orderly.watched name entry found
        exact stays watched
  · intro dropped c' member
    cases step_cases step with
    | kept inUse | added inUse | asked inUse =>
        exact absurd dropped (by simp [inUse, Registry.register])
    | polled _ _ told => exact orderly.dropped (told.dropped.symm.trans dropped) c' member
    | called called going =>
        have returned := orderly.dropped (going.dropped.symm.trans dropped) _
          (List.mem_of_getElem? called)
        rw [going.result?_eq_none] at returned
        cases returned
    | dropped done => exact done c' member

/-- What is over remains over, since calls begin with entries, whose pollers were not told to stop. -/
theorem Over.next (finished : f.Over id) (orderly : Orderly f) (step : f.step move = some g)
    : g.Over id := by
  refine ⟨finished.1.next step, fun c' member wants => ?_⟩
  rcases mem_calls_origin member step with old | asked | ⟨_, _, c, called, called', going⟩
  · exact finished.2 c' old wants
  · rw [asked] at wants
    cases wants
  · have old := List.mem_of_getElem? called
    rcases going.wants? called called' wants with wanted | ⟨asked, name, entry, found, rfl⟩
    · exact finished.2 c old wanted
    · obtain ⟨w, watched, free⟩ := orderly.watched name entry found
      obtain ⟨w', same, cancelled, _⟩ := finished.1
      rw [watched] at same
      cases same
      rw [isCancelled, free, Bool.false_or] at cancelled
      have returned := orderly.dropped cancelled c old
      rw [Call.result?, asked] at returned
      cases returned

-----------------------------------------------------------------------------------------
-- One engaged registration at most
-----------------------------------------------------------------------------------------

theorem device?_of_watch {w : Watch} (found : f.watch? id = some w)
    : f.device? id = some w.member.device := by
  rw [device?, found]
  rfl

theorem step_device {device : String} (known : f.device? id = some device)
    (step : f.step move = some g)
    : g.device? id = some device := by
  obtain ⟨w, found, rfl⟩ := Option.map_eq_some_iff.mp known
  obtain ⟨w', passes⟩ := step_passes found step
  rw [device?_of_watch passes.found, passes.member]

/-- Only a new registration comes to be engaged. -/
theorem Engaged.origin (engaged : g.Engaged device id) (orderly : Orderly f)
    (step : f.step move = some g)
    : f.Engaged device id
      ∨ ∃ member,
          move = .add member
          ∧ member.device = device
          ∧ f.registry.entries.get? member.name = none
          ∧ id = f.watches.length := by
  obtain ⟨here, active⟩ := engaged
  obtain ⟨w', found, rfl⟩ := Option.map_eq_some_iff.mp here
  rcases step_watch_origin found step with ⟨w, old⟩ | ⟨_, added, new, last, rfl, _⟩
  · refine .inl ⟨?_, fun finished => active (finished.next orderly step)⟩
    obtain ⟨after, passes⟩ := step_passes old step
    have same := passes.found
    rw [found] at same
    cases same
    rw [device?_of_watch old, passes.member]
  · exact .inr ⟨_, added, rfl, new, last⟩

/-- Whoever uses a device does so for a registration that is engaged. -/
theorem Engaged.of_inFlight {access : Access} (inFlight : f.InFlight access)
    (here : f.device? access.registration = some device)
    : f.Engaged device access.registration := by
  refine ⟨here, fun finished => ?_⟩
  cases agent : access.agent with
  | poller => exact finished.1.agent_ne_poller inFlight rfl agent
  | call number =>
      rw [InFlight, agent] at inFlight
      obtain ⟨c, called, busy⟩ := Option.bind_eq_some_iff.mp inFlight
      exact finished.2 c (List.mem_of_getElem? called) (Progress.wants?_of_operation? busy)

/-- A move registers a device only when no registration is engaged there. -/
def Admits (f : Fleet) (device : String) : Move → Prop
  | .add member =>
    member.device = device
    → f.registry.entries.get? member.name = none
    → ∀ id < f.watches.length, ¬ f.Engaged device id
  | .ask _ | .poller _ _ | .call _ _ | .drop => True

/-- So do all moves of a run. -/
def Timely (device : String) (f : Fleet) : List Move → Prop
  | [] => True
  | move :: others => f.Admits device move ∧ ∀ g ∈ f.step move, Timely device g others

instance (f : Fleet) (device : String) : (move : Move) → Decidable (f.Admits device move)
  | .add _ => inferInstanceAs (Decidable (_ → _ → _))
  | .ask _ | .poller _ _ | .call _ _ | .drop => .isTrue trivial

instance decidableTimely (device : String)
    : (f : Fleet) → (moves : List Move) → Decidable (Timely device f moves)
  | _, [] => .isTrue trivial
  | _, _ :: others =>
    have (g : Fleet) : Decidable (Timely device g others) := decidableTimely device g others
    inferInstanceAs (Decidable (_ ∧ _))

/-- A device with one engaged registration at most is used by one agent at a time. -/
theorem Sole.exclusive {events : List Event} (sole : f.Sole device) (logged : Logged f events)
    : f.Exclusive device := by
  intro first second one two here there
  exact logged.eq_of_inFlight one two
    (sole _ _ (.of_inFlight one here) (.of_inFlight two there))

/-- It remains one, unless the device is registered again too early. -/
theorem Sole.next (sole : f.Sole device) (orderly : Orderly f) (admits : f.Admits device move)
    (step : f.step move = some g)
    : g.Sole device := by
  have fresh {member : Member} (added : move = .add member) (here : member.device = device)
      (new : f.registry.entries.get? member.name = none) (other : Nat)
      : ¬ f.Engaged device other := by
    subst added
    intro engaged
    obtain ⟨w, found, _⟩ := Option.map_eq_some_iff.mp engaged.1
    exact admits here new other (List.getElem?_eq_some_iff.mp found).1 engaged
  intro first second one two
  rcases one.origin orderly step with one | ⟨_, added, here, new, last⟩ <;>
    rcases two.origin orderly step with two | ⟨_, added', here', new', last'⟩
  · exact sole first second one two
  · exact absurd one (fresh added' here' new' first)
  · exact absurd two (fresh added here new second)
  · rw [last, last']

end ReceiptFleet.Fleet
