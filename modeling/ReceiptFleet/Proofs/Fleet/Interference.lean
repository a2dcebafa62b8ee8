import ReceiptFleet.Proofs.Fleet.Queues

/-!
What can come of registrations that are not over. From every state that a run reaches, some steps around one
such registration bring somebody to use its device, and they are nothing to other registrations. So two of
them at one device can come to use it at the same time.
-/

namespace ReceiptFleet.Fleet

variable {f g h : Fleet} {move : Move} {id number : Nat} {w : Watch}

-----------------------------------------------------------------------------------------
-- Sound states
-----------------------------------------------------------------------------------------

/-- What holds of every fleet that a run reaches. -/
structure Sound (f : Fleet) : Prop where
  registered : ∃ reports, Registered f reports
  logged : ∃ events, Logged f events
  orderly : Orderly f
  lined : Lined f

theorem sound_start (threshold : Nat) : Sound { threshold } :=
  ⟨⟨[], registered_start threshold⟩, ⟨[], logged_start threshold⟩, orderly_start threshold,
    lined_start threshold⟩

theorem Sound.next (sound : Sound f) (step : f.step move = some g) : Sound g := by
  obtain ⟨⟨_, registered⟩, ⟨_, logged⟩, orderly, lined⟩ := sound
  exact ⟨⟨_, registered.next (step_stepped step)⟩, ⟨_, logged.next step⟩,
    orderly.next registered step, lined.next logged.held orderly step⟩

theorem run_sound {moves : List Move} (sound : Sound f) (reached : f.run moves = some g)
    : Sound g :=
  run_invariant Sound.next sound reached

-----------------------------------------------------------------------------------------
-- Steps around one registration
-----------------------------------------------------------------------------------------

/-- The registration whose device a call has yet to use, or is using. -/
def wanted? (f : Fleet) (number : Nat) : Option Nat := f.calls[number]?.bind (·.progress.wants?)

/-- Two fleets differ only in the watch over one registration, in calls that want its device in both, and in
what is registered and known. -/
structure Beside (id : Nat) (f g : Fleet) : Prop where
  watches : ∀ other, other ≠ id → g.watch? other = f.watch? other
  calls
    : ∀ number,
        g.calls[number]? = f.calls[number]?
        ∨ f.wanted? number = some id ∧ g.wanted? number = some id
  dropped : g.registry.dropped = f.registry.dropped

/-- A fleet can go on to another by steps around one registration; no printer is registered on the way. -/
def Leads (id : Nat) (f g : Fleet) : Prop :=
  ∃ more,
    f.run more = some g ∧ (∀ move ∈ more, ∀ member, move ≠ .add member) ∧ Beside id f g

theorem Beside.refl (id : Nat) (f : Fleet) : Beside id f f :=
  ⟨fun _ _ => rfl, fun _ => .inl rfl, rfl⟩

theorem Beside.trans (first : Beside id f g) (second : Beside id g h) : Beside id f h := by
  refine ⟨fun other apart => ?_, fun number => ?_, second.dropped.trans first.dropped⟩
  · rw [second.watches other apart, first.watches other apart]
  · rcases first.calls number with same | ⟨wanted, between⟩
    · rw [← same, wanted?, ← same]
      exact second.calls number
    · rcases second.calls number with same | ⟨_, still⟩
      · exact .inr ⟨wanted, by rw [wanted?, same]; exact between⟩
      · exact .inr ⟨wanted, still⟩

theorem Leads.refl (id : Nat) (f : Fleet) : Leads id f f := ⟨[], rfl, nofun, .refl id f⟩

theorem Leads.trans (first : Leads id f g) (second : Leads id g h) : Leads id f h := by
  obtain ⟨more, reached, only, beside⟩ := first
  obtain ⟨further, reached', only', beside'⟩ := second
  refine ⟨more ++ further, ?_, ?_, beside.trans beside'⟩
  · rw [run_append, reached, Option.bind_some, reached']
  · intro move member
    exact (List.mem_append.mp member).elim (only move) (only' move)

theorem Leads.of_poller {signal : Signal} (step : f.step (.poller id signal) = some g)
    : Leads id f g := by
  refine ⟨[.poller id signal], by rw [run, step]; rfl, by simp, ?_⟩
  cases step_cases step with
  | @polled _ _ w w' r found _ told =>
      refine ⟨fun other apart => ?_, fun _ => .inl rfl, told.dropped⟩
      rw [watch?_setWatch (f := { f with registry := r }) found, if_neg apart]
      rfl

theorem Leads.of_call {outcome : Except Fault Unit} (wanted : f.wanted? number = some id)
    (still : g.wanted? number = some id) (step : f.step (.call number outcome) = some g)
    : Leads id f g := by
  refine ⟨[.call number outcome], by rw [run, step]; rfl, by simp, ?_⟩
  obtain ⟨c, called, going⟩ := stepCall_called step
  refine ⟨fun other apart => ?_, fun another => ?_, going.dropped⟩
  · have elsewhere {here : Nat} {v v' : Watch} {progress : Progress}
        (about : c.progress.wants? = some here) (known : f.watch? here = some v)
        : ((f.setWatch here v').setProgress number progress).watch? other = f.watch? other := by
      rw [wanted?, called, Option.bind_some, about] at wanted
      cases wanted
      exact (watch?_setWatch known _ other).trans (if_neg apart)
    cases going with
    | refused | taken | bound | begins | returns => rfl
    | cancels progress known | queues progress known | closed progress known
    | executed progress known =>
        exact elsewhere (by rw [progress]; rfl) known
  · by_cases same : number = another
    · subst same
      exact .inr ⟨wanted, still⟩
    · exact .inl (going.other_calls same)

-----------------------------------------------------------------------------------------
-- Coming to use a device
-----------------------------------------------------------------------------------------

/-- Somebody uses the device of a registration. -/
def InUse (f : Fleet) (id : Nat) : Prop :=
  ∃ access, f.InFlight access ∧ access.registration = id

/-- Steps around a registration can bring somebody to use its device. -/
def CanBeUsed (f : Fleet) (id : Nat) : Prop := ∃ g, Leads id f g ∧ g.InUse id

theorem CanBeUsed.of_leads (leads : Leads id f g) (later : g.CanBeUsed id) : f.CanBeUsed id := by
  obtain ⟨h, further, inUse⟩ := later
  exact ⟨h, leads.trans further, inUse⟩

theorem InUse.of_operation? {operation : Simulation.Operation} (found : f.watch? id = some w)
    (busy : w.activity.operation? = some operation)
    : f.InUse id := by
  refine ⟨⟨id, .poller, operation⟩, ?_, rfl⟩
  rw [InFlight, polling?, found]
  exact busy

theorem InUse.of_working {c : Call} {work : Work} (called : f.calls[number]? = some c)
    (working : c.progress = .working id work)
    : f.InUse id := by
  have calling : f.calling? number = some (id, Simulation.World.operationOf work) := by
    rw [calling?_of_progress called, working]
    rfl
  exact ⟨⟨id, .call number, Simulation.World.operationOf work⟩, calling, rfl⟩

theorem waiting_of_isLined {activity : Activity} (lined : activity.isLined = true)
    (idle : activity.operation? = none)
    : activity = .waiting := by
  cases activity with
  | waiting => rfl
  | due | pausing | stopped => cases lined
  | opening | fetching | closing => cases idle

/-- A poller that is first in the queue and not to stop can begin. -/
theorem canBeUsed_of_first_poller (found : f.watch? id = some w) (waiting : w.activity = .waiting)
    (first : w.queue.head? = some .poller) (goes : f.isCancelled w = false)
    : f.CanBeUsed id := by
  have step
      : f.step (.poller id (.proceed true))
        = some (f.setWatch id ({ w with poller := (w.poller.begin true).1 }.pursue .fetch)) := by
    simp [Fleet.step, stepPoller, found, waiting, Watch.holds, first, goes, Poller.begin]
  have busy : Activity.fetching.operation? = some .fetch := rfl
  exact ⟨_, .of_poller step, .of_operation? (watch?_setWatch_self found _) busy⟩

/-- So can a call. -/
theorem canBeUsed_of_first_call {c : Call} {work : Work} (called : f.calls[number]? = some c)
    (waiting : c.progress = .waiting id work) (found : f.watch? id = some w)
    (first : w.queue.head? = some (.call number))
    : f.CanBeUsed id := by
  have step
      : f.step (.call number (.ok ())) = some (f.setProgress number (.working id work)) := by
    simp [Fleet.step, stepCall, called, waiting, found, Watch.holds, first]
  have after := calls_setProgress_self called (.working id work)
  have wanted : f.wanted? number = some id := by rw [wanted?, called, Option.bind_some, waiting]; rfl
  refine ⟨_, .of_call wanted ?_ step, .of_working after rfl⟩
  rw [wanted?, after]
  rfl

/-- Whoever is first in a queue uses the device or can begin, but for a poller that is to stop. -/
theorem Sound.canBeUsed_of_first {agent : Agent} (sound : Sound f) (found : f.watch? id = some w)
    (first : w.queue.head? = some agent) (goes : agent = .poller → f.isCancelled w = false)
    : f.CanBeUsed id := by
  have inLine := ((sound.lined.queue id w found).2 agent).mp (List.mem_of_head? first)
  cases agent with
  | poller =>
      rw [inLine_poller_iff found] at inLine
      cases busy : w.activity.operation? with
      | some operation => exact ⟨f, .refl id f, .of_operation? found busy⟩
      | none =>
          have waiting := waiting_of_isLined inLine busy
          exact canBeUsed_of_first_poller found waiting first (goes rfl)
  | call number =>
      obtain ⟨c, called, lined⟩ := Option.bind_eq_some_iff.mp inLine
      cases progress : c.progress with
      | waiting here work =>
          rw [progress] at lined
          cases lined
          exact canBeUsed_of_first_call called progress found first
      | working here work =>
          rw [progress] at lined
          cases lined
          exact ⟨f, .refl id f, .of_working called progress⟩
      | asked | taken | bound | joining | returned =>
          rw [progress] at lined
          cases lined

/-- A poller that is not to stop can come to use its device: it joins the queue, whose first member can go
on. -/
theorem Sound.canBeUsed_of_poller (sound : Sound f) (found : f.watch? id = some w)
    (goes : f.isCancelled w = false)
    : f.CanBeUsed id := by
  have waits {f : Fleet} {w : Watch} (sound : Sound f) (found : f.watch? id = some w)
      (goes : f.isCancelled w = false) (waiting : w.activity = .waiting) : f.CanBeUsed id := by
    have inLine : f.InLine id .poller := by rw [inLine_poller_iff found, waiting]; rfl
    have member := ((sound.lined.queue id w found).2 .poller).mpr inLine
    cases queue : w.queue with
    | nil => rw [queue] at member; cases member
    | cons first others =>
        exact sound.canBeUsed_of_first found (by rw [queue]; rfl) fun _ => goes
  have isDue {f : Fleet} {w : Watch} (sound : Sound f) (found : f.watch? id = some w)
      (goes : f.isCancelled w = false) (due : w.activity = .due) : f.CanBeUsed id := by
    have step
        : f.step (.poller id (.proceed true))
          = some (f.setWatch id { w.join .poller with activity := .waiting }) := by
      simp [Fleet.step, stepPoller, found, due]
    exact .of_leads (.of_poller step)
      (waits (sound.next step) (watch?_setWatch_self found _) goes rfl)
  cases activity : w.activity with
  | due => exact isDue sound found goes activity
  | waiting => exact waits sound found goes activity
  | opening => exact ⟨f, .refl id f, .of_operation? found (by rw [activity]; rfl)⟩
  | fetching => exact ⟨f, .refl id f, .of_operation? found (by rw [activity]; rfl)⟩
  | closing => exact ⟨f, .refl id f, .of_operation? found (by rw [activity]; rfl)⟩
  | pausing =>
      have step
          : f.step (.poller id (.proceed true)) = some (f.setWatch id { w with activity := .due }) := by
        simp [Fleet.step, stepPoller, found, activity, goes]
      exact .of_leads (.of_poller step)
        (isDue (sound.next step) (watch?_setWatch_self found _) goes rfl)
  | stopped =>
      rw [sound.lined.stopped id w found activity] at goes
      cases goes

theorem wanted?_of_progress {c : Call} (called : f.calls[number]? = some c)
    : f.wanted? number = c.progress.wants? := by
  rw [wanted?, called, Option.bind_some]

/-- A call that is bound for a device is the first one in an empty queue. -/
theorem canBeUsed_of_bound {c : Call} {work : Work} (called : f.calls[number]? = some c)
    (bound : c.progress = .bound id work) (found : f.watch? id = some w) (empty : w.queue = [])
    : f.CanBeUsed id := by
  have step
      : f.step (.call number (.ok ()))
        = some
            ((f.setWatch id (w.join (.call number))).setProgress number (.waiting id work)) := by
    simp [Fleet.step, stepCall, called, bound, found]
  have after := calls_setProgress_self (f := f.setWatch id (w.join (.call number))) called
    (.waiting id work)
  refine .of_leads (.of_call ?_ (wanted?_of_progress after) step) ?_
  · rw [wanted?_of_progress called, bound]
    rfl
  · refine canBeUsed_of_first_call after rfl (watch?_setWatch_self found _) ?_
    rw [Watch.join, empty]
    rfl

/-- So is one that has taken an entry, once it has told the poller to stop. -/
theorem canBeUsed_of_taken {c : Call} (called : f.calls[number]? = some c)
    (taken : c.progress = .taken id) (found : f.watch? id = some w) (empty : w.queue = [])
    : f.CanBeUsed id := by
  have step
      : f.step (.call number (.ok ()))
        = some
            ((f.setWatch id { w with cancelled := true }).setProgress number
              (.bound id .close)) := by
    simp [Fleet.step, stepCall, called, taken, found]
  have after := calls_setProgress_self (f := f.setWatch id { w with cancelled := true }) called
    (.bound id .close)
  refine .of_leads (.of_call ?_ (wanted?_of_progress after) step) ?_
  · rw [wanted?_of_progress called, taken]
    rfl
  · exact canBeUsed_of_bound after rfl (watch?_setWatch_self found _) empty

/-- So can a call that wants the device, by induction over the queue: a poller that is to stop leaves it,
anybody else at its head can go on, and when it is empty the call is the next one in it. -/
theorem Sound.canBeUsed_of_wanted (sound : Sound f) (found : f.watch? id = some w)
    (wanted : f.wanted? number = some id)
    : f.CanBeUsed id := by
  induction queue : w.queue generalizing f w with
  | nil =>
      obtain ⟨c, called, wants⟩ := Option.bind_eq_some_iff.mp wanted
      cases progress : c.progress <;> rw [progress] at wants <;> cases wants
      · exact canBeUsed_of_taken called progress found queue
      · exact canBeUsed_of_bound called progress found queue
      · have inLine : f.InLine id (.call number) := by rw [inLine_call_iff called, progress]; rfl
        have member := ((sound.lined.queue id w found).2 _).mpr inLine
        rw [queue] at member
        cases member
      · exact ⟨f, .refl id f, .of_working called progress⟩
  | cons first others ih =>
      by_cases stops : first = .poller ∧ f.isCancelled w = true
      · obtain ⟨rfl, stops⟩ := stops
        cases busy : w.activity.operation? with
        | some operation => exact ⟨f, .refl id f, .of_operation? found busy⟩
        | none =>
            have inLine := ((sound.lined.queue id w found).2 .poller).mp (by simp [queue])
            rw [inLine_poller_iff found] at inLine
            have waiting := waiting_of_isLined inLine busy
            have step
                : f.step (.poller id (.proceed true)) = some (f.setWatch id (w.pursue .nothing)) := by
              simp [Fleet.step, stepPoller, found, waiting, Watch.holds, queue, stops]
            refine .of_leads (.of_poller step) ?_
            refine ih (sound.next step) (watch?_setWatch_self found _) wanted ?_
            simp [Watch.pursue, Watch.release, queue]
      · refine sound.canBeUsed_of_first found (by rw [queue]; rfl) fun poller => ?_
        exact eq_false_of_ne_true fun yes => stops ⟨poller, yes⟩

/-- The device of a registration that is not over can come to be used. -/
theorem Sound.canBeUsed (sound : Sound f) (found : f.watch? id = some w) (active : ¬ f.Over id)
    : f.CanBeUsed id := by
  by_cases wanted : ∃ number, f.wanted? number = some id
  · obtain ⟨number, wanted⟩ := wanted
    exact sound.canBeUsed_of_wanted found wanted
  · cases goes : f.isCancelled w with
    | false => exact sound.canBeUsed_of_poller found goes
    | true =>
        cases busy : w.activity.operation? with
        | some operation => exact ⟨f, .refl id f, .of_operation? found busy⟩
        | none =>
            refine absurd ⟨⟨w, found, goes, busy⟩, fun c member wants => ?_⟩ active
            obtain ⟨number, called⟩ := List.getElem?_of_mem member
            exact wanted ⟨number, (wanted?_of_progress called).trans wants⟩

-----------------------------------------------------------------------------------------
-- Two registrations side by side
-----------------------------------------------------------------------------------------

/-- What is over at one registration is none of the business of steps around another. -/
theorem Beside.over_of_over {other : Nat} (beside : Beside id f g) (apart : other ≠ id)
    (finished : g.Over other)
    : f.Over other := by
  obtain ⟨⟨w, found, cancelled, idle⟩, unwanted⟩ := finished
  rw [beside.watches other apart] at found
  rw [isCancelled, beside.dropped] at cancelled
  refine ⟨⟨w, found, cancelled, idle⟩, fun c member wants => ?_⟩
  obtain ⟨number, called⟩ := List.getElem?_of_mem member
  rcases beside.calls number with same | ⟨wanted, _⟩
  · exact unwanted c (List.mem_of_getElem? (same.trans called)) wants
  · rw [wanted?_of_progress called, wants] at wanted
    exact apart (Option.some.inj wanted)

theorem Beside.inUse {other : Nat} (beside : Beside id f g) (apart : other ≠ id)
    (inUse : f.InUse other)
    : g.InUse other := by
  obtain ⟨⟨registration, agent, operation⟩, inFlight, rfl⟩ := inUse
  refine ⟨⟨registration, agent, operation⟩, ?_, rfl⟩
  cases agent with
  | poller =>
      have polling : g.polling? registration = f.polling? registration := by
        rw [polling?, polling?, beside.watches registration apart]
      exact polling.trans inFlight
  | call number =>
      rcases beside.calls number with same | ⟨wanted, _⟩
      · have calling : g.calling? number = f.calling? number := by rw [calling?, calling?, same]
        exact calling.trans inFlight
      · obtain ⟨c, called, busy⟩ := Option.bind_eq_some_iff.mp inFlight
        rw [wanted?_of_progress called, Progress.wants?_of_operation? busy] at wanted
        exact absurd (Option.some.inj wanted) apart

/-- Two registrations that are not over can come to use their devices at the same time. -/
theorem Sound.canBothBeUsed {other : Nat} {v : Watch} (sound : Sound f)
    (found : f.watch? id = some w) (found' : f.watch? other = some v) (active : ¬ f.Over id)
    (active' : ¬ f.Over other) (apart : other ≠ id)
    : ∃ more g,
        f.run more = some g
        ∧ (∀ move ∈ more, ∀ member, move ≠ .add member)
        ∧ g.InUse id
        ∧ g.InUse other := by
  obtain ⟨g, ⟨more, reached, only, beside⟩, inUse⟩ := sound.canBeUsed found active
  have found'' := (beside.watches other apart).trans found'
  obtain ⟨h, ⟨further, reached', only', beside'⟩, inUse'⟩ :=
    (run_sound sound reached).canBeUsed found'' fun finished =>
      active' (beside.over_of_over apart finished)
  refine ⟨more ++ further, h, ?_, ?_, beside'.inUse apart.symm inUse, inUse'⟩
  · rw [run_append, reached, Option.bind_some, reached']
  · intro move member
    exact (List.mem_append.mp member).elim (only move) (only' move)

end ReceiptFleet.Fleet
