import ReceiptFleet.Proofs.Fleet.Steps

/-!
Access to devices. Whoever uses the device of a registration stands at the head of its queue, so in every
order of steps the uses on behalf of one registration follow each other: each one ends before the next
begins.
-/

namespace ReceiptFleet.Fleet

open Simulation (Operation World)

-----------------------------------------------------------------------------------------
-- Accesses in flight
-----------------------------------------------------------------------------------------

/-- An access to the device of a registration: by whom, and for which operation. -/
structure Access where
  registration : Nat
  agent : Agent
  operation : Operation
deriving DecidableEq

/-- The registration whose device a call is using, and the operation. -/
def Progress.operation? : Progress → Option (Nat × Operation)
  | .working id work => some (id, World.operationOf work)
  | .asked | .taken _ | .bound _ _ | .waiting _ _ | .joining _ _ | .returned _ => none

/-- The operation that the poller of a registration is in the middle of. -/
def polling? (f : Fleet) (id : Nat) : Option Operation :=
  (f.watch? id).bind (·.activity.operation?)

/-- The operation that a call is in the middle of, with its registration. -/
def calling? (f : Fleet) (number : Nat) : Option (Nat × Operation) :=
  f.calls[number]?.bind (·.progress.operation?)

/-- An access is in flight when it has begun and not ended. -/
def InFlight (f : Fleet) (access : Access) : Prop :=
  match access.agent with
  | .poller => f.polling? access.registration = some access.operation
  | .call number => f.calling? number = some (access.registration, access.operation)

/-- Who holds the device of a registration: the first one in its queue. -/
def holder? (f : Fleet) (id : Nat) : Option Agent := (f.watch? id).bind (·.queue.head?)

/-- Accesses in flight are those of the holders of the devices. -/
def Held (f : Fleet) : Prop :=
  ∀ access, f.InFlight access → f.holder? access.registration = some access.agent

variable {f g : Fleet} {move : Move}

-----------------------------------------------------------------------------------------
-- The agent of a move
-----------------------------------------------------------------------------------------

/-- A move of an agent at the device of a registration. -/
def Move.IsBy : Move → Nat → Agent → Prop
  | .poller id _, registration, agent => registration = id ∧ agent = .poller
  | .call number _, _, agent => agent = .call number
  | .add _, _, _ | .ask _, _, _ | .drop, _, _ => False

/-- The access that the agent of a move is in the middle of. -/
def accessBy (f : Fleet) : Move → Option Access
  | .poller id _ => (f.polling? id).map fun operation => ⟨id, .poller, operation⟩
  | .call number _ => (f.calling? number).map fun (id, operation) => ⟨id, .call number, operation⟩
  | .add _ | .ask _ | .drop => none

/-- It is the only one of that agent that is in flight. -/
theorem accessBy_eq_some_iff {access : Access}
    : f.accessBy move = some access
      ↔ move.IsBy access.registration access.agent ∧ f.InFlight access := by
  obtain ⟨registration, agent, operation⟩ := access
  cases move with
  | add | ask | drop => simp [accessBy, Move.IsBy]
  | poller id signal =>
      simp only [accessBy, Move.IsBy, Option.map_eq_some_iff, Access.mk.injEq]
      constructor
      · rintro ⟨_, busy, rfl, rfl, rfl⟩
        exact ⟨⟨rfl, rfl⟩, busy⟩
      · rintro ⟨⟨rfl, rfl⟩, busy⟩
        exact ⟨operation, busy, rfl, rfl, rfl⟩
  | call number outcome =>
      simp only [accessBy, Move.IsBy, Option.map_eq_some_iff, Access.mk.injEq, Prod.exists]
      constructor
      · rintro ⟨_, _, busy, rfl, rfl, rfl⟩
        exact ⟨rfl, busy⟩
      · rintro ⟨rfl, busy⟩
        exact ⟨registration, operation, busy, rfl, rfl, rfl⟩

-----------------------------------------------------------------------------------------
-- Watches and calls after a step
-----------------------------------------------------------------------------------------

@[simp] theorem calls_setWatch (id : Nat) (w : Watch)
    : (f.setWatch id w).calls = f.calls :=
  rfl

theorem watch?_setWatch {id : Nat} {w : Watch} (found : f.watch? id = some w) (w' : Watch)
    (other : Nat)
    : (f.setWatch id w').watch? other = if other = id then some w' else f.watch? other := by
  have bound : id < f.watches.length := (List.getElem?_eq_some_iff.mp found).1
  simp only [setWatch, watch?, List.getElem?_set, bound, if_true, eq_comm]

theorem watch?_setWatch_self {id : Nat} {w : Watch} (found : f.watch? id = some w) (w' : Watch)
    : (f.setWatch id w').watch? id = some w' := by
  rw [watch?_setWatch found, if_pos rfl]

/-- The watch of a registration after one was set: the new one, or as before. -/
theorem watch?_setWatch_cases {id here : Nat} {w v : Watch} (found : f.watch? id = some w)
    (known : f.watch? here = some v) (v' : Watch)
    : (id = here ∧ w = v ∧ (f.setWatch here v').watch? id = some v')
      ∨ (id ≠ here ∧ (f.setWatch here v').watch? id = some w) := by
  by_cases same : id = here
  · subst same
    rw [found] at known
    exact .inl ⟨rfl, Option.some.inj known, watch?_setWatch_self found v'⟩
  · exact .inr ⟨same, by rw [watch?_setWatch known, if_neg same, found]⟩

theorem calls_setProgress (number other : Nat) (progress : Progress)
    : (f.setProgress number progress).calls[other]?
      = (f.calls[other]?).map fun c => if number = other then { c with progress } else c := by
  simp only [setProgress, List.getElem?_modify]
  by_cases same : number = other <;> simp [same]

theorem calls_setProgress_self {number : Nat} {c : Call} (called : f.calls[number]? = some c)
    (progress : Progress)
    : (f.setProgress number progress).calls[number]? = some { c with progress } := by
  rw [calls_setProgress, called, Option.map_some, if_pos rfl]

theorem calling?_of_progress {number : Nat} {c : Call} (called : f.calls[number]? = some c)
    : f.calling? number = c.progress.operation? := by
  rw [calling?, called, Option.bind_some]

theorem polling?_setWatch {id : Nat} {w w' : Watch} (found : f.watch? id = some w) (other : Nat)
    : (f.setWatch id w').polling? other
      = if other = id then w'.activity.operation? else f.polling? other := by
  rw [polling?, watch?_setWatch found]
  split <;> rfl

theorem holder?_setWatch {id : Nat} {w w' : Watch} (found : f.watch? id = some w) (other : Nat)
    : (f.setWatch id w').holder? other
      = if other = id then w'.queue.head? else f.holder? other := by
  rw [holder?, watch?_setWatch found]
  split <;> rfl

/-- Setting a watch whose poller does the same as before is nothing to the pollers' operations. -/
theorem polling?_setWatch_of_same {id : Nat} {w w' : Watch} (found : f.watch? id = some w)
    (same : w'.activity = w.activity) (other : Nat)
    : (f.setWatch id w').polling? other = f.polling? other := by
  rw [polling?_setWatch found, same]
  split
  · rename_i this
    rw [this, polling?, found]
    rfl
  · rfl

theorem calling?_setProgress {number : Nat} {c : Call} (called : f.calls[number]? = some c)
    (progress : Progress) (other : Nat)
    : (f.setProgress number progress).calling? other
      = if other = number then progress.operation? else f.calling? other := by
  rw [calling?, calls_setProgress]
  by_cases same : other = number
  · rw [if_pos same, same, called]
    simp
  · simp [same, Ne.symm same, calling?]

-----------------------------------------------------------------------------------------
-- What a step does to accesses and queues
-----------------------------------------------------------------------------------------

/-- A step is nothing to the accesses of other agents than its own. Its own agent accesses a device only as
its holder, and remains that. A device passes to another holder only by a step of the one before. -/
structure Frame (f g : Fleet) (move : Move) : Prop where
  others
    : ∀ access,
        ¬ move.IsBy access.registration access.agent
        → (g.InFlight access ↔ f.InFlight access)
  held
    : ∀ access,
        g.accessBy move = some access
        → f.holder? access.registration = some access.agent
          ∧ g.holder? access.registration = some access.agent
  kept
    : ∀ id agent,
        f.holder? id = some agent → g.holder? id = some agent ∨ move.IsBy id agent

theorem frame_of_same (polling : ∀ id, g.polling? id = f.polling? id)
    (calling : ∀ number, g.calling? number = f.calling? number)
    (holder : ∀ id, g.holder? id = f.holder? id) (none : g.accessBy move = none)
    : Frame f g move := by
  refine ⟨?_, ?_, fun id agent holds => .inl (by rw [holder, holds])⟩
  · rintro ⟨registration, agent, operation⟩ _
    cases agent with
    | poller => simp only [InFlight, polling]
    | call number => simp only [InFlight, calling]
  · intro access own
    rw [none] at own
    cases own

/-- A poller that is using its device is the first one in the queue. -/
theorem Held.poller_first {id : Nat} {w : Watch} {operation : Operation} (held : Held f)
    (found : f.watch? id = some w) (busy : w.activity.operation? = some operation)
    : w.queue.head? = some .poller := by
  have inFlight : f.InFlight ⟨id, .poller, operation⟩ := by
    rw [InFlight, polling?, found]
    exact busy
  have holder := held _ inFlight
  rw [holder?, found] at holder
  exact holder

/-- So is a call that is using a device. -/
theorem Held.call_first {number id : Nat} {c : Call} {work : Work} (held : Held f)
    (called : f.calls[number]? = some c) (working : c.progress = .working id work)
    : f.holder? id = some (.call number) := by
  have inFlight : f.InFlight ⟨id, .call number, World.operationOf work⟩ := by
    simp only [InFlight, calling?, called, Option.bind_some, working]
    rfl
  exact held _ inFlight

theorem frame_of_turn {id : Nat} {signal : Signal} {w w' : Watch} {r : Registry} {stop : Bool}
    (held : Held f) (found : f.watch? id = some w) (turn : Turn stop w w')
    : Frame f ({ f with registry := r }.setWatch id w') (.poller id signal) := by
  have polling (other : Nat)
      : ({ f with registry := r }.setWatch id w').polling? other
        = if other = id then w'.activity.operation? else f.polling? other :=
    polling?_setWatch found other
  have holder (other : Nat)
      : ({ f with registry := r }.setWatch id w').holder? other
        = if other = id then w'.queue.head? else f.holder? other :=
    holder?_setWatch found other
  have before : f.holder? id = w.queue.head? := by rw [holder?, found, Option.bind_some]
  -- While the poller is at its operation it is at the head of the queue, before and after the turn.
  have stays {operation : Operation} (uses : w'.activity.operation? = some operation)
      : w.queue.head? = some .poller ∧ w'.queue = w.queue := by
    cases turn with
    | queues | givesUp | ends => cases uses
    | begins _ holds _ _ => exact ⟨of_decide_eq_true holds, rfl⟩
    | goesOn already _ => exact ⟨held.poller_first found already, rfl⟩
    | rested _ => split at uses <;> cases uses
  refine ⟨?_, ?_, ?_⟩
  · rintro ⟨registration, agent, operation⟩ other
    cases agent with
    | poller =>
        have apart : registration ≠ id := fun same => other ⟨same, rfl⟩
        simp only [InFlight, polling, if_neg apart]
    | call number => exact Iff.rfl
  · rintro ⟨registration, agent, operation⟩ own
    obtain ⟨⟨rfl, rfl⟩, uses⟩ := accessBy_eq_some_iff.mp own
    simp only [InFlight, polling, if_true] at uses
    obtain ⟨head, same⟩ := stays uses
    exact ⟨before.trans head, by rw [holder, if_pos rfl, same, head]⟩
  · intro other agent holds
    rw [holder]
    split
    · rename_i same
      rw [same, before] at holds
      cases turn with
      | queues _ => exact .inl (by simp [Watch.join, List.head?_append, holds])
      | givesUp _ poller _ =>
          have head : w.queue.head? = some .poller := of_decide_eq_true poller
          rw [head] at holds
          exact .inr ⟨same, (Option.some.inj holds).symm⟩
      | ends uses =>
          rw [held.poller_first found uses] at holds
          exact .inr ⟨same, (Option.some.inj holds).symm⟩
      | begins | goesOn | rested => exact .inl holds
    · exact .inl holds

/-- A call that goes on has the same frame, whatever its step does to the watch on the way. -/
theorem frame_setProgress {number : Nat} {c : Call} {progress : Progress}
    {outcome : Except Fault Unit} (called : f.calls[number]? = some c) (calls : g.calls = f.calls)
    (polling : ∀ id, g.polling? id = f.polling? id)
    (uses
      : ∀ id operation,
          progress.operation? = some (id, operation)
          → f.holder? id = some (.call number) ∧ g.holder? id = some (.call number))
    (kept
      : ∀ id agent,
          f.holder? id = some agent → g.holder? id = some agent ∨ agent = .call number)
    : Frame f (g.setProgress number progress) (.call number outcome) := by
  have calling (other : Nat)
      : (g.setProgress number progress).calling? other
        = if other = number then progress.operation? else f.calling? other := by
    rw [calling?_setProgress (calls ▸ called), calling?, calls]
    rfl
  refine ⟨?_, ?_, kept⟩
  · rintro ⟨registration, agent, operation⟩ other
    cases agent with
    | poller =>
        have same : (g.setProgress number progress).polling? registration = f.polling? registration :=
          polling registration
        simp only [InFlight, same]
    | call another =>
        have apart : another ≠ number := fun same => other (congrArg Agent.call same)
        simp only [InFlight, calling, if_neg apart]
  · rintro ⟨registration, agent, operation⟩ own
    obtain ⟨rfl, busy⟩ := accessBy_eq_some_iff.mp own
    simp only [InFlight, calling, if_true] at busy
    exact uses registration operation busy

theorem frame_of_called {number : Nat} {c : Call} {outcome : Except Fault Unit} (held : Held f)
    (called : f.calls[number]? = some c) (step : Called f number c outcome g)
    : Frame f g (.call number outcome) := by
  have idle {progress : Progress} (none : progress.operation? = none) {r : Registry}
      : Frame f ({ f with registry := r }.setProgress number progress) (.call number outcome) := by
    refine frame_setProgress called rfl (fun _ => rfl) ?_ fun _ _ holds => .inl holds
    intro id operation busy
    rw [none] at busy
    cases busy
  have releases {progress : Progress} {id : Nat} {work : Work} {w : Watch}
      (working : c.progress = .working id work) (found : f.watch? id = some w)
      (none : progress.operation? = none)
      : Frame f ((f.setWatch id w.release).setProgress number progress) (.call number outcome) := by
    refine frame_setProgress called rfl (polling?_setWatch_of_same found rfl) ?_ ?_
    · intro id operation busy
      rw [none] at busy
      cases busy
    · intro other agent holder
      rw [holder?_setWatch found]
      split
      · rename_i same
        rw [same, held.call_first called working] at holder
        exact .inr (Option.some.inj holder).symm
      · exact .inl holder
  cases step with
  | refused | taken | bound | returns => exact idle rfl
  | cancels _ found =>
      refine frame_setProgress called rfl (polling?_setWatch_of_same found rfl) nofun ?_
      intro other agent holder
      rw [holder?_setWatch found]
      split
      · rename_i same
        rw [same, holder?, found] at holder
        exact .inl holder
      · exact .inl holder
  | @queues id work w _ found =>
      refine frame_setProgress called rfl (polling?_setWatch_of_same found rfl) nofun ?_
      intro other agent holder
      rw [holder?_setWatch found]
      split
      · rename_i same
        rw [same, holder?, found, Option.bind_some] at holder
        exact .inl (by simp [Watch.join, List.head?_append, holder])
      · exact .inl holder
  | @begins id work w _ found holds =>
      refine frame_setProgress called rfl (fun _ => rfl) ?_ fun _ _ holder => .inl holder
      rintro _ _ ⟨⟩
      have head : f.holder? id = some (.call number) := by
        rw [holder?, found, Option.bind_some]
        exact of_decide_eq_true holds
      exact ⟨head, head⟩
  | closed working found => exact releases working found rfl
  | executed working found => exact releases working found rfl

/-- What a list that has grown by one item has at a place, when the item is nothing there. -/
theorem bind_getElem?_concat {α β : Type} {items : List α} {item : α} {view : α → Option β}
    (nothing : view item = none) (i : Nat)
    : (items ++ [item])[i]?.bind view = items[i]?.bind view := by
  rw [List.getElem?_append]
  split
  · rfl
  · rename_i beyond
    rw [List.getElem?_eq_none (Nat.le_of_not_lt beyond)]
    cases i - items.length with
    | zero => exact nothing
    | succ => rfl

theorem getElem?_concat_of_some {α : Type} {items : List α} {found : α} {i : Nat}
    (known : items[i]? = some found) (item : α)
    : (items ++ [item])[i]? = some found :=
  (List.getElem?_append_left (List.getElem?_eq_some_iff.mp known).1).trans known

/-- Every step has this frame. -/
theorem step_frame (held : Held f) (step : f.step move = some g)
    : Frame f g move := by
  cases step_cases step with
  | kept | dropped => exact frame_of_same (fun _ => rfl) (fun _ => rfl) (fun _ => rfl) rfl
  | added =>
      -- The poller of the new watch has yet to begin, and nobody is in its queue.
      exact frame_of_same (bind_getElem?_concat rfl) (fun _ => rfl) (bind_getElem?_concat rfl) rfl
  | asked => exact frame_of_same (fun _ => rfl) (bind_getElem?_concat rfl) (fun _ => rfl) rfl
  | polled found turn _ => exact frame_of_turn held found turn
  | called called going => exact frame_of_called held called going

/-- The accesses after a step are that of its agent and the others from before. -/
theorem Frame.inFlight_iff (frame : Frame f g move) (access : Access)
    : g.InFlight access
      ↔ g.accessBy move = some access
        ∨ ¬ move.IsBy access.registration access.agent ∧ f.InFlight access := by
  rw [accessBy_eq_some_iff]
  by_cases own : move.IsBy access.registration access.agent
  · simp only [own, true_and, not_true_eq_false, false_and, or_false]
  · simp only [own, false_and, false_or, not_false_eq_true, true_and]
    exact frame.others access own

theorem Held.next (held : Held f) (frame : Frame f g move)
    : Held g := by
  intro access inFlight
  rcases (frame.inFlight_iff access).mp inFlight with own | ⟨other, inFlight⟩
  · exact (frame.held access own).2
  · exact (frame.kept _ _ (held access inFlight)).resolve_right other

end ReceiptFleet.Fleet
