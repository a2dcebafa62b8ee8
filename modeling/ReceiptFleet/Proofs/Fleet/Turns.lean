import ReceiptFleet.Proofs.Fleet.Interference

/-!
Turns at a device. Whoever is first in a queue can end its turn by steps of its own, and then the next one is
first. So a call that waits for a device can come to use it, from every state that a run reaches.
-/

namespace ReceiptFleet.Fleet

variable {f g : Fleet} {id number : Nat} {w : Watch}

-----------------------------------------------------------------------------------------
-- The turn of the first one
-----------------------------------------------------------------------------------------

/-- Steps of an agent at the device of a registration end its turn: the queue there goes on to the next one,
and nothing becomes of other calls. -/
def EndsTurn (f : Fleet) (id : Nat) (w : Watch) (agent : Agent) : Prop :=
  ∃ more g w',
    f.run more = some g
    ∧ g.watch? id = some w'
    ∧ w'.queue = w.queue.tail
    ∧ ∀ number, agent ≠ .call number → g.calls[number]? = f.calls[number]?

theorem run_singleton {move : Move} (step : f.step move = some g)
    : f.run [move] = some g := by
  rw [run, step]
  rfl

/-- A step after which it is still the turn of an agent is none of the turn of others. -/
theorem EndsTurn.of_step {move : Move} {agent : Agent} {w' : Watch} (ends : EndsTurn g id w' agent)
    (step : f.step move = some g) (queue : w'.queue = w.queue)
    (calls : ∀ number, agent ≠ .call number → g.calls[number]? = f.calls[number]?)
    : EndsTurn f id w agent := by
  obtain ⟨more, h, v, reached, found, tail, others⟩ := ends
  refine ⟨move :: more, h, v, ?_, found, by rw [tail, queue], fun number apart => ?_⟩
  · rw [run, step]
    exact reached
  · rw [others number apart, calls number apart]

/-- A poller in the middle of an operation ends its poll with the outcome: opening fails, or the status is
fetched, or the device is closed. -/
theorem endsTurn_of_operation? {operation : Simulation.Operation} (found : f.watch? id = some w)
    (busy : w.activity.operation? = some operation)
    : EndsTurn f id w .poller := by
  have ended {p : Poller} {r : Registry} (signal : Signal)
      (step
        : f.step (.poller id signal)
          = some ({ f with registry := r }.setWatch id ({ w with poller := p }.pursue .nothing)))
      : EndsTurn f id w .poller :=
    ⟨[.poller id signal], _, _, run_singleton step,
      watch?_setWatch_self (f := { f with registry := r }) found _, rfl, fun _ _ => rfl⟩
  cases activity : w.activity <;> rw [activity] at busy <;> cases busy
  case opening =>
    exact ended (.opened (.error (.timeout ""))) (by
      simp only [Fleet.step, stepPoller, found, activity, Option.bind_eq_bind, Option.bind_some]
      rfl)
  case fetching =>
    exact ended (.fetched (.ok .empty)) (by
      simp only [Fleet.step, stepPoller, found, activity, Option.bind_eq_bind, Option.bind_some]
      rfl)
  case closing =>
    exact ended (r := f.registry) (.closed (.ok ())) (by
      simp only [Fleet.step, stepPoller, found, activity, Option.bind_eq_bind, Option.bind_some]
      rfl)

/-- A poller that is first in the queue gives up its turn if it is to stop, and else begins its poll. -/
theorem endsTurn_of_waiting_poller (found : f.watch? id = some w) (waiting : w.activity = .waiting)
    (first : w.queue.head? = some .poller)
    : EndsTurn f id w .poller := by
  cases stops : f.isCancelled w with
  | true =>
      have step
          : f.step (.poller id (.proceed true)) = some (f.setWatch id (w.pursue .nothing)) := by
        simp [Fleet.step, stepPoller, found, waiting, Watch.holds, first, stops]
      exact ⟨_, _, _, run_singleton step, watch?_setWatch_self found _, rfl, fun _ _ => rfl⟩
  | false =>
      have step
          : f.step (.poller id (.proceed true))
            = some (f.setWatch id ({ w with poller := (w.poller.begin true).1 }.pursue .fetch)) := by
        simp [Fleet.step, stepPoller, found, waiting, Watch.holds, first, stops, Poller.begin]
      have after := watch?_setWatch_self found
        ({ w with poller := (w.poller.begin true).1 }.pursue .fetch)
      have busy : Activity.fetching.operation? = some .fetch := rfl
      exact (endsTurn_of_operation? after busy).of_step step rfl fun _ _ => rfl

/-- A call that uses the device ends its use. -/
theorem endsTurn_of_working {c : Call} {work : Work} (called : f.calls[number]? = some c)
    (working : c.progress = .working id work) (found : f.watch? id = some w)
    : EndsTurn f id w (.call number) := by
  have ended {progress : Progress}
      (step
        : f.step (.call number (.ok ()))
          = some ((f.setWatch id w.release).setProgress number progress))
      : EndsTurn f id w (.call number) := by
    refine ⟨_, _, _, run_singleton step, watch?_setWatch_self found _, rfl, fun another apart => ?_⟩
    have apart : number ≠ another := fun same => apart (congrArg Agent.call same)
    exact (calls_setProgress number another progress).trans (by simp [apart])
  cases work with
  | close => exact ended (by simp [Fleet.step, stepCall, called, working, found]; rfl)
  | execute job => exact ended (by simp [Fleet.step, stepCall, called, working, found]; rfl)

/-- A call that is first in the queue begins to use the device, and then ends its use. -/
theorem endsTurn_of_waiting_call {c : Call} {work : Work} (called : f.calls[number]? = some c)
    (waiting : c.progress = .waiting id work) (found : f.watch? id = some w)
    (first : w.queue.head? = some (.call number))
    : EndsTurn f id w (.call number) := by
  have step
      : f.step (.call number (.ok ())) = some (f.setProgress number (.working id work)) := by
    simp [Fleet.step, stepCall, called, waiting, found, Watch.holds, first]
  have after := calls_setProgress_self called (.working id work)
  refine (endsTurn_of_working after rfl found).of_step step rfl fun another apart => ?_
  have apart : number ≠ another := fun same => apart (congrArg Agent.call same)
  exact (calls_setProgress number another _).trans (by simp [apart])

/-- Whoever is first in a queue can end its turn. -/
theorem Sound.endsTurn {agent : Agent} (sound : Sound f) (found : f.watch? id = some w)
    (first : w.queue.head? = some agent)
    : EndsTurn f id w agent := by
  have inLine := ((sound.lined.queue id w found).2 agent).mp (List.mem_of_head? first)
  cases agent with
  | poller =>
      rw [inLine_poller_iff found] at inLine
      cases busy : w.activity.operation? with
      | some operation => exact endsTurn_of_operation? found busy
      | none => exact endsTurn_of_waiting_poller found (waiting_of_isLined inLine busy) first
  | call number =>
      obtain ⟨c, called, lined⟩ := Option.bind_eq_some_iff.mp inLine
      cases progress : c.progress with
      | waiting here work =>
          rw [progress] at lined
          cases lined
          exact endsTurn_of_waiting_call called progress found first
      | working here work =>
          rw [progress] at lined
          cases lined
          exact endsTurn_of_working called progress found
      | asked | taken | bound | joining | returned =>
          rw [progress] at lined
          cases lined

-----------------------------------------------------------------------------------------
-- The turn of a call
-----------------------------------------------------------------------------------------

/-- A call that waits for a device can come to use it. The induction is over those before it in the queue, who
end their turns one after the other. -/
theorem Sound.canWork_of_waiting {c : Call} {work : Work} (sound : Sound f)
    (called : f.calls[number]? = some c) (waiting : c.progress = .waiting id work)
    : ∃ more g,
        f.run more = some g
        ∧ g.calls[number]? = some { c with progress := .working id work } := by
  obtain ⟨w, found⟩ := sound.orderly.known c (List.mem_of_getElem? called) id (by rw [waiting]; rfl)
  have inLine : f.InLine id (.call number) := by rw [inLine_call_iff called, waiting]; rfl
  have member := ((sound.lined.queue id w found).2 _).mpr inLine
  obtain ⟨ahead, behind, queue⟩ := List.append_of_mem member
  clear inLine member
  induction ahead generalizing f w with
  | nil =>
      have step
          : f.step (.call number (.ok ())) = some (f.setProgress number (.working id work)) := by
        simp [Fleet.step, stepCall, called, waiting, found, Watch.holds, queue]
      exact ⟨_, _, run_singleton step, calls_setProgress_self called _⟩
  | cons agent ahead ih =>
      have apart : agent ≠ .call number := by
        rintro rfl
        have once := (sound.lined.queue id w found).1
        simp [queue] at once
      obtain ⟨more, g, w', reached, found', tail, others⟩ :=
        sound.endsTurn found (by rw [queue]; rfl : w.queue.head? = some agent)
      obtain ⟨further, h, reached', working⟩ :=
        ih (run_sound sound reached) ((others number apart).trans called) w' found'
          (by rw [tail, queue]; rfl)
      exact ⟨more ++ further, h, by rw [run_append, reached, Option.bind_some, reached'], working⟩

/-- A call that is bound for a device joins the queue there first. -/
theorem Sound.canWork_of_bound {c : Call} {work : Work} (sound : Sound f)
    (called : f.calls[number]? = some c) (bound : c.progress = .bound id work)
    : ∃ more g,
        f.run more = some g
        ∧ g.calls[number]? = some { c with progress := .working id work } := by
  obtain ⟨w, found⟩ := sound.orderly.known c (List.mem_of_getElem? called) id (by rw [bound]; rfl)
  have step
      : f.step (.call number (.ok ()))
        = some
            ((f.setWatch id (w.join (.call number))).setProgress number (.waiting id work)) := by
    simp [Fleet.step, stepCall, called, bound, found]
  have after := calls_setProgress_self (f := f.setWatch id (w.join (.call number))) called
    (.waiting id work)
  obtain ⟨more, g, reached, working⟩ := (sound.next step).canWork_of_waiting after rfl
  exact ⟨.call number (.ok ()) :: more, g, by rw [run, step]; exact reached, working⟩

end ReceiptFleet.Fleet
