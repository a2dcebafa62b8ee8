import ReceiptFleet.Fleet.Basic
import ReceiptFleet.Fleet.Subscription
import ReceiptFleet.Simulation.Device

/-!
A fleet in simulated time, with simulated devices behind its printers. Pollers and calls take their steps
until they have to wait: for a device that another holds, for an operation to end, for a pause to be over,
or for a poller to stop. Time stands still meanwhile, and then goes on to the next alarm.
-/

namespace ReceiptFleet.Simulation

open Fleet (Activity Member Progress Request Signal Subscription Work)

/-- Those who can wait for a time: pollers, calls, and plain rests, by their numbers. -/
inductive Sleeper where
  | poller (id : Nat)
  | call (number : Nat)
  | rest (number : Nat)
deriving DecidableEq, Repr

/-- A time at which a sleeper goes on. -/
structure Alarm where
  due : Nat
  sleeper : Sleeper
deriving DecidableEq, Repr

/-- A fleet and its devices, the pause between polls, the time, the alarms in the order in which they are
due, the pollers that can go on in the order in which they will, how many rests there have been, and
a subscriber to both kinds of event. -/
structure World where
  fleet : Fleet
  devices : Keyed SimulatedDevice
  pause : Nat
  kept : Nat
  now : Nat := 0
  alarms : List Alarm := []
  runnable : List Nat := []
  rests : Nat := 0
  statuses : Subscription := ⟨0⟩
  ready : Subscription := ⟨0⟩

/-- Puts an alarm behind all others that are not due later. -/
def placeAlarm (alarm : Alarm) : List Alarm → List Alarm
  | [] => [alarm]
  | first :: others =>
    if alarm.due < first.due then alarm :: first :: others
    else first :: placeAlarm alarm others

namespace World

/-! ## Time -/

/-- Sets an alarm; no time at all needs none. -/
def sleep (w : World) (sleeper : Sleeper) (ms : Nat) : World :=
  if ms = 0 then w else { w with alarms := placeAlarm ⟨w.now + ms, sleeper⟩ w.alarms }

/-- Whether a sleeper has an alarm that is still to come. -/
def isAsleep (w : World) (sleeper : Sleeper) : Bool := w.alarms.any (·.sleeper = sleeper)

/-- Takes back the alarm of a sleeper. -/
def unset (w : World) (sleeper : Sleeper) : World :=
  { w with alarms := w.alarms.filter (·.sleeper ≠ sleeper) }

/-- Lets a poller go on, after those that already can. -/
def rouse (w : World) (id : Nat) : World :=
  if id ∈ w.runnable then w else { w with runnable := w.runnable ++ [id] }

/-- Goes on to the time of the next alarm, where all alarms of that time ring. -/
def goOn (w : World) : World :=
  match w.alarms with
  | [] => w
  | first :: _ =>
    let ringing := w.alarms.takeWhile (·.due ≤ first.due)
    let w := { w with now := first.due, alarms := w.alarms.dropWhile (·.due ≤ first.due) }
    ringing.foldl (fun w alarm =>
      match alarm.sleeper with
      | .poller id => w.rouse id
      | _ => w) w

/-! ## Devices -/

/-- The device of a handle. -/
def device (w : World) (handle : String) : SimulatedDevice :=
  (w.devices.get? handle).getD { name := handle }

/-- Begins an operation of a device on behalf of someone, who waits for its end. -/
def operate (w : World) (handle : String) (operation : Operation) (sleeper : Sleeper) : World :=
  let d := w.device handle
  { w with devices := w.devices.insert handle (d.begin operation) }.sleep sleeper (d.delay operation)

/-- The printer on a device, as the fleet is told of it. -/
def member (w : World) (handle : String) : Member :=
  let d := w.device handle
  { device := handle, name := d.name, width := d.width, unreachable := d.decoder.unreachable }

/-! ## Pollers -/

/-- What follows for a device and the alarms from what a poller is doing now. -/
def follow (w : World) (id : Nat) : World :=
  match w.fleet.watch? id with
  | none => w
  | some watch =>
    let operate := fun operation => w.operate watch.member.device operation (.poller id)
    match watch.activity with
    | .opening => operate .openUp
    | .fetching => operate .fetch
    | .closing => operate .close
    | .pausing => w.sleep (.poller id) w.pause
    | .due | .waiting | .stopped => w

/-- The next step of a poller, if it need not wait for one. -/
def movePoller (w : World) (id : Nat) : Option World := do
  let watch ← w.fleet.watch? id
  let handle := watch.member.device
  let d := w.device handle
  let asleep := w.isAsleep (.poller id)
  let advance := fun (d : SimulatedDevice) signal => do
    let fleet ← w.fleet.stepPoller id signal
    let w := { w with fleet, devices := w.devices.insert handle d }.unset (.poller id)
    return w.follow id
  match watch.activity with
  | .due | .waiting => advance d (.proceed d.isOpen)
  | .pausing =>
    if asleep && !w.fleet.isCancelled watch then none else advance d (.proceed d.isOpen)
  | .opening => if asleep then none else let (r, d) := d.endOpen; advance d (.opened r)
  | .fetching => if asleep then none else let (r, d) := d.endFetch; advance d (.fetched r)
  | .closing => if asleep then none else let (r, d) := d.endClose; advance d (.closed r)
  | .stopped => none

/-- How many steps a poller can take without a wait: more than those of a poll. -/
def stepLimit : Nat := 16

/-- The steps of a poller until it waits. -/
def runPoller (w : World) (id : Nat) : World :=
  go stepLimit w
where
  /-- At most so many steps. -/
  go : Nat → World → World
    | 0, w => w
    | fuel + 1, w =>
      match w.movePoller id with
      | some w => go fuel w
      | none => w

/-- The steps of all pollers that can go on. They cannot make each other go on. -/
def runPollers (w : World) : World := w.runnable.foldl runPoller { w with runnable := [] }

/-- Lets a poller go on if it need not wait. -/
def rouseReady (w : World) (id : Nat) : World :=
  if (w.movePoller id).isSome then w.rouse id else w

/-! ## Calls -/

/-- The registration that a call is about, once it has found one. -/
def registrationOf? : Progress → Option Nat
  | .asked | .returned _ => none
  | .taken id | .bound id _ | .waiting id _ | .working id _ | .joining id _ => some id

/-- The operation of a call's work. -/
def operationOf : Work → Operation
  | .close => .close
  | .execute _ => .execute

/-- A step of a call whose device has become another one, and what follows from it. -/
def advanceCall (w : World) (number : Nat) (outcome : Except Fault Unit) : Option World := do
  let before ← w.fleet.calls[number]?
  let fleet ← w.fleet.stepCall number outcome
  let after ← fleet.calls[number]?
  let w := { w with fleet }
  let w := match after.progress with
    | .working id work =>
      match fleet.watch? id with
      | some watch => w.operate watch.member.device (operationOf work) (.call number)
      | none => w
    | _ => w
  return match registrationOf? before.progress with
    | some id => w.rouseReady id
    | none => w

/-- The next step of a call, if it need not wait for one. -/
def moveCall (w : World) (number : Nat) : Option World := do
  let call ← w.fleet.calls[number]?
  match call.progress with
  | .working id work =>
    if w.isAsleep (.call number) then none
    else
      let watch ← w.fleet.watch? id
      let handle := watch.member.device
      let (outcome, d) := match work with
        | .close => (w.device handle).endClose
        | .execute job => (w.device handle).endExecute job
      { w with devices := w.devices.insert handle d }.advanceCall number outcome
  | _ => w.advanceCall number (.ok ())

/-- The steps of a call until it waits. -/
def runCall (w : World) (number : Nat) : World :=
  go stepLimit w
where
  /-- At most so many steps. -/
  go : Nat → World → World
    | 0, w => w
    | fuel + 1, w =>
      match w.moveCall number with
      | some w => go fuel w
      | none => w

/-- The result of a call, once it has returned. -/
def result? (w : World) (number : Nat) : Option (Except Fleet.CallError Unit) :=
  w.fleet.calls[number]?.bind Fleet.Call.result?

/-! ## The fleet as a whole -/

/-- Registers the printer on a device. -/
def add (w : World) (handle : String) : World :=
  let id := w.fleet.watches.length
  let w := { w with fleet := w.fleet.add (w.member handle) }
  if id < w.fleet.watches.length then w.rouse id else w

/-- Drops the fleet. -/
def drop (w : World) : World :=
  match w.fleet.step .drop with
  | some fleet => (List.range fleet.watches.length).foldl rouseReady { w with fleet }
  | none => w

/-- What the subscriber can read, of statuses and of ready printers, and the world after it has. -/
def read (w : World) : Fleet.Reading Fleet.Snapshot × Fleet.Reading Member × World :=
  let registry := w.fleet.registry
  (w.statuses.pending w.kept registry.sent, w.ready.pending w.kept registry.ready,
    { w with statuses := .start registry.sent, ready := .start registry.ready })

/-- Changes a device from outside. -/
def modifyDevice (w : World) (handle : String) (f : SimulatedDevice → SimulatedDevice) : World :=
  { w with devices := w.devices.modify handle f }

end World

end ReceiptFleet.Simulation
