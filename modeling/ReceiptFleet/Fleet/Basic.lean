import ReceiptFleet.Fleet.Call
import ReceiptFleet.Fleet.Registry
import ReceiptFleet.Markup.Compile

/-!
A fleet of printers as a system of pollers and calls that take steps in any order. For every registration
there is a watch: its poller, what the poller is doing, and the queue of those who want the device,
whose first member holds it. A step is one use of the registry, one place taken in a queue, or the
start or the end of one use of a device.
-/

namespace ReceiptFleet

namespace Fleet

/-- Those who use the device of a registration: its poller, and calls by their numbers. -/
inductive Agent where
  | poller
  | call (number : Nat)
deriving DecidableEq, Repr

/-- What a poller is doing: about to poll, waiting for the device, using it, pausing between two
polls, or nothing any more. -/
inductive Activity where
  | due
  | waiting
  | opening
  | fetching
  | closing
  | pausing
  | stopped
deriving DecidableEq, Repr

/-- The watch over one registration. -/
structure Watch where
  member : Member
  poller : Poller
  activity : Activity := .due
  cancelled : Bool := false
  queue : List Agent := []
deriving DecidableEq

namespace Watch

/-- Whether an agent holds the device. -/
def holds (w : Watch) (agent : Agent) : Bool := w.queue.head? = some agent

/-- The watch with an agent at the end of the queue. -/
def join (w : Watch) (agent : Agent) : Watch := { w with queue := w.queue ++ [agent] }

/-- The watch after its device was given back. -/
def release (w : Watch) : Watch := { w with queue := w.queue.tail }

/-- The poller goes on with what it needs next; without a need its poll is over and it gives the
device back. -/
def pursue (w : Watch) : Demand → Watch
  | .openUp => { w with activity := .opening }
  | .fetch => { w with activity := .fetching }
  | .close => { w with activity := .closing }
  | .nothing => { w.release with activity := .pausing }

end Watch

/-- What a poller meets when it takes a step: nothing but the state of its device, or the outcome of
its use. -/
inductive Signal where
  | proceed (isOpen : Bool)
  | opened (result : Except Fault Unit)
  | fetched (result : Except Fault Status)
  | closed (result : Except Fault Unit)

end Fleet

open Fleet in
/-- A fleet: the threshold of its pollers, its registry, a watch for every registration so far and
all calls so far. -/
structure Fleet where
  threshold : Nat := 3
  registry : Registry := {}
  watches : List Watch := []
  calls : List Call := []

namespace Fleet

/-- The watch of a registration. -/
def watch? (f : Fleet) (id : Nat) : Option Watch := f.watches[id]?

/-- The fleet with a watch replaced. -/
def setWatch (f : Fleet) (id : Nat) (w : Watch) : Fleet := { f with watches := f.watches.set id w }

/-- The fleet with the progress of a call replaced. -/
def setProgress (f : Fleet) (number : Nat) (progress : Progress) : Fleet :=
  { f with calls := f.calls.modify number fun c => { c with progress } }

/-- Whether a poller is to stop. -/
def isCancelled (f : Fleet) (w : Watch) : Bool := w.cancelled || f.registry.dropped

/-! ## Steps of pollers -/

/-- A step of a poller: when it is due it takes its place in the queue; when it holds the device it begins
its poll, unless it is to stop; it goes on with the outcome of each use; and after a poll it pauses until
it is due again or stops. -/
def stepPoller (f : Fleet) (id : Nat) (signal : Signal) : Option Fleet := do
  let w ← f.watch? id
  match w.activity, signal with
  | .due, .proceed _ => return f.setWatch id { w.join .poller with activity := .waiting }
  | .waiting, .proceed isOpen =>
    if w.holds .poller then
      if f.isCancelled w then return f.setWatch id (w.pursue .nothing)
      else
        let (poller, demand) := w.poller.begin isOpen
        return f.setWatch id ({ w with poller }.pursue demand)
    else none
  | .opening, .opened result =>
    let (poller, demand, registry) := w.poller.afterOpen Registry.sink result f.registry
    return { f with registry }.setWatch id ({ w with poller }.pursue demand)
  | .fetching, .fetched result =>
    let (poller, demand, registry) := w.poller.afterFetch Registry.sink result f.registry
    return { f with registry }.setWatch id ({ w with poller }.pursue demand)
  | .closing, .closed _ =>
    return f.setWatch id ({ w with poller := w.poller.afterClose }.pursue .nothing)
  | .pausing, .proceed _ =>
    return f.setWatch id { w with activity := if f.isCancelled w then .stopped else .due }
  | _, _ => none

/-! ## Steps of calls -/

/-- A call returns with an error. -/
def refuse (f : Fleet) (number : Nat) (error : CallError) : Fleet :=
  f.setProgress number (.returned (.error error))

/-- A removal begins: it takes the entry out of the registry. -/
def beginRemoval (f : Fleet) (number : Nat) (name : String) : Fleet :=
  match f.registry.entries.get? name with
  | none => f.refuse number (.unknownPrinter name)
  | some entry => { f with registry := f.registry.forget name }.setProgress number (.taken entry.id)

/-- Printing a document begins: it is compiled for its printer, and an unknown printer counts before
errors of the document. -/
def beginPrint (f : Fleet) (number : Nat) (name : String) (document : Markup.Document) : Fleet :=
  match f.registry.entries.get? name with
  | none => f.refuse number (.unknownPrinter name)
  | some entry =>
    match document.compile (Job.start entry.member.width) with
    | .error e => f.refuse number (.markup e)
    | .ok job => f.setProgress number (.bound entry.id (.execute job))

/-- The first step of a call. Malformed markup counts before all else. -/
def begin (f : Fleet) (number : Nat) : Request → Fleet
  | .remove name => f.beginRemoval number name
  | .print name markup =>
    match Markup.Document.parse markup with
    | .error e => f.refuse number (.markup e)
    | .ok document => f.beginPrint number name document
  | .printDocument name document => f.beginPrint number name document

/-- A step of a call. The outcome is that of its use of the device, and counts only at the end of that
use. -/
def stepCall (f : Fleet) (number : Nat) (outcome : Except Fault Unit) : Option Fleet := do
  let c ← f.calls[number]?
  match c.progress with
  | .asked => return f.begin number c.request
  | .taken id =>
    let w ← f.watch? id
    return (f.setWatch id { w with cancelled := true }).setProgress number (.bound id .close)
  | .bound id work =>
    let w ← f.watch? id
    return (f.setWatch id (w.join (.call number))).setProgress number (.waiting id work)
  | .waiting id work =>
    let w ← f.watch? id
    if w.holds (.call number) then return f.setProgress number (.working id work) else none
  | .working id work =>
    let w ← f.watch? id
    let progress := match work with
      | .close => .joining id outcome
      | .execute _ => .returned (c.deviceResult outcome)
    return (f.setWatch id w.release).setProgress number progress
  | .joining id result =>
    let w ← f.watch? id
    if w.activity = .stopped then return f.setProgress number (.returned (c.deviceResult result))
    else none
  | .returned _ => none

/-! ## All steps -/

/-- Registers a printer, under the number of registrations so far as its id, and starts its poller; a name
that is registered already is left alone. -/
def add (f : Fleet) (member : Member) : Fleet :=
  if f.registry.entries.contains member.name then f
  else
    let id := f.watches.length
    { f with
      registry := f.registry.register id member
      watches := f.watches ++
        [{ member, poller := .start ⟨member.name, id⟩ member.unreachable f.threshold }] }

/-- Adds a call, and gives its number. -/
def ask (f : Fleet) (request : Request) : Nat × Fleet :=
  (f.calls.length, { f with calls := f.calls ++ [{ request }] })

/-- The requests that together remove every printer. -/
def closing (f : Fleet) : List Request := f.registry.names.map .remove

/-- What may happen to a fleet. -/
inductive Move where
  | add (member : Member)
  | ask (request : Request)
  | poller (id : Nat) (signal : Signal)
  | call (number : Nat) (outcome : Except Fault Unit)
  | drop

/-- What a fleet becomes by a move, if the move can happen. A fleet can be dropped when no call is
under way; from then on nothing can be asked of it, every poller is to stop and no report counts. -/
def step (f : Fleet) : Move → Option Fleet
  | .add member => if f.registry.dropped then none else some (f.add member)
  | .ask request => if f.registry.dropped then none else some (f.ask request).2
  | .poller id signal => f.stepPoller id signal
  | .call number outcome => f.stepCall number outcome
  | .drop =>
    if f.calls.all (·.result?.isSome) then
      some { f with registry := { f.registry with dropped := true } }
    else none

/-- Moves one after the other. -/
def run (f : Fleet) : List Move → Option Fleet
  | [] => some f
  | move :: others => (f.step move).bind fun f => f.run others

end Fleet

end ReceiptFleet
