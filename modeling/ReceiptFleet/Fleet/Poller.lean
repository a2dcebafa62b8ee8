import ReceiptFleet.Printer.Fault
import ReceiptFleet.Status.Basic

/-!
The poller that watches one printer. A poll opens the device if it is not open, then fetches its status;
after a number of failed fetches in a row the poller closes the device, to open it again in the next poll.
A status is reported if it differs from the last one that was accepted, and the first successful opening
is reported once. Each part of a poll that ends with a use of the device is a function of its own, so
that a poll can be taken as a whole or interleaved with others.
-/

namespace ReceiptFleet.Fleet

/-- One registration of a printer. A printer that is removed and added again is registered anew, under
an id of its own. Ids are natural numbers, which never run out: a counter of 64 bits gives the same ids to
the first `2 ^ 64` registrations, and only then begins again. -/
structure Registration where
  name : String
  id : Nat
deriving DecidableEq, Repr

/-- Those to whom pollers report: a status is accepted or refused. -/
structure Sink (σ : Type) where
  status : Registration → Status → σ → Bool × σ
  ready : Registration → σ → σ

/-- A device as a poller uses it. -/
structure Device (δ : Type) where
  isOpen : δ → Bool
  openUp : δ → Except Fault Unit × δ
  fetch : δ → Except Fault Status × δ
  close : δ → Except Fault Unit × δ

variable {σ δ ω : Type}

/-- A sink as one half of a world, with nothing to do with the other half. -/
def Sink.left (sink : Sink σ) : Sink (σ × δ) where
  status registration status w :=
    let (accepted, s) := sink.status registration status w.1
    (accepted, s, w.2)
  ready registration w := (sink.ready registration w.1, w.2)

/-- A device as the other half. -/
def Device.right (device : Device δ) : Device (σ × δ) where
  isOpen w := device.isOpen w.2
  openUp w := ((device.openUp w.2).1, w.1, (device.openUp w.2).2)
  fetch w := ((device.fetch w.2).1, w.1, (device.fetch w.2).2)
  close w := ((device.close w.2).1, w.1, (device.close w.2).2)

/-- How far a poller has got with its device. -/
inductive Stage where
  | closed
  | opening
  | polling
deriving DecidableEq, Repr

/-- What a poller needs of its device next, to go on with a poll. -/
inductive Demand where
  | openUp
  | fetch
  | close
  | nothing
deriving DecidableEq, Repr

/-- A poller: for whom it watches, what it reports of a device that cannot be reached, after how many
failed fetches it closes the device, how many there have been in a row, whether it has yet to report
the first opening, the last status that was accepted, and its stage. -/
structure Poller where
  registration : Registration
  unreachable : Status
  limit : Nat
  errors : Nat := 0
  readyPending : Bool := true
  last : Option Status := none
  stage : Stage := .closed
deriving DecidableEq

namespace Poller

/-- A poller before its first poll. It closes the device after at least one failed fetch. -/
def start (registration : Registration) (unreachable : Status) (threshold : Nat) : Poller :=
  { registration, unreachable, limit := max threshold 1 }

/-- Reports a status, if it is news. Only an accepted status counts as reported. -/
def emit (sink : Sink σ) (p : Poller) (status : Status) (s : σ) : Poller × σ :=
  if status.differsFrom p.last then
    match sink.status p.registration status s with
    | (true, s) => ({ p with last := some status }, s)
    | (false, s) => (p, s)
  else (p, s)

/-- Reports the first opening, unless that was done before. -/
def announce (sink : Sink σ) (p : Poller) (s : σ) : Poller × σ :=
  if p.readyPending then ({ p with readyPending := false }, sink.ready p.registration s) else (p, s)

/-- Begins a poll: a device that is open is asked for its status, another one is opened first. -/
def begin (p : Poller) (isOpen : Bool) : Poller × Demand :=
  if isOpen then ({ p with stage := .polling }, .fetch) else ({ p with stage := .opening }, .openUp)

/-- Goes on after an attempt to open the device. -/
def afterOpen (sink : Sink σ) (p : Poller) (result : Except Fault Unit) (s : σ)
    : Poller × Demand × σ :=
  match result with
  | .ok () =>
    let (p, s) := { p with stage := .polling }.announce sink s
    (p, .fetch, s)
  | .error _ =>
    let (p, s) := { p with stage := .closed }.emit sink p.unreachable s
    (p, .nothing, s)

/-- Goes on after an attempt to fetch the status. A fetched status says that the device is open. -/
def afterFetch (sink : Sink σ) (p : Poller) (result : Except Fault Status) (s : σ)
    : Poller × Demand × σ :=
  match result with
  | .ok status =>
    let (p, s) := { p with errors := 0 }.emit sink (status.setFlag Status.notOpenField false) s
    (p, .nothing, s)
  | .error _ =>
    if p.errors + 1 < p.limit then ({ p with errors := p.errors + 1 }, .nothing, s)
    else
      let (p, s) := { p with errors := 0 }.emit sink p.unreachable s
      (p, .close, s)

/-- Ends a poll after the device was closed, whether or not that failed. -/
def afterClose (p : Poller) : Poller := { p with stage := .closed }

/-- A poll from the fetch on, in a world that the sink and the device share. -/
def fetchAndReport (sink : Sink ω) (device : Device ω) (p : Poller) (w : ω) : Poller × ω :=
  let (result, w) := device.fetch w
  match p.afterFetch sink result w with
  | (p, .close, w) => (p.afterClose, (device.close w).2)
  | (p, _, w) => (p, w)

/-- A poll as a whole, in a world that the sink and the device share, so that there is an order among what
is done to the one and to the other. -/
def pollIn (sink : Sink ω) (device : Device ω) (p : Poller) (w : ω) : Poller × ω :=
  match p.begin (device.isOpen w) with
  | (p, .openUp) =>
    let (result, w) := device.openUp w
    match p.afterOpen sink result w with
    | (p, .fetch, w) => p.fetchAndReport sink device w
    | (p, _, w) => (p, w)
  | (p, _) => p.fetchAndReport sink device w

/-- A poll with a sink and a device that have nothing to do with each other. -/
def poll (sink : Sink σ) (device : Device δ) (p : Poller) (s : σ) (d : δ) : Poller × σ × δ :=
  p.pollIn sink.left device.right (s, d)

/-- So many polls, one after the other. A poller that is to stop leaves its device alone. -/
def polls (sink : Sink σ) (device : Device δ) (cancelled : Bool) (p : Poller) (s : σ) (d : δ)
    : Nat → Poller × σ × δ
  | 0 => (p, s, d)
  | n + 1 =>
    if cancelled then (p, s, d)
    else
      let (p, s, d) := p.poll sink device s d
      p.polls sink device cancelled s d n

end Poller

end ReceiptFleet.Fleet
