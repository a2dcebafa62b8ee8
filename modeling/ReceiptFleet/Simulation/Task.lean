import ReceiptFleet.Simulation.World

/-!
Tasks for a simulated world: calls on its fleet and rests, one after the other or side by side. Tasks that
are side by side are looked at in their order, each going on until it has to wait; between two such
looks all pollers that can go on do so.
-/

namespace ReceiptFleet.Simulation

open Fleet (CallError Request TeardownError)

/-- What can be asked of a world. -/
inductive Task where
  | add (handles : List String)
  | rest (ms : Nat)
  | ask (request : Request)
  | closeAll
  | together (tasks : List Task)
  | inTurn (tasks : List Task)

/-- What a task comes to. -/
inductive Outcome where
  | nothing
  | answered (result : Except CallError Unit)
  | closedAll (result : Except TeardownError Unit)
  | each (outcomes : List Outcome)

instance : Inhabited Outcome := ⟨.nothing⟩

/-- A task under way: finished; waiting for a rest, a call or several removals; or made of others. -/
inductive Doing where
  | finished (outcome : Outcome)
  | resting (number : Nat)
  | calling (number : Nat)
  | closing (numbers : List Nat)
  | together (parts : List Doing)
  | inTurn (done : List Outcome) (current : Doing) (later : List Task)

namespace Doing

/-- The outcome of a task that is finished. -/
def outcome? : Doing → Option Outcome
  | .finished outcome => some outcome
  | _ => none

/-- The outcomes of tasks that are all finished. -/
def outcomes? (parts : List Doing) : Option (List Outcome) := parts.mapM outcome?

/-- Goes on with a call. -/
def lookAtCall (number : Nat) (w : World) : Doing × World :=
  let w := w.runCall number
  match w.result? number with
  | some result => (.finished (.answered result), w)
  | none => (.calling number, w)

/-- Goes on with removals, each in turn. -/
def lookAtClosing (numbers : List Nat) (w : World) : Doing × World :=
  let w := numbers.foldl World.runCall w
  match numbers.mapM w.result? with
  | some results => (.finished (.closedAll (Fleet.teardownResult results)), w)
  | none => (.closing numbers, w)

/-- Tasks side by side; they are finished when all of them are. -/
def gather (parts : List Doing) : Doing :=
  match outcomes? parts with
  | some outcomes => .finished (.each outcomes)
  | none => .together parts

/-- Asks for several things. -/
def askAll (requests : List Request) (w : World) : List Nat × World :=
  match requests with
  | [] => ([], w)
  | request :: others =>
    let (number, fleet) := w.fleet.ask request
    let (numbers, w) := askAll others { w with fleet }
    (number :: numbers, w)

mutual
/-- Starts a task and goes on until it has to wait. -/
def start : Task → World → Doing × World
  | .add handles, w => (.finished .nothing, handles.foldl World.add w)
  | .rest ms, w =>
    if ms = 0 then (.finished .nothing, w)
    else (.resting w.rests, { w with rests := w.rests + 1 }.sleep (.rest w.rests) ms)
  | .ask request, w =>
    let (number, fleet) := w.fleet.ask request
    lookAtCall number { w with fleet }
  | .closeAll, w =>
    let (numbers, w) := askAll w.fleet.closing w
    lookAtClosing numbers w
  | .together tasks, w =>
    let (parts, w) := startAll tasks w
    (gather parts, w)
  | .inTurn tasks, w => startInTurn [] tasks w

/-- Starts tasks side by side. -/
def startAll : List Task → World → List Doing × World
  | [], w => ([], w)
  | task :: others, w =>
    let (first, w) := start task w
    let (parts, w) := startAll others w
    (first :: parts, w)

/-- Starts the first of some tasks, and the next one when it is finished. -/
def startInTurn (done : List Outcome) : List Task → World → Doing × World
  | [], w => (.finished (.each done), w)
  | task :: later, w =>
    match start task w with
    | (.finished outcome, w) => startInTurn (done ++ [outcome]) later w
    | (current, w) => (.inTurn done current later, w)
end

mutual
/-- Goes on with a task until it has to wait again. -/
def look : Doing → World → Doing × World
  | .finished outcome, w => (.finished outcome, w)
  | .resting number, w =>
    if w.isAsleep (.rest number) then (.resting number, w) else (.finished .nothing, w)
  | .calling number, w => lookAtCall number w
  | .closing numbers, w => lookAtClosing numbers w
  | .together parts, w =>
    let (parts, w) := lookAll parts w
    (gather parts, w)
  | .inTurn done current later, w =>
    match look current w with
    | (.finished outcome, w) => startInTurn (done ++ [outcome]) later w
    | (current, w) => (.inTurn done current later, w)

/-- Goes on with tasks side by side. -/
def lookAll : List Doing → World → List Doing × World
  | [], w => ([], w)
  | first :: others, w =>
    let (first, w) := look first w
    let (others, w) := lookAll others w
    (first :: others, w)
end

mutual
/-- Whether a task can go on. -/
def canGoOn (w : World) : Doing → Bool
  | .finished _ => false
  | .resting number => !w.isAsleep (.rest number)
  | .calling number => (w.moveCall number).isSome
  | .closing numbers => numbers.any fun number => (w.moveCall number).isSome
  | .together parts => canAnyGoOn w parts
  | .inTurn _ current _ => canGoOn w current

/-- Whether one of some tasks can go on. -/
def canAnyGoOn (w : World) : List Doing → Bool
  | [] => false
  | first :: others => canGoOn w first || canAnyGoOn w others
end

/-- Waits for a task to finish: the pollers go on, then the task does; and when neither can, time does.
It gives up after so many turns, or when no alarm is left. -/
def await : Nat → Doing → World → Outcome × World
  | _, .finished outcome, w => (outcome, w)
  | 0, _, w => (.nothing, w)
  | turns + 1, doing, w =>
    let w := w.runPollers
    if canGoOn w doing then
      let (doing, w) := look doing w
      await turns doing w
    else if w.alarms.isEmpty then (.nothing, w)
    else
      let (doing, w) := look doing w.goOn
      await turns doing w

/-- More turns than any task takes. -/
def turnLimit : Nat := 1000000000000

end Doing

/-- Carries out a task. What can go on at that time, apart from the task, is left to `World.runPollers`. -/
def World.perform (w : World) (task : Task) : Outcome × World :=
  let (doing, w) := Doing.start task w
  doing.await Doing.turnLimit w

end ReceiptFleet.Simulation
