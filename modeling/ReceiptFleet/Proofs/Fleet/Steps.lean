import ReceiptFleet.Fleet.Basic
import ReceiptFleet.Proofs.Fleet.Reports
import ReceiptFleet.Simulation.World

/-!
What a step of a fleet can do. A poller takes a turn at its own watch, and a call goes one stage
further. To the registry and the pollers a step does nothing, registers a printer, forgets a name, or
lets one poller go on, which then tells the registry one thing at most.
-/

namespace ReceiptFleet.Fleet

open Simulation (Operation)

-----------------------------------------------------------------------------------------
-- What a poller tells the registry
-----------------------------------------------------------------------------------------

/-- What a poller has told the registry when it has gone on, and what it has become: nothing,
that its printer is ready, or a status that was refused or published. Only a published status is
remembered. -/
inductive Told (p : Poller) (r : Registry) : Poller → Registry → List Report → Prop
  | silent {q} (registration : q.registration = p.registration) (last : q.last = p.last)
    : Told p r q r []
  | announced {q} (registration : q.registration = p.registration) (last : q.last = p.last)
    : Told p r q (r.announce p.registration) []
  | refused {q status} (registration : q.registration = p.registration) (last : q.last = p.last)
    (stale : r.member? p.registration = none)
    : Told p r q r [⟨p.registration, status, false⟩]
  | published {q status member} (registration : q.registration = p.registration)
    (last : q.last = some status) (inForce : r.member? p.registration = some member)
    : Told p r q (r.publish p.registration status).2 [⟨p.registration, status, true⟩]

namespace Poller

/-- A report to the registry that is made along a step is one of the poller before it. -/
theorem emit_told {p p₁ q : Poller} {status : Status} {r r' : Registry} {reports : List Report}
    (report : p₁.emit Registry.sink.recorded status (r, []) = (q, r', reports))
    (registration : p₁.registration = p.registration) (last : p₁.last = p.last)
    : p₁.emit Registry.sink status r = (q, r') ∧ Told p r q r' reports := by
  refine ⟨(emit_recorded report).1, ?_⟩
  simp only [emit, Sink.recorded, Registry.sink] at report
  split at report
  · cases inForce : r.member? p.registration with
    | none =>
        have answer : r.publish p.registration status = (false, r) := by
          rw [Registry.publish, inForce]
        rw [registration, answer] at report
        cases report
        exact .refused registration last inForce
    | some member =>
        rcases answer : r.publish p.registration status with ⟨accepted, r₁⟩
        have yes : accepted = true := by
          rw [Registry.publish, inForce] at answer
          exact (Prod.mk.inj answer).1.symm
        cases yes
        have after : (r.publish p.registration status).2 = r₁ := by rw [answer]
        rw [registration, answer] at report
        cases report
        rw [← after]
        exact .published rfl rfl inForce
  · cases report
    exact .silent registration last

theorem announce_told {p p₁ q : Poller} {r r' : Registry} {reports : List Report}
    (announcement : p₁.announce Registry.sink.recorded (r, []) = (q, r', reports))
    (registration : p₁.registration = p.registration) (last : p₁.last = p.last)
    : p₁.announce Registry.sink r = (q, r') ∧ Told p r q r' reports := by
  refine ⟨(announce_recorded announcement).1, ?_⟩
  simp only [announce, Sink.recorded, Registry.sink] at announcement
  split at announcement
  · rw [registration] at announcement
    cases announcement
    exact .announced rfl last
  · cases announcement
    exact .silent registration last

theorem afterOpen_told {p q : Poller} {result : Except Fault Unit} {demand : Demand}
    {r r' : Registry} {reports : List Report}
    (phase : p.afterOpen Registry.sink.recorded result (r, []) = (q, demand, r', reports))
    : p.afterOpen Registry.sink result r = (q, demand, r') ∧ Told p r q r' reports := by
  cases result with
  | ok done =>
      rcases step : { p with stage := .polling }.announce Registry.sink.recorded (r, [])
        with ⟨q₁, r₁, reports₁⟩
      simp only [afterOpen, step] at phase ⊢
      cases phase
      obtain ⟨plain, told⟩ := announce_told (p := p) step rfl rfl
      rw [plain]
      exact ⟨rfl, told⟩
  | error fault =>
      rcases step : { p with stage := .closed }.emit Registry.sink.recorded p.unreachable (r, [])
        with ⟨q₁, r₁, reports₁⟩
      simp only [afterOpen, step] at phase ⊢
      cases phase
      obtain ⟨plain, told⟩ := emit_told (p := p) step rfl rfl
      rw [plain]
      exact ⟨rfl, told⟩

theorem afterFetch_told {p q : Poller} {result : Except Fault Status} {demand : Demand}
    {r r' : Registry} {reports : List Report}
    (phase : p.afterFetch Registry.sink.recorded result (r, []) = (q, demand, r', reports))
    : p.afterFetch Registry.sink result r = (q, demand, r') ∧ Told p r q r' reports := by
  cases result with
  | ok status =>
      rcases step : { p with errors := 0 }.emit Registry.sink.recorded
        (status.setFlag Status.notOpenField false) (r, []) with ⟨q₁, r₁, reports₁⟩
      simp only [afterFetch, step] at phase ⊢
      cases phase
      obtain ⟨plain, told⟩ := emit_told (p := p) step rfl rfl
      rw [plain]
      exact ⟨rfl, told⟩
  | error fault =>
      by_cases few : p.errors + 1 < p.limit
      · simp only [afterFetch, few, if_true] at phase ⊢
        cases phase
        exact ⟨rfl, .silent rfl rfl⟩
      · rcases step : { p with errors := 0 }.emit Registry.sink.recorded p.unreachable (r, [])
          with ⟨q₁, r₁, reports₁⟩
        simp only [afterFetch, few, if_false, step] at phase ⊢
        cases phase
        obtain ⟨plain, told⟩ := emit_told (p := p) step rfl rfl
        rw [plain]
        exact ⟨rfl, told⟩

end Poller

-----------------------------------------------------------------------------------------
-- Turns of a poller
-----------------------------------------------------------------------------------------

/-- What pollers report in a move. -/
def reports (f : Fleet) : Move → List Report
  | .poller id signal =>
    match f.watch? id with
    | none => []
    | some w =>
      match w.activity, signal with
      | .opening, .opened result =>
        (w.poller.afterOpen Registry.sink.recorded result (f.registry, [])).2.2.2
      | .fetching, .fetched result =>
        (w.poller.afterFetch Registry.sink.recorded result (f.registry, [])).2.2.2
      | _, _ => []
  | _ => []

/-- The operation that a poller is in the middle of. -/
def Activity.operation? : Activity → Option Operation
  | .opening => some .openUp
  | .fetching => some .fetch
  | .closing => some .close
  | .due | .waiting | .pausing | .stopped => none

/-- What a poller does to its watch in one step, where `stop` says whether it is to stop: it takes its
place in the queue; it gives up the device or begins to use it, once it holds it; it goes on to another
operation or ends its poll; or it rests no longer. -/
inductive Turn (stop : Bool) (w : Watch) : Watch → Prop
  | queues (due : w.activity = .due)
    : Turn stop w { w.join .poller with activity := .waiting }
  | givesUp (waiting : w.activity = .waiting) (holds : w.holds .poller = true)
    (stops : stop = true)
    : Turn stop w { w.release with activity := .pausing }
  | begins {p activity operation} (waiting : w.activity = .waiting)
    (holds : w.holds .poller = true) (goes : stop = false)
    (next : activity.operation? = some operation)
    : Turn stop w { w with poller := p, activity }
  | goesOn {p activity operation another} (busy : w.activity.operation? = some operation)
    (next : activity.operation? = some another)
    : Turn stop w { w with poller := p, activity }
  | ends {p operation} (busy : w.activity.operation? = some operation)
    : Turn stop w { w.release with poller := p, activity := .pausing }
  | rested (pausing : w.activity = .pausing)
    : Turn stop w { w with activity := if stop then .stopped else .due }

/-- A poller in the middle of an operation goes on with what it needs next. -/
theorem Turn.pursue {stop : Bool} {w : Watch} {operation : Operation}
    (busy : w.activity.operation? = some operation) (p : Poller) (demand : Demand)
    : Turn stop w ({ w with poller := p }.pursue demand) := by
  cases demand with
  | openUp => exact .goesOn busy (rfl : Activity.opening.operation? = some .openUp)
  | fetch => exact .goesOn busy (rfl : Activity.fetching.operation? = some .fetch)
  | close => exact .goesOn busy (rfl : Activity.closing.operation? = some .close)
  | nothing => exact .ends busy

/-- A poller that holds the device begins with one operation or another. -/
theorem Turn.begin {w : Watch} (waiting : w.activity = .waiting)
    (holds : w.holds .poller = true) (isOpen : Bool)
    : Turn false w ({ w with poller := (w.poller.begin isOpen).1 }.pursue (w.poller.begin isOpen).2) := by
  cases isOpen with
  | true => exact .begins waiting holds rfl (rfl : Activity.fetching.operation? = some .fetch)
  | false => exact .begins waiting holds rfl (rfl : Activity.opening.operation? = some .openUp)

theorem begin_eq (p : Poller) (isOpen : Bool)
    : (p.begin isOpen).1 = { p with stage := (p.begin isOpen).1.stage } := by
  cases isOpen <;> rfl

@[simp] theorem poller_pursue (w : Watch) (demand : Demand)
    : (w.pursue demand).poller = w.poller := by
  cases demand <;> rfl

/-- A step of a poller is a turn at its watch, in which it tells the registry something or nothing.
The cases are those of what the poller is doing and what it meets. -/
theorem stepPoller_turn {f g : Fleet} {id : Nat} {signal : Signal}
    (step : f.stepPoller id signal = some g)
    : ∃ w w' r,
        f.watch? id = some w
        ∧ g = { f with registry := r }.setWatch id w'
        ∧ Turn (f.isCancelled w) w w'
        ∧ Told w.poller f.registry w'.poller r (f.reports (.poller id signal)) := by
  cases found : f.watch? id with
  | none =>
      rw [stepPoller, found] at step
      cases step
  | some w =>
      cases activity : w.activity <;> cases signal <;>
        simp only [stepPoller, reports, found, activity, Option.bind_eq_bind, Option.bind_some,
          Option.pure_def, reduceCtorEq] at step ⊢
      case due.proceed isOpen =>
        cases step
        exact ⟨w, _, f.registry, rfl, rfl, .queues activity, .silent rfl rfl⟩
      case waiting.proceed isOpen =>
        split at step
        · rename_i holds
          split at step
          · rename_i stops
            cases step
            exact ⟨w, _, f.registry, rfl, rfl, .givesUp activity holds stops, .silent rfl rfl⟩
          · rename_i goes
            cases step
            refine ⟨w, _, f.registry, rfl, rfl, ?_, .silent ?_ ?_⟩
            · rw [eq_false_of_ne_true goes]
              exact .begin activity holds isOpen
            all_goals rw [poller_pursue, begin_eq]
        · cases step
      case opening.opened result =>
        rcases phase : w.poller.afterOpen Registry.sink.recorded result (f.registry, [])
          with ⟨q, demand, r, told⟩
        obtain ⟨plain, told⟩ := Poller.afterOpen_told phase
        rw [plain] at step
        cases step
        have busy : w.activity.operation? = some .openUp := by rw [activity]; rfl
        refine ⟨w, _, r, rfl, rfl, .pursue busy q demand, ?_⟩
        rw [poller_pursue]
        exact told
      case fetching.fetched result =>
        rcases phase : w.poller.afterFetch Registry.sink.recorded result (f.registry, [])
          with ⟨q, demand, r, told⟩
        obtain ⟨plain, told⟩ := Poller.afterFetch_told phase
        rw [plain] at step
        cases step
        have busy : w.activity.operation? = some .fetch := by rw [activity]; rfl
        refine ⟨w, _, r, rfl, rfl, .pursue busy q demand, ?_⟩
        rw [poller_pursue]
        exact told
      case closing.closed result =>
        cases step
        have busy : w.activity.operation? = some .close := by rw [activity]; rfl
        exact ⟨w, _, f.registry, rfl, rfl, .pursue busy w.poller.afterClose .nothing,
          .silent rfl rfl⟩
      case pausing.proceed isOpen =>
        cases step
        exact ⟨w, _, f.registry, rfl, rfl, .rested activity, .silent rfl rfl⟩

-----------------------------------------------------------------------------------------
-- Stages of a call
-----------------------------------------------------------------------------------------

/-- What a call makes of the fleet in one step, by how far it has got. -/
inductive Called (f : Fleet) (number : Nat) (c : Call) (outcome : Except Fault Unit)
    : Fleet → Prop
  | refused {error} (asked : c.progress = .asked) : Called f number c outcome (f.refuse number error)
  | taken {name entry} (asked : c.progress = .asked) (request : c.request = .remove name)
    (found : f.registry.entries.get? name = some entry)
    : Called f number c outcome
        ({ f with registry := f.registry.forget name }.setProgress number (.taken entry.id))
  | bound {entry job} (asked : c.progress = .asked)
    (found : f.registry.entries.get? c.request.name = some entry)
    : Called f number c outcome (f.setProgress number (.bound entry.id (.execute job)))
  | cancels {id w} (taken : c.progress = .taken id) (found : f.watch? id = some w)
    : Called f number c outcome
        ((f.setWatch id { w with cancelled := true }).setProgress number (.bound id .close))
  | queues {id work w} (bound : c.progress = .bound id work) (found : f.watch? id = some w)
    : Called f number c outcome
        ((f.setWatch id (w.join (.call number))).setProgress number (.waiting id work))
  | begins {id work w} (waiting : c.progress = .waiting id work) (found : f.watch? id = some w)
    (holds : w.holds (.call number) = true)
    : Called f number c outcome (f.setProgress number (.working id work))
  | closed {id w} (working : c.progress = .working id .close) (found : f.watch? id = some w)
    : Called f number c outcome
        ((f.setWatch id w.release).setProgress number (.joining id outcome))
  | executed {id job w} (working : c.progress = .working id (.execute job))
    (found : f.watch? id = some w)
    : Called f number c outcome
        ((f.setWatch id w.release).setProgress number (.returned (c.deviceResult outcome)))
  | returns {id result w} (joining : c.progress = .joining id result)
    (found : f.watch? id = some w) (stopped : w.activity = .stopped)
    : Called f number c outcome (f.setProgress number (.returned (c.deviceResult result)))

/-- The first step of a call takes an entry, finds one, or refuses. -/
theorem begin_called (f : Fleet) (number : Nat) {c : Call} (asked : c.progress = .asked)
    (outcome : Except Fault Unit)
    : Called f number c outcome (f.begin number c.request) := by
  have print {name : String} (same : c.request.name = name) (document : Markup.Document)
      : Called f number c outcome (f.beginPrint number name document) := by
    rw [beginPrint]
    split
    · exact .refused asked
    · rename_i entry found
      split
      · exact .refused asked
      · exact .bound asked (same ▸ found)
  cases request : c.request with
  | remove name =>
      rw [begin, beginRemoval]
      split
      · exact .refused asked
      · rename_i entry found
        exact .taken asked request found
  | print name markup =>
      rw [begin]
      split
      · exact .refused asked
      · exact print (by rw [request]; rfl) _
  | printDocument name document => exact print (by rw [request]; rfl) document

/-- A step of a call is one of these. -/
theorem stepCall_called {f g : Fleet} {number : Nat} {outcome : Except Fault Unit}
    (step : f.stepCall number outcome = some g)
    : ∃ c, f.calls[number]? = some c ∧ Called f number c outcome g := by
  simp only [stepCall, Option.bind_eq_bind, Option.bind_eq_some_iff, Option.pure_def] at step
  obtain ⟨c, called, step⟩ := step
  refine ⟨c, called, ?_⟩
  cases progress : c.progress <;> rw [progress] at step
  case asked =>
    cases step
    exact begin_called f number progress outcome
  case returned => cases step
  all_goals
    rw [Option.bind_eq_some_iff] at step
    obtain ⟨w, found, step⟩ := step
  case taken id =>
    cases step
    exact .cancels progress found
  case bound id work =>
    cases step
    exact .queues progress found
  case waiting id work =>
    split at step <;> cases step
    rename_i holds
    exact .begins progress found holds
  case working id work =>
    cases work <;> cases step
    · exact .closed progress found
    · exact .executed progress found
  case joining id result =>
    split at step <;> cases step
    rename_i stopped
    exact .returns progress found stopped

-----------------------------------------------------------------------------------------
-- All steps
-----------------------------------------------------------------------------------------

/-- What a fleet becomes in a step. A printer is added, under a name that is taken or under a new one; a
call is asked; a poller takes a turn and tells the registry something or nothing; a call goes one stage
further; or the fleet is dropped. -/
inductive Step (f : Fleet) : Move → Fleet → Prop
  | kept {member entry} (inUse : f.registry.dropped = false)
    (known : f.registry.entries.get? member.name = some entry)
    : Step f (.add member) f
  | added {member} (inUse : f.registry.dropped = false)
    (new : f.registry.entries.get? member.name = none)
    : Step f (.add member)
        { f with
          registry := f.registry.register f.watches.length member
          watches :=
            f.watches
              ++ [{ member
                    poller :=
                      .start ⟨member.name, f.watches.length⟩ member.unreachable f.threshold }] }
  | asked {request} (inUse : f.registry.dropped = false)
    : Step f (.ask request) { f with calls := f.calls ++ [{ request }] }
  | polled {id signal w w' r} (found : f.watch? id = some w)
    (turn : Turn (f.isCancelled w) w w')
    (told : Told w.poller f.registry w'.poller r (f.reports (.poller id signal)))
    : Step f (.poller id signal) ({ f with registry := r }.setWatch id w')
  | called {number outcome c g} (called : f.calls[number]? = some c)
    (going : Called f number c outcome g)
    : Step f (.call number outcome) g
  | dropped (done : ∀ c ∈ f.calls, c.result?.isSome = true)
    : Step f .drop { f with registry := { f.registry with dropped := true } }

/-- Every step is one of these. -/
theorem step_cases {f g : Fleet} {move : Move} (step : f.step move = some g)
    : Step f move g := by
  cases move with
  | add member =>
      simp only [Fleet.step, add] at step
      split at step
      · cases step
      · rename_i inUse
        cases known : f.registry.entries.get? member.name with
        | some entry =>
            simp only [Keyed.contains, known, Option.isSome_some, if_true] at step
            cases step
            exact .kept (eq_false_of_ne_true inUse) known
        | none =>
            simp only [Keyed.contains, known, Option.isSome_none, Bool.false_eq_true,
              if_false] at step
            cases step
            exact .added (eq_false_of_ne_true inUse) known
  | ask request =>
      simp only [Fleet.step] at step
      split at step
      · cases step
      · rename_i inUse
        cases step
        exact .asked (eq_false_of_ne_true inUse)
  | poller id signal =>
      obtain ⟨w, w', r, found, rfl, turn, told⟩ := stepPoller_turn step
      exact .polled found turn told
  | call number outcome =>
      obtain ⟨c, called, going⟩ := stepCall_called step
      exact .called called going
  | drop =>
      simp only [Fleet.step] at step
      split at step
      · rename_i done
        cases step
        exact .dropped (List.all_eq_true.mp done)
      · cases step

/-- What every step preserves, every run preserves, by induction over its moves. -/
theorem run_invariant {P : Fleet → Prop}
    (next : ∀ {f g : Fleet} {move : Move}, P f → f.step move = some g → P g) {f g : Fleet}
    {moves : List Move} (start : P f) (reached : f.run moves = some g)
    : P g := by
  induction moves generalizing f with
  | nil =>
      cases reached
      exact start
  | cons move others ih =>
      obtain ⟨f', step, rest⟩ := Option.bind_eq_some_iff.mp reached
      exact ih (next start step) rest

-----------------------------------------------------------------------------------------
-- What a step does to the registry and the pollers
-----------------------------------------------------------------------------------------

/-- All pollers so far, in the order of their registrations. -/
def pollers (f : Fleet) : List Poller := f.watches.map (·.poller)

/-- What a step can do to the registry and the pollers of a fleet, with what is reported in it. -/
inductive Stepped (f : Fleet) : Fleet → List Report → Prop
  | still {g} (registry : g.registry = f.registry) (pollers : g.pollers = f.pollers)
    : Stepped f g []
  | added {g} (member : Member) (new : f.registry.entries.get? member.name = none)
    (registry : g.registry = f.registry.register f.pollers.length member)
    (pollers
      : g.pollers
        = f.pollers
          ++ [.start ⟨member.name, f.pollers.length⟩ member.unreachable f.threshold])
    : Stepped f g []
  | forgotten {g} (name : String) (registry : g.registry = f.registry.forget name)
    (pollers : g.pollers = f.pollers)
    : Stepped f g []
  | polled {g} (id : Nat) {p q : Poller} {reports : List Report} (found : f.pollers[id]? = some p)
    (told : Told p f.registry q g.registry reports) (pollers : g.pollers = f.pollers.set id q)
    : Stepped f g reports
  | dropped {g} (registry : g.registry = { f.registry with dropped := true })
    (pollers : g.pollers = f.pollers)
    : Stepped f g []

@[simp] theorem pollers_setWatch (f : Fleet) (id : Nat) (w : Watch)
    : (f.setWatch id w).pollers = f.pollers.set id w.poller := by
  simp [pollers, setWatch, List.map_set]

theorem pollers_of_watch {f : Fleet} {id : Nat} {w : Watch} (found : f.watch? id = some w)
    : f.pollers[id]? = some w.poller := by
  rw [watch?] at found
  simp [pollers, found]

theorem set_of_found {α : Type} {items : List α} {i : Nat} {item : α}
    (found : items[i]? = some item)
    : items.set i item = items := by
  obtain ⟨_, same⟩ := List.getElem?_eq_some_iff.mp found
  rw [← same, List.set_getElem_self]

/-- Setting a watch with the same poller is nothing to the registry and the pollers. -/
theorem Stepped.setWatch {f : Fleet} {id : Nat} {w w' : Watch} (found : f.watch? id = some w)
    (same : w'.poller = w.poller)
    : Stepped f (f.setWatch id w') [] := by
  refine .still rfl ?_
  rw [pollers_setWatch, same]
  exact set_of_found (pollers_of_watch found)

/-- A poller goes on when its watch is set with what it has become and told. -/
theorem Stepped.setTold {f : Fleet} {id : Nat} {w w' : Watch} {r : Registry}
    {reports : List Report} (found : f.watch? id = some w)
    (told : Told w.poller f.registry w'.poller r reports)
    : Stepped f ({ f with registry := r }.setWatch id w') reports :=
  .polled id (pollers_of_watch found) told (pollers_setWatch _ id w')

/-- The progress of a call is nothing to the registry and the pollers. -/
theorem Stepped.setProgress {f g : Fleet} {reports : List Report} (stepped : Stepped f g reports)
    (number : Nat) (progress : Progress)
    : Stepped f (g.setProgress number progress) reports := by
  cases stepped with
  | still registry pollers => exact .still registry pollers
  | added member new registry pollers => exact .added member new registry pollers
  | forgotten name registry pollers => exact .forgotten name registry pollers
  | polled id found told pollers => exact .polled id found told pollers
  | dropped registry pollers => exact .dropped registry pollers

/-- Of the steps of a call only taking an entry is anything to the registry. -/
theorem Called.stepped {f g : Fleet} {number : Nat} {c : Call} {outcome : Except Fault Unit}
    (going : Called f number c outcome g)
    : Stepped f g [] := by
  cases going with
  | refused | bound | begins | returns => exact .still rfl rfl
  | taken _ _ _ => exact .forgotten _ rfl rfl
  | cancels _ found | queues _ found | closed _ found | executed _ found =>
      refine (Stepped.setWatch found ?_).setProgress _ _
      rfl

/-- Every step is one of these. -/
theorem step_stepped {f g : Fleet} {move : Move} (step : f.step move = some g)
    : Stepped f g (f.reports move) := by
  cases step_cases step with
  | kept | asked => exact .still rfl rfl
  | added _ new => exact .added _ new (by simp [pollers]) (by simp [pollers])
  | polled found _ told => exact .setTold found told
  | called _ going => exact going.stepped
  | dropped => exact .dropped rfl rfl

end ReceiptFleet.Fleet
