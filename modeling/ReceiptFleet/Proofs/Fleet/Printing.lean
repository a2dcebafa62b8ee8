import Mathlib.Tactic.Common
import ReceiptFleet.Proofs.Fleet.Removals
import ReceiptFleet.Proofs.Fleet.Turns

/-!
Calls to print. The first step of a call decides what comes of it: it is refused, and then it never uses a
device; or it has a job for the device of a registration, executes that once, and returns what comes of it.
To the registry and to the pollers a call to print is nothing.
-/

namespace ReceiptFleet.Fleet

variable {f g : Fleet} {move : Move} {events : List Event} {id number : Nat} {name markup : String}
variable {job : Job} {progress : Progress}

-----------------------------------------------------------------------------------------
-- What holds from a fleet on
-----------------------------------------------------------------------------------------

/-- Whatever happens from a fleet on, something holds of the fleet and of the log up to there. -/
def Always (P : Fleet → List Event → Prop) (f : Fleet) (events : List Event) : Prop :=
  ∀ after g, f.run after = some g → P g (events ++ f.log after)

/-- The watches of a fleet, but for who stands in line. -/
def stations (f : Fleet) : List Watch := f.watches.map fun w => { w with queue := [] }

/-- A move is nothing to the registry and to what the pollers are and do. -/
def Aside (f : Fleet) (move : Move) : Prop :=
  ∀ g, f.step move = some g → g.registry = f.registry ∧ g.stations = f.stations

theorem stations_setWatch {w w' : Watch} (found : f.watch? id = some w)
    (same : { w' with queue := [] } = { w with queue := [] })
    : (f.setWatch id w').stations = f.stations := by
  have place : f.stations[id]? = some { w with queue := [] } := by
    rw [watch?] at found
    rw [stations, List.getElem?_map, found, Option.map_some]
  rw [stations, setWatch, List.map_set, same]
  exact set_of_found place

/-- A call that has returned has no more steps. -/
theorem next_of_returned {c : Call} {result : Except CallError Unit}
    (called : f.calls[number]? = some c) (returned : c.result? = some result)
    (step : f.step move = some g)
    : g.calls[number]? = some c ∧ eventsOf number (f.passage move g) = [] := by
  have other (outcome : Except Fault Unit) (own : move = .call number outcome) : False := by
    subst own
    obtain ⟨c', called', going⟩ := stepCall_called step
    rw [called] at called'
    cases called'
    rw [going.result?_eq_none] at returned
    cases returned
  exact ⟨step_call_of_other called other step, eventsOf_passage_of_other other⟩

-----------------------------------------------------------------------------------------
-- Stages of a call to print
-----------------------------------------------------------------------------------------

/-- How far a call to print has got that has a job for the device of a registration: it has not used the
device, or is executing the job, or has executed it once and returned what came of that. -/
inductive Printing (id number : Nat) (name : String) (job : Job) (events : List Event)
    : Progress → Prop
  | bound (unused : eventsOf number events = [])
    : Printing id number name job events (.bound id (.execute job))
  | waiting (unused : eventsOf number events = [])
    : Printing id number name job events (.waiting id (.execute job))
  | working (begun : eventsOf number events = [.began ⟨id, .call number, .execute⟩])
    : Printing id number name job events (.working id (.execute job))
  | returned {outcome : Except Fault Unit}
    (once
      : eventsOf number events
        = [.began ⟨id, .call number, .execute⟩,
            .ended ⟨id, .call number, .execute⟩ (Move.call number outcome).fault?])
    : Printing id number name job events (.returned (outcome.mapError (.device name)))

/-- Events of others leave a call to print where it is. -/
theorem Printing.next_of_idle {more : List Event}
    (printing : Printing id number name job events progress) (idle : eventsOf number more = [])
    : Printing id number name job (events ++ more) progress := by
  have same : eventsOf number (events ++ more) = eventsOf number events := by
    rw [eventsOf_append, idle, List.append_nil]
  cases printing with
  | bound unused => exact .bound (same.trans unused)
  | waiting unused => exact .waiting (same.trans unused)
  | working begun => exact .working (same.trans begun)
  | returned once => exact .returned (same.trans once)

/-- Its own step takes it to the next stage. -/
theorem Printing.next_of_call {outcome : Except Fault Unit}
    (printing : Printing id number name job events progress)
    (called : f.calls[number]? = some ⟨.print name markup, progress⟩)
    (step : f.step (.call number outcome) = some g)
    : ∃ progress',
        g.calls[number]? = some ⟨.print name markup, progress'⟩
        ∧ Printing id number name job (events ++ f.passage (.call number outcome) g) progress' := by
  obtain ⟨c, same, going⟩ := stepCall_called step
  rw [called] at same
  cases same
  have before := calling?_of_progress called
  cases going with
  | refused asked | taken asked | bound asked =>
      cases asked
      cases printing
  | cancels taken =>
      cases taken
      cases printing
  | @queues here _ w bound found =>
      cases bound
      cases printing with
      | bound unused =>
          have after := calls_setProgress_self (f := f.setWatch id (w.join (.call number))) called
            (.waiting id (.execute job))
          refine ⟨_, after, .waiting ?_⟩
          rw [eventsOf_append, unused,
            eventsOf_passage_of_idle before (calling?_of_progress after), List.append_nil]
  | begins waiting found holds =>
      cases waiting
      cases printing with
      | waiting unused =>
          have after := calls_setProgress_self called (.working id (.execute job))
          refine ⟨_, after, .working ?_⟩
          rw [eventsOf_append, unused, passage_of_begins before (calling?_of_progress after)]
          simp [eventsOf, Event.access, Simulation.World.operationOf]
  | closed working =>
      cases working
      cases printing
  | @executed here _ w working found =>
      cases working
      cases printing with
      | working begun =>
          have after := calls_setProgress_self (f := f.setWatch id w.release) called
            (.returned (Call.deviceResult ⟨.print name markup, .working id (.execute job)⟩ outcome))
          refine ⟨_, after, .returned ?_⟩
          rw [eventsOf_append, begun, passage_of_ends before (calling?_of_progress after)]
          simp [eventsOf, Event.access, Simulation.World.operationOf]
  | returns joining =>
      cases joining
      cases printing

theorem Printing.next (printing : Printing id number name job events progress)
    (called : f.calls[number]? = some ⟨.print name markup, progress⟩) (step : f.step move = some g)
    : ∃ progress',
        g.calls[number]? = some ⟨.print name markup, progress'⟩
        ∧ Printing id number name job (events ++ f.passage move g) progress' := by
  by_cases own : ∃ outcome, move = .call number outcome
  · obtain ⟨outcome, rfl⟩ := own
    exact printing.next_of_call called step
  · have other (outcome : Except Fault Unit) (same : move = .call number outcome) : False :=
      own ⟨outcome, same⟩
    exact ⟨progress, step_call_of_other called other step,
      printing.next_of_idle (eventsOf_passage_of_other other)⟩

/-- No step of a call to print is anything to the registry and to the pollers. -/
theorem Printing.aside (printing : Printing id number name job events progress)
    (called : f.calls[number]? = some ⟨.print name markup, progress⟩) (outcome : Except Fault Unit)
    : Aside f (.call number outcome) := by
  intro g step
  obtain ⟨c, same, going⟩ := stepCall_called step
  rw [called] at same
  cases same
  cases going with
  | refused asked | bound asked => exact ⟨rfl, rfl⟩
  | begins => exact ⟨rfl, rfl⟩
  | returns => exact ⟨rfl, rfl⟩
  | taken _ request => cases request
  | cancels taken =>
      cases taken
      cases printing
  | queues _ found => exact ⟨rfl, stations_setWatch found rfl⟩
  | closed _ found => exact ⟨rfl, stations_setWatch found rfl⟩
  | executed _ found => exact ⟨rfl, stations_setWatch found rfl⟩

/-- A call that executes a job can return with any outcome of that. -/
theorem Sound.canReturn_of_working (sound : Sound f)
    (called : f.calls[number]? = some ⟨.print name markup, .working id (.execute job)⟩)
    (outcome : Except Fault Unit)
    : ∃ g,
        f.step (.call number outcome) = some g
        ∧ g.calls[number]?
          = some ⟨.print name markup, .returned (outcome.mapError (.device name))⟩ := by
  obtain ⟨w, found⟩ := sound.orderly.known _ (List.mem_of_getElem? called) id rfl
  refine ⟨_, ?_, calls_setProgress_self (f := f.setWatch id w.release) called _⟩
  simp only [Fleet.step, stepCall, called, found, Option.bind_eq_bind, Option.bind_some]
  rfl

/-- A call to print that has not returned can go on to return with any outcome of its use of the device. -/
theorem Printing.canReturn (printing : Printing id number name job events progress) (sound : Sound f)
    (called : f.calls[number]? = some ⟨.print name markup, progress⟩)
    (going : Call.result? ⟨.print name markup, progress⟩ = none) (outcome : Except Fault Unit)
    : ∃ more g,
        f.run more = some g
        ∧ g.calls[number]?
          = some ⟨.print name markup, .returned (outcome.mapError (.device name))⟩ := by
  have canWork
      : ∃ more g,
          f.run more = some g
          ∧ g.calls[number]? = some ⟨.print name markup, .working id (.execute job)⟩ := by
    cases printing with
    | bound => exact sound.canWork_of_bound called rfl
    | waiting => exact sound.canWork_of_waiting called rfl
    | working => exact ⟨[], f, rfl, called⟩
    | returned => cases going
  obtain ⟨more, g, reached, working⟩ := canWork
  obtain ⟨h, step, returned⟩ := (run_sound sound reached).canReturn_of_working working outcome
  refine ⟨more ++ [.call number outcome], h, ?_, returned⟩
  rw [run_append, reached, Option.bind_some, run_singleton step]

-----------------------------------------------------------------------------------------
-- Printers of entries
-----------------------------------------------------------------------------------------

/-- The watch over the registration of an entry is over its printer. -/
def Matched (f : Fleet) : Prop :=
  ∀ name entry,
    f.registry.entries.get? name = some entry
    → (f.watch? entry.id).map (·.member) = some entry.member

theorem matched_start (threshold : Nat) : Matched { threshold } := nofun

theorem step_member {member : Member} (known : (f.watch? id).map (·.member) = some member)
    (step : f.step move = some g)
    : (g.watch? id).map (·.member) = some member := by
  obtain ⟨w, found, same⟩ := Option.map_eq_some_iff.mp known
  obtain ⟨w', passes⟩ := step_passes found step
  rw [passes.found, Option.map_some, passes.member, same]

theorem Matched.next (matched : Matched f) (step : f.step move = some g) : Matched g := by
  intro name entry known
  have kept (old : f.registry.entries.get? name = some entry) :=
    step_member (matched name entry old) step
  cases step_cases step with
  | kept | asked | dropped => exact kept known
  | added =>
      rw [Registry.register, Keyed.get?_insert] at known
      split at known
      · cases known
        rw [watch?, List.getElem?_concat_length]
        rfl
      · exact kept known
  | polled _ _ told => exact kept (told.entries ▸ known)
  | called _ going =>
      cases going with
      | taken =>
          simp only [setProgress, Registry.forget, Keyed.get?_erase] at known
          split at known
          · cases known
          · exact kept known
      | refused | bound | cancels | queues | begins | closed | executed | returns =>
          exact kept known

-----------------------------------------------------------------------------------------
-- Whole runs
-----------------------------------------------------------------------------------------

/-- A call to print has returned with an error and has never used a device. -/
structure Refused (number : Nat) (name markup : String) (error : CallError) (f : Fleet)
    (events : List Event) : Prop where
  returned : f.calls[number]? = some ⟨.print name markup, .returned (.error error)⟩
  unused : eventsOf number events = []

/-- A call to print executes a job on the printer of an entry, once at most and as the only thing that it does
there; it has done so when it has returned; and until then it can go on to do so, with any outcome. -/
structure Executes (number : Nat) (name markup : String) (entry : Entry) (job : Job) (f : Fleet)
    (events : List Event) : Prop where
  member : (f.watch? entry.id).map (·.member) = some entry.member
  stage
    : ∃ progress,
        f.calls[number]? = some ⟨.print name markup, progress⟩
        ∧ Printing entry.id number name job events progress
        ∧ (Call.result? ⟨.print name markup, progress⟩ = none
          → ∀ outcome : Except Fault Unit,
              ∃ more g,
                f.run more = some g
                ∧ g.calls[number]?
                  = some ⟨.print name markup, .returned (outcome.mapError (.device name))⟩)
  aside : ∀ outcome, Aside f (.call number outcome)

/-- A call that is refused at once remains so. -/
theorem always_refused {error : CallError} (refused : Refused number name markup error f events)
    : Always (Refused number name markup error) f events := by
  refine fun after g reached => run_log_invariant (fun refused step => ?_) refused reached
  obtain ⟨returned, idle⟩ := next_of_returned refused.returned rfl step
  exact ⟨returned, by rw [eventsOf_append, refused.unused, idle, List.append_nil]⟩

theorem always_executes {entry : Entry} (sound : Sound f)
    (member : (f.watch? entry.id).map (·.member) = some entry.member)
    (called : f.calls[number]? = some ⟨.print name markup, progress⟩)
    (printing : Printing entry.id number name job events progress)
    : Always (Executes number name markup entry job) f events := by
  intro after g reached
  have invariant := run_log_invariant
    (P := fun f events =>
      Sound f
      ∧ (f.watch? entry.id).map (·.member) = some entry.member
      ∧ ∃ progress,
          f.calls[number]? = some ⟨.print name markup, progress⟩
          ∧ Printing entry.id number name job events progress)
    (fun ⟨sound, member, _, called, printing⟩ step =>
      ⟨sound.next step, step_member member step, printing.next called step⟩)
    ⟨sound, member, progress, called, printing⟩ reached
  obtain ⟨sound, member, progress, called, printing⟩ := invariant
  exact ⟨member, ⟨progress, called, printing, printing.canReturn sound called⟩,
    printing.aside called⟩

theorem parse_error {error : Markup.MarkupError} (bad : Markup.Document.parse markup = .error error)
    : error = .malformed := by
  rw [Markup.Document.parse] at bad
  split at bad
  · cases bad
  · split at bad <;> cases bad
    rfl

/-- The first step of a call to print is only one for the call. -/
theorem begin_print (f : Fleet) (number : Nat) (name markup : String)
    : ∃ progress, f.begin number (.print name markup) = f.setProgress number progress := by
  rw [begin]
  split
  · exact ⟨_, rfl⟩
  · rw [beginPrint]
    split
    · exact ⟨_, rfl⟩
    · split <;> exact ⟨_, rfl⟩

section

variable {threshold : Nat} {before : List Move} {outcome : Except Fault Unit}

/-- The first step of a call uses no device, and nothing has done so for the call before. -/
theorem eventsOf_begun (reached : Fleet.run { threshold } before = some f)
    (asked : f.calls[number]? = some { request := .print name markup })
    (step : f.step (.call number outcome) = some (f.setProgress number progress))
    (idle : progress.operation? = none)
    : eventsOf number (Fleet.log { threshold } (before ++ [.call number outcome])) = [] := by
  have earlier := (run_attributed (attributed_start threshold) reached).eventsOf_eq_nil asked rfl
  rw [List.nil_append] at earlier
  have after := calling?_of_progress (calls_setProgress_self asked progress)
  rw [log_append reached, log_cons step, eventsOf_append, log, List.append_nil, earlier,
    eventsOf_passage_of_idle (calling?_of_progress asked) (after.trans idle), List.append_nil]

theorem refused_of_begun {error : CallError} (reached : Fleet.run { threshold } before = some f)
    (asked : f.calls[number]? = some { request := .print name markup })
    (step : f.step (.call number outcome) = some (f.refuse number error))
    : Always (Refused number name markup error) (f.refuse number error)
        (Fleet.log { threshold } (before ++ [.call number outcome])) :=
  always_refused ⟨calls_setProgress_self asked _, eventsOf_begun reached asked step rfl⟩

theorem executes_of_begun {entry : Entry} (reached : Fleet.run { threshold } before = some f)
    (asked : f.calls[number]? = some { request := .print name markup })
    (known : f.registry.entries.get? name = some entry)
    (step
      : f.step (.call number outcome)
        = some (f.setProgress number (.bound entry.id (.execute job))))
    : Always (Executes number name markup entry job)
        (f.setProgress number (.bound entry.id (.execute job)))
        (Fleet.log { threshold } (before ++ [.call number outcome])) := by
  have sound := (run_sound (sound_start threshold) reached).next step
  have matched := run_invariant Matched.next (matched_start threshold) reached
  have member := step_member (matched name entry known) step
  exact always_executes sound member (calls_setProgress_self asked _)
    (.bound (eventsOf_begun reached asked step rfl))

end

/-- A call to print, from any state that a run from the empty fleet reaches, and whatever happens from its
first step on, in any order. Malformed markup is refused before all else, then an unknown printer, then a
document without a root or with another one than that of printing. Every other call executes what its markup
is compiled to for the width of its printer. No step of the call is anything to the registry and to the
pollers. -/
theorem run_print {threshold number : Nat} {name markup : String} {before : List Move} {f : Fleet}
    (reached : Fleet.run { threshold } before = some f)
    (asked : f.calls[number]? = some { request := .print name markup }) (outcome : Except Fault Unit)
    : ∃ g,
        f.step (.call number outcome) = some g
        ∧ Aside f (.call number outcome)
        ∧ let events := Fleet.log { threshold } (before ++ [.call number outcome])
          let refused error := Always (Refused number name markup error) g events
          let executes entry job := Always (Executes number name markup entry job) g events
          (∀ error,
            Markup.Document.parse markup = .error error
            → error = .malformed ∧ refused (.markup .malformed))
          ∧ ∀ document,
              Markup.Document.parse markup = .ok document
              → (f.registry.entries.get? name = none → refused (.unknownPrinter name))
                ∧ ∀ entry,
                    f.registry.entries.get? name = some entry
                    → (document.root? = none → refused (.markup .empty))
                      ∧ ∀ root,
                          document.root? = some root
                          → (root.name ≠ Markup.rootName
                              → refused (.markup (.notPrinting root.name)))
                            ∧ (root.name = Markup.rootName
                              → ∃ job,
                                  Markup.compile markup (Job.start entry.member.width) = .ok job
                                  ∧ executes entry job) := by
  have step : f.step (.call number outcome) = some (f.begin number (.print name markup)) := by
    rw [Fleet.step, stepCall, asked]
    rfl
  have refused {error : CallError}
      (same : f.begin number (.print name markup) = f.refuse number error)
      : Always (Refused number name markup error) (f.begin number (.print name markup))
          (Fleet.log { threshold } (before ++ [.call number outcome])) := by
    rw [same] at step ⊢
    exact refused_of_begun reached asked step
  refine ⟨_, step, ?_, fun error bad => ?_, fun document good =>
    ⟨fun unknown => ?_, fun entry known => ⟨fun empty => ?_, fun root found =>
      ⟨fun other => ?_, fun printing => ?_⟩⟩⟩⟩
  · intro g same
    obtain ⟨progress, begun⟩ := begin_print f number name markup
    rw [step, begun] at same
    cases same
    exact ⟨rfl, rfl⟩
  · cases parse_error bad
    exact ⟨rfl, refused (by rw [begin, bad])⟩
  · exact refused (by simp only [begin, good, beginPrint, unknown])
  · exact refused (by simp only [begin, good, beginPrint, known, Markup.Document.compile, empty])
  · exact refused (by
      simp only [begin, good, beginPrint, known, Markup.Document.compile, found, if_neg other])
  · let job := ((Markup.Compiler.onto (Job.start entry.member.width)).nodes none root.children).job
    have compiled : document.compile (Job.start entry.member.width) = .ok job := by
      simp only [Markup.Document.compile, found, if_pos printing, job]
    have bound
        : f.begin number (.print name markup)
          = f.setProgress number (.bound entry.id (.execute job)) := by
      simp only [begin, good, beginPrint, known, compiled]
    refine ⟨job, ?_, ?_⟩
    · rw [Markup.compile, good]
      exact compiled
    · rw [bound] at step ⊢
      exact executes_of_begun reached asked known step

/-- Witness: a printer is removed while a call to print waits for it, and the execution of the job fails. -/
theorem run_print_of_removed
    : let bar : Member := ⟨"epson", "bar", 42, .empty⟩
      let lost : Fault := .timeout "no answer"
      let markup := "<printing>ok</printing>"
      let job : Job := ⟨42, [.init, .text "ok\n"]⟩
      let before : List Move := [.add bar, .ask (.print "bar" markup), .ask (.remove "bar")]
      let after : List Move :=
        [.call 0 (.ok ()), .call 1 (.ok ()), .call 0 (.ok ()), .call 0 (.error lost)]
      let moves := before ++ .call 0 (.ok ()) :: after
      ∃ h,
        Fleet.run { threshold := 3 } moves = some h
        ∧ h.registry.entries.get? "bar" = none
        ∧ h.calls[0]? = some ⟨.print "bar" markup, .returned (.error (.device "bar" lost))⟩
        ∧ Executes 0 "bar" markup ⟨0, bar⟩ job h (Fleet.log { threshold := 3 } moves) := by
  intro bar lost markup job before after moves
  have asked
      : (Fleet.run { threshold := 3 } before).bind (·.calls[0]?)
        = some ⟨.print "bar" markup, .asked⟩ :=
    rfl
  have known
      : (Fleet.run { threshold := 3 } before).bind (·.registry.entries.get? "bar")
        = some ⟨0, bar⟩ := by
    decide
  have parsed
      : Markup.Document.parse markup = .ok ⟨[.element "printing" .empty [.text "ok"]]⟩ := by
    decide +kernel
  have compiled : Markup.compile markup (Job.start 42) = .ok job := by
    decide +kernel
  have forgotten
      : (Fleet.run { threshold := 3 } moves).map (·.registry.entries.get? "bar") = some none := by
    decide +kernel
  have ended
      : ((Fleet.run { threshold := 3 } moves).bind (·.calls[0]?)).bind (·.result?)
        = some (.error (.device "bar" lost)) := by
    decide +kernel
  obtain ⟨f, reached, asked⟩ := Option.bind_eq_some_iff.mp asked
  obtain ⟨h, total, gone⟩ := Option.map_eq_some_iff.mp forgotten
  rw [total, Option.bind_some] at ended
  rw [reached, Option.bind_some] at known
  obtain ⟨g, step, _, _, good⟩ := run_print reached asked (.ok ())
  obtain ⟨job', compiled', always⟩ := (((good _ parsed).2 ⟨0, bar⟩ known).2 _ rfl).2 rfl
  have same : job' = job := Except.ok.inj (compiled'.symm.trans compiled)
  have here : Fleet.run { threshold := 3 } (before ++ [.call 0 (.ok ())]) = some g := by
    rw [run_append, reached, Option.bind_some, run_singleton step]
  have later : g.run after = some h := by
    rw [run_append, reached, Option.bind_some, run, step, Option.bind_some] at total
    exact total
  have executes := always after h later
  rw [← log_append here, List.append_assoc, List.singleton_append, same] at executes
  obtain ⟨progress, called, -⟩ := executes.stage
  rw [called, Option.bind_some] at ended
  cases progress with
  | returned result =>
      cases ended
      exact ⟨h, total, gone, called, executes⟩
  | asked | taken | bound | waiting | working | joining => cases ended

end ReceiptFleet.Fleet
