import ReceiptFleet.Proofs.Fleet.Engagement

/-!
Queues at devices. In the queue of a registration stand exactly those who wait for its device or are using
it, each of them once. So the first one can always take a step.
-/

namespace ReceiptFleet.Fleet

variable {f g : Fleet} {move : Move} {id number : Nat} {w : Watch}

-----------------------------------------------------------------------------------------
-- Who stands in a queue
-----------------------------------------------------------------------------------------

/-- A poller waits for its device or is using it. -/
def Activity.isLined : Activity → Bool
  | .waiting | .opening | .fetching | .closing => true
  | .due | .pausing | .stopped => false

/-- The registration whose device a call waits for or is using. -/
def Progress.lined? : Progress → Option Nat
  | .waiting id _ | .working id _ => some id
  | .asked | .taken _ | .bound _ _ | .joining _ _ | .returned _ => none

theorem Progress.wants?_of_lined? {progress : Progress} (lined : progress.lined? = some id)
    : progress.wants? = some id := by
  cases progress <;> first | exact lined | cases lined

/-- An agent waits for the device of a registration or is using it. -/
def InLine (f : Fleet) (id : Nat) : Agent → Prop
  | .poller => (f.watch? id).map (·.activity.isLined) = some true
  | .call number => f.calls[number]?.bind (·.progress.lined?) = some id

/-- How a queue follows those who want to stand in it: nobody comes or goes, one comes in at its end, or the
first one leaves. -/
inductive Shifts (before after : Agent → Prop) : List Agent → List Agent → Prop
  | stays {queue} (same : ∀ agent, after agent ↔ before agent) : Shifts before after queue queue
  | joins {queue} (agent : Agent) (absent : ¬ before agent) (present : after agent)
    (same : ∀ other, other ≠ agent → (after other ↔ before other))
    : Shifts before after queue (queue ++ [agent])
  | leaves {queue agent} (first : queue.head? = some agent) (absent : ¬ after agent)
    (same : ∀ other, other ≠ agent → (after other ↔ before other))
    : Shifts before after queue queue.tail

/-- A queue that follows them holds them, each of them once. -/
theorem Shifts.lined {before after : Agent → Prop} {queue queue' : List Agent}
    (shifts : Shifts before after queue queue')
    (lined : queue.Nodup ∧ ∀ agent, agent ∈ queue ↔ before agent)
    : queue'.Nodup ∧ ∀ agent, agent ∈ queue' ↔ after agent := by
  obtain ⟨nodup, members⟩ := lined
  cases shifts with
  | stays same => exact ⟨nodup, fun agent => (members agent).trans (same agent).symm⟩
  | joins agent absent present same =>
      have apart : ∀ other ∈ queue, other ≠ agent := by
        rintro other member rfl
        exact absent ((members other).mp member)
      refine ⟨List.nodup_append.mpr ⟨nodup, by simp, by simpa using apart⟩, fun other => ?_⟩
      rw [List.mem_append, List.mem_singleton]
      by_cases own : other = agent
      · simp only [own, or_true, present]
      · simp only [own, or_false, members, same other own]
  | leaves first absent same =>
      rename_i agent
      obtain ⟨rest, rfl⟩ := List.head?_eq_some_iff.mp first
      obtain ⟨gone, nodup⟩ := List.nodup_cons.mp nodup
      refine ⟨nodup, fun other => ?_⟩
      by_cases own : other = agent
      · simp only [own, absent, iff_false]
        exact gone
      · rw [same other own, ← members, List.mem_cons, or_iff_right own, List.tail_cons]

-----------------------------------------------------------------------------------------
-- What a step does to a queue
-----------------------------------------------------------------------------------------

theorem isLined_of_operation? {activity : Activity} {operation : Simulation.Operation}
    (busy : activity.operation? = some operation)
    : activity.isLined = true := by
  cases activity <;> first | rfl | cases busy

theorem inLine_poller_iff (found : f.watch? id = some w)
    : f.InLine id .poller ↔ w.activity.isLined = true := by
  rw [InLine, found, Option.map_some, Option.some.injEq]

theorem inLine_call_iff {c : Call} (called : f.calls[number]? = some c)
    : f.InLine id (.call number) ↔ c.progress.lined? = some id := by
  rw [InLine, called, Option.bind_some]

/-- A poller that takes a turn comes into the queue of its device or leaves it. -/
theorem shifts_of_turn {w' : Watch} {stop : Bool} (held : Held f) (found : f.watch? id = some w)
    (after : g.watch? id = some w') (calls : g.calls = f.calls) (turn : Turn stop w w')
    : Shifts (f.InLine id) (g.InLine id) w.queue w'.queue := by
  have same (other : Agent) (apart : other ≠ .poller) : g.InLine id other ↔ f.InLine id other := by
    cases other with
    | poller => exact absurd rfl apart
    | call number => rw [InLine, InLine, calls]
  have stays (own : w'.activity.isLined = w.activity.isLined)
      : Shifts (f.InLine id) (g.InLine id) w.queue w.queue := by
    refine .stays fun agent => ?_
    by_cases poller : agent = .poller
    · rw [poller, inLine_poller_iff after, inLine_poller_iff found, own]
    · exact same agent poller
  have leaves (first : w.queue.head? = some .poller) (own : w'.activity.isLined = false)
      : Shifts (f.InLine id) (g.InLine id) w.queue w.queue.tail := by
    refine .leaves first ?_ same
    rw [inLine_poller_iff after, own]
    exact Bool.false_ne_true
  cases turn with
  | queues due =>
      refine .joins .poller ?_ ((inLine_poller_iff after).mpr rfl) same
      rw [inLine_poller_iff found, due]
      exact Bool.false_ne_true
  | givesUp _ holds _ => exact leaves (of_decide_eq_true holds) rfl
  | begins waiting _ _ next => exact stays (by rw [isLined_of_operation? next, waiting]; rfl)
  | goesOn busy next =>
      exact stays (by rw [isLined_of_operation? next, isLined_of_operation? busy])
  | ends busy => exact leaves (held.poller_first found busy) rfl
  | rested pausing =>
      refine stays ?_
      rw [pausing]
      split <;> rfl

section

variable {f' : Fleet} {w' : Watch} {c : Call}

theorem inLine_own_iff (called : f.calls[number]? = some c) (calls : f'.calls = f.calls)
    (progress : Progress)
    : (f'.setProgress number progress).InLine id (.call number) ↔ progress.lined? = some id :=
  inLine_call_iff (calls_setProgress_self (calls ▸ called) progress)

/-- The progress of a call is nothing to others, while what the poller does stays the same. -/
theorem inLine_other_iff (found : f.watch? id = some w) (after : f'.watch? id = some w')
    (calls : f'.calls = f.calls) (activity : w'.activity = w.activity) (progress : Progress)
    {other : Agent} (apart : other ≠ .call number)
    : (f'.setProgress number progress).InLine id other ↔ f.InLine id other := by
  cases other with
  | poller =>
      rw [inLine_poller_iff found, ← activity, ← inLine_poller_iff after]
      rfl
  | call another =>
      have apart : number ≠ another := fun same => apart (congrArg Agent.call same.symm)
      simp [InLine, calls_setProgress, calls, apart]

/-- A call that comes into no queue and leaves none moves no queue. -/
theorem shifts_of_same (found : f.watch? id = some w) (called : f.calls[number]? = some c)
    (after : f'.watch? id = some w') (calls : f'.calls = f.calls)
    (activity : w'.activity = w.activity) (queue : w'.queue = w.queue) {progress : Progress}
    (same : progress.lined? = some id ↔ c.progress.lined? = some id)
    : ∃ w',
        (f'.setProgress number progress).watch? id = some w'
        ∧ Shifts (f.InLine id) ((f'.setProgress number progress).InLine id) w.queue w'.queue := by
  refine ⟨w', after, queue ▸ .stays fun agent => ?_⟩
  by_cases own : agent = .call number
  · rw [own, inLine_own_iff called calls, inLine_call_iff called, same]
  · exact inLine_other_iff found after calls activity progress own

/-- A call that is done with its device leaves the queue there, and was in no other one. -/
theorem shifts_of_release {here : Nat} {work : Work} {v : Watch} {progress : Progress}
    (held : Held f) (found : f.watch? id = some w) (called : f.calls[number]? = some c)
    (working : c.progress = .working here work) (known : f.watch? here = some v)
    (idle : progress.lined? = none)
    : ∃ w',
        ((f.setWatch here v.release).setProgress number progress).watch? id = some w'
        ∧ Shifts (f.InLine id)
            (((f.setWatch here v.release).setProgress number progress).InLine id)
            w.queue w'.queue := by
  rcases watch?_setWatch_cases found known v.release with ⟨rfl, rfl, after⟩ | ⟨apart, after⟩
  · have first : w.queue.head? = some (.call number) := by
      have holder := held.call_first called working
      rw [holder?, found, Option.bind_some] at holder
      exact holder
    refine ⟨_, after, .leaves first (fun inLine => ?_) fun _ =>
      inLine_other_iff found after rfl rfl progress⟩
    have still := (inLine_own_iff called rfl progress).mp inLine
    rw [idle] at still
    cases still
  · refine shifts_of_same found called after rfl rfl rfl ?_
    rw [idle, working]
    simp [Progress.lined?, Ne.symm apart]

/-- A call that goes on comes into the queue of its device or leaves it. -/
theorem shifts_of_called {outcome : Except Fault Unit} (held : Held f)
    (found : f.watch? id = some w) (called : f.calls[number]? = some c)
    (going : Called f number c outcome g)
    : ∃ w', g.watch? id = some w' ∧ Shifts (f.InLine id) (g.InLine id) w.queue w'.queue := by
  cases going with
  | refused asked | taken asked _ _ | bound asked _ | returns asked _ _ =>
      exact shifts_of_same found called found rfl rfl rfl (by rw [asked]; exact Iff.rfl)
  | begins waiting _ _ =>
      exact shifts_of_same found called found rfl rfl rfl (by rw [waiting]; exact Iff.rfl)
  | @cancels here v taken known =>
      rcases watch?_setWatch_cases found known { v with cancelled := true } with
        ⟨rfl, rfl, after⟩ | ⟨_, after⟩ <;>
        exact shifts_of_same found called after rfl rfl rfl (by rw [taken]; exact Iff.rfl)
  | @queues here work v bound known =>
      rcases watch?_setWatch_cases found known (v.join (.call number)) with
        ⟨rfl, rfl, after⟩ | ⟨apart, after⟩
      · have absent : ¬ f.InLine id (.call number) := by
          rw [inLine_call_iff called, bound]
          exact (Option.some_ne_none id).symm
        have present := (inLine_own_iff called rfl (.waiting id work)).mpr rfl
        exact ⟨_, after, .joins (.call number) absent present fun _ =>
          inLine_other_iff found after rfl rfl _⟩
      · refine shifts_of_same found called after rfl rfl rfl ?_
        rw [bound]
        simp [Progress.lined?, Ne.symm apart]
  | closed working known => exact shifts_of_release held found called working known rfl
  | executed working known => exact shifts_of_release held found called working known rfl

end

/-- Every step moves every queue so. -/
theorem step_shifts (held : Held f) (found : f.watch? id = some w) (step : f.step move = some g)
    : ∃ w', g.watch? id = some w' ∧ Shifts (f.InLine id) (g.InLine id) w.queue w'.queue := by
  cases step_cases step with
  | kept | dropped => exact ⟨w, found, .stays fun _ => Iff.rfl⟩
  | added =>
      refine ⟨w, getElem?_concat_of_some found _, .stays fun agent => ?_⟩
      cases agent with
      | poller =>
          rw [inLine_poller_iff found]
          exact inLine_poller_iff (getElem?_concat_of_some found _)
      | call => exact Iff.rfl
  | asked =>
      refine ⟨w, found, .stays fun agent => ?_⟩
      cases agent with
      | poller => exact Iff.rfl
      | call number => rw [InLine, InLine, bind_getElem?_concat rfl]
  | @polled here signal v v' r known turn _ =>
      rcases watch?_setWatch_cases (f := { f with registry := r }) found known v' with
        ⟨rfl, rfl, after⟩ | ⟨_, after⟩
      · exact ⟨v', after, shifts_of_turn held found after rfl turn⟩
      · refine ⟨w, after, .stays fun agent => ?_⟩
        cases agent with
        | poller => rw [inLine_poller_iff after, inLine_poller_iff found]
        | call => exact Iff.rfl
  | called called going => exact shifts_of_called held found called going

-----------------------------------------------------------------------------------------
-- What a run preserves
-----------------------------------------------------------------------------------------

/-- Every queue holds exactly those who want to stand in it, each of them once, and a poller has stopped
only because it is to. -/
structure Lined (f : Fleet) : Prop where
  queue
    : ∀ id w,
        f.watch? id = some w → w.queue.Nodup ∧ ∀ agent, agent ∈ w.queue ↔ f.InLine id agent
  stopped : ∀ id w, f.watch? id = some w → w.activity = .stopped → f.isCancelled w = true

theorem lined_start (threshold : Nat) : Lined { threshold } := ⟨nofun, nofun⟩

/-- A poller stops in a turn only if it is to. -/
theorem Turn.stops {stop : Bool} {w' : Watch} (turn : Turn stop w w')
    (stopped : w'.activity = .stopped)
    : stop = true := by
  cases turn with
  | queues | givesUp | ends => cases stopped
  | begins _ _ _ next | goesOn _ next =>
      cases stopped
      cases next
  | rested =>
      cases stop with
      | true => rfl
      | false => cases stopped

/-- Nobody stands in line at a new registration. -/
theorem not_inLine_of_new {w' : Watch} {member : Member} (orderly : Orderly f)
    (after : g.watch? f.watches.length = some w') (due : w'.activity = .due)
    (step : f.step (.add member) = some g) (agent : Agent)
    : ¬ g.InLine f.watches.length agent := by
  cases agent with
  | poller =>
      rw [inLine_poller_iff after, due]
      exact Bool.false_ne_true
  | call number =>
      intro inLine
      obtain ⟨c, called, lined⟩ := Option.bind_eq_some_iff.mp inLine
      rcases step_call_origin called step with old | asked | ⟨_, _, move, _⟩
      · obtain ⟨w, watched⟩ :=
          orderly.known c (List.mem_of_getElem? old) _ (Progress.wants?_of_lined? lined)
        exact Nat.lt_irrefl _ (List.getElem?_eq_some_iff.mp watched).1
      · rw [asked] at lined
        cases lined
      · cases move

/-- Every queue follows the step, and nobody stands in that of a new watch. -/
theorem Lined.next (lined : Lined f) (held : Held f) (orderly : Orderly f)
    (step : f.step move = some g)
    : Lined g := by
  refine ⟨fun id w' after => ?_, fun id w' after stopped => ?_⟩ <;>
    rcases step_watch_origin after step with ⟨w, found⟩ | ⟨member, rfl, _, rfl, _, due, empty⟩
  · obtain ⟨w₁, same, shifts⟩ := step_shifts held found step
    rw [after] at same
    cases same
    exact shifts.lined (lined.queue id w found)
  · rw [empty]
    refine ⟨.nil, fun agent => ⟨nofun, fun inLine => ?_⟩⟩
    exact absurd inLine (not_inLine_of_new orderly after due step agent)
  · obtain ⟨w₁, passes⟩ := step_passes found step
    have same := passes.found
    rw [after] at same
    cases same
    refine passes.isCancelled step ?_
    rcases passes.turn with same | ⟨_, turn⟩
    · exact lined.stopped id w found (same.symm.trans stopped)
    · exact turn.stops stopped
  · rw [due] at stopped
    cases stopped

end ReceiptFleet.Fleet
