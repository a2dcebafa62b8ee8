import Mathlib.Algebra.Group.Action.Defs
import Mathlib.Algebra.GroupWithZero.Nat
import Mathlib.Algebra.Order.BigOperators.Group.List
import Mathlib.Algebra.Order.Group.Nat
import ReceiptFleet.Proofs.Fleet.Removals
import ReceiptFleet.Proofs.Fleet.Turns

/-!
How removals come to an end. Every move of a call, and every move of a poller that is to stop, leaves less to
be done; and as long as a removal has not returned, such a move is possible, whatever comes of the uses of
the devices. So removals neither block each other nor go on for ever.
-/

namespace ReceiptFleet.Fleet

variable {f g : Fleet} {move : Move} {events : List Event} {id number : Nat} {w w' : Watch}

-----------------------------------------------------------------------------------------
-- Moves that nobody asks for
-----------------------------------------------------------------------------------------

/-- Moves of the pollers and calls that are there; no printer is added, nothing is asked, and the fleet is
not dropped. -/
def Move.IsInternal : Move → Prop
  | .poller _ _ | .call _ _ => True
  | .add _ | .ask _ | .drop => False

/-- Moves of pollers, and of calls whose uses of devices have given outcomes. -/
def Move.Heeds (outcomes : Nat → Except Fault Unit) : Move → Prop
  | .poller _ _ => True
  | .call number outcome => outcome = outcomes number
  | .add _ | .ask _ | .drop => False

theorem Move.Heeds.isInternal {outcomes : Nat → Except Fault Unit} (heeds : move.Heeds outcomes)
    : move.IsInternal := by
  cases move with
  | poller | call => trivial
  | add | ask | drop => exact heeds

/-- An internal move leaves the watches and the calls there are. -/
theorem Move.IsInternal.lengths (internal : move.IsInternal) (step : f.step move = some g)
    : g.watches.length = f.watches.length ∧ g.calls.length = f.calls.length := by
  cases step_cases step with
  | kept | added | asked | dropped => cases internal
  | polled => exact ⟨List.length_set, rfl⟩
  | called _ going =>
      cases going <;> simp [refuse, setProgress, setWatch]

-----------------------------------------------------------------------------------------
-- What is left to be done
-----------------------------------------------------------------------------------------

/-- How many turns a poller that is to stop can still take. -/
def Activity.rank : Activity → Nat
  | .due => 6
  | .waiting => 5
  | .opening => 4
  | .fetching => 3
  | .closing => 2
  | .pausing => 1
  | .stopped => 0

/-- How many stages a call can still go through. -/
def Progress.rank : Progress → Nat
  | .asked => 6
  | .taken _ => 5
  | .bound _ _ => 4
  | .waiting _ _ => 3
  | .working _ _ => 2
  | .joining _ _ => 1
  | .returned _ => 0

/-- What is left to be done by pollers that are to stop and by calls. -/
def remaining (f : Fleet) : Nat :=
  (f.watches.map (·.activity.rank)).sum + (f.calls.map (·.progress.rank)).sum

/-- With a smaller item in the place of another one, a sum is smaller: by induction over the items. -/
theorem sum_map_set_lt {α : Type} (size : α → Nat) (new : α) {items : List α} {i : Nat} {old : α}
    (found : items[i]? = some old) (less : size new < size old)
    : ((items.set i new).map size).sum < (items.map size).sum := by
  induction items generalizing i with
  | nil => cases found
  | cons item rest ih =>
      cases i with
      | zero =>
          cases found
          simpa using less
      | succ i => simpa using ih found

theorem remaining_le (f : Fleet) : f.remaining ≤ 6 * (f.watches.length + f.calls.length) := by
  have watches := List.sum_le_card_nsmul (f.watches.map (·.activity.rank)) 6
  have calls := List.sum_le_card_nsmul (f.calls.map (·.progress.rank)) 6
  simp only [List.forall_mem_map, List.length_map, smul_eq_mul] at watches calls
  have high (w : Watch) : w.activity.rank ≤ 6 := by cases w.activity <;> simp [Activity.rank]
  have far (c : Call) : c.progress.rank ≤ 6 := by cases c.progress <;> simp [Progress.rank]
  have first := watches fun w _ => high w
  have second := calls fun c _ => far c
  rw [remaining]
  omega

theorem setProgress_eq {c : Call} (called : f.calls[number]? = some c) (progress : Progress)
    : f.setProgress number progress
      = { f with calls := f.calls.set number { c with progress } } := by
  obtain ⟨bound, rfl⟩ := List.getElem?_eq_some_iff.mp called
  rw [setProgress, List.modify_eq_set_get _ bound]
  rfl

/-- Every move of a call leaves less to be done. -/
theorem remaining_of_call {outcome : Except Fault Unit} (step : f.step (.call number outcome) = some g)
    : g.remaining < f.remaining := by
  obtain ⟨c, called, going⟩ := stepCall_called step
  have further {f' : Fleet} {progress : Progress} (calls : f'.calls = f.calls)
      (watches : f'.watches.map (·.activity.rank) = f.watches.map (·.activity.rank))
      (less : progress.rank < c.progress.rank)
      : (f'.setProgress number progress).remaining < f.remaining := by
    have lower := sum_map_set_lt (·.progress.rank) { c with progress } called less
    rw [setProgress_eq (calls ▸ called), remaining, remaining, watches]
    simp only [calls]
    omega
  have same {here : Nat} {v v' : Watch} (known : f.watch? here = some v)
      (activity : v'.activity = v.activity)
      : (f.setWatch here v').watches.map (·.activity.rank)
        = f.watches.map (·.activity.rank) := by
    rw [setWatch, List.map_set, activity]
    refine set_of_found ?_
    rw [watch?] at known
    rw [List.getElem?_map, known]
    rfl
  cases going with
  | refused progress | taken progress | bound progress =>
      exact further rfl rfl (by simp [Progress.rank, progress])
  | begins progress | returns progress =>
      exact further rfl rfl (by simp [Progress.rank, progress])
  | cancels progress known | queues progress known | closed progress known =>
      exact further rfl (same known rfl) (by simp [Progress.rank, progress])
  | executed progress known =>
      exact further rfl (same known rfl) (by simp [Progress.rank, progress])

/-- After an attempt to open the device a poller fetches or ends its poll. -/
theorem rank_pursue_afterOpen {σ : Type} (sink : Sink σ) (p : Poller) (result : Except Fault Unit)
    (s : σ) (w : Watch)
    : (w.pursue (p.afterOpen sink result s).2.1).activity.rank < Activity.opening.rank := by
  cases result <;> simp [Poller.afterOpen, Watch.pursue, Activity.rank]

/-- After an attempt to fetch the status it closes the device or ends its poll. -/
theorem rank_pursue_afterFetch {σ : Type} (sink : Sink σ) (p : Poller)
    (result : Except Fault Status) (s : σ) (w : Watch)
    : (w.pursue (p.afterFetch sink result s).2.1).activity.rank < Activity.fetching.rank := by
  cases result with
  | ok status => simp [Poller.afterFetch, Watch.pursue, Activity.rank]
  | error fault =>
      rw [Poller.afterFetch]
      split <;> simp [Watch.pursue, Activity.rank]

/-- Every move of a poller that is to stop leaves less to be done. -/
theorem remaining_of_poller {signal : Signal} (found : f.watch? id = some w)
    (stops : f.isCancelled w = true) (step : f.step (.poller id signal) = some g)
    : g.remaining < f.remaining := by
  have further {w' : Watch} {r : Registry} (less : w'.activity.rank < w.activity.rank)
      : ({ f with registry := r }.setWatch id w').remaining < f.remaining :=
    Nat.add_lt_add_right (sum_map_set_lt (·.activity.rank) w' found less) _
  simp only [Fleet.step, stepPoller, found, stops, Option.bind_eq_bind, Option.bind_some] at step
  cases activity : w.activity <;> cases signal <;>
    simp only [activity, Option.pure_def, reduceCtorEq] at step
  case due.proceed =>
    cases step
    exact further (r := f.registry) (by simp [activity, Activity.rank])
  case waiting.proceed =>
    split at step <;> cases step
    exact further (r := f.registry) (by simp [activity, Watch.pursue, Activity.rank])
  case opening.opened result =>
    cases step
    exact further (by rw [activity]; exact rank_pursue_afterOpen _ _ _ _ _)
  case fetching.fetched result =>
    cases step
    exact further (by rw [activity]; exact rank_pursue_afterFetch _ _ _ _ _)
  case closing.closed =>
    cases step
    exact further (r := f.registry) (by simp [activity, Watch.pursue, Activity.rank])
  case pausing.proceed =>
    cases step
    exact further (r := f.registry) (by simp [activity, Activity.rank])

-----------------------------------------------------------------------------------------
-- Moves that are possible
-----------------------------------------------------------------------------------------

/-- There is a move, with given outcomes of the uses of devices by calls, that leaves less to be done. -/
def GoesOn (f : Fleet) (outcomes : Nat → Except Fault Unit) : Prop :=
  ∃ move g, move.Heeds outcomes ∧ f.step move = some g ∧ g.remaining < f.remaining

variable {outcomes : Nat → Except Fault Unit}

theorem goesOn_of_call (number : Nat)
    (possible : (f.step (.call number (outcomes number))).isSome = true)
    : f.GoesOn outcomes := by
  obtain ⟨g, step⟩ := Option.isSome_iff_exists.mp possible
  exact ⟨.call number (outcomes number), g, rfl, step, remaining_of_call step⟩

/-- A poller that is to stop goes on, unless it has stopped or waits while somebody else holds the
device. -/
theorem goesOn_of_stopping (found : f.watch? id = some w) (stops : f.isCancelled w = true)
    (active : w.activity ≠ .stopped)
    (holds : w.activity = .waiting → w.queue.head? = some .poller)
    : f.GoesOn outcomes := by
  have able (signal : Signal) (possible : (f.step (.poller id signal)).isSome = true)
      : f.GoesOn outcomes := by
    obtain ⟨g, step⟩ := Option.isSome_iff_exists.mp possible
    exact ⟨.poller id signal, g, trivial, step, remaining_of_poller found stops step⟩
  cases activity : w.activity with
  | due => exact able (.proceed true) (by simp [Fleet.step, stepPoller, found, activity])
  | waiting =>
      exact able (.proceed true) (by
        simp [Fleet.step, stepPoller, found, activity, Watch.holds, holds activity, stops])
  | opening => exact able (.opened (.ok ())) (by simp [Fleet.step, stepPoller, found, activity])
  | fetching =>
      exact able (.fetched (.ok .empty)) (by simp [Fleet.step, stepPoller, found, activity])
  | closing => exact able (.closed (.ok ())) (by simp [Fleet.step, stepPoller, found, activity])
  | pausing => exact able (.proceed true) (by simp [Fleet.step, stepPoller, found, activity])
  | stopped => exact absurd activity active

/-- Whoever holds a device whose poller is to stop goes on. -/
theorem Sound.goesOn_of_first {agent : Agent} (sound : Sound f) (found : f.watch? id = some w)
    (stops : f.isCancelled w = true) (first : w.queue.head? = some agent)
    : f.GoesOn outcomes := by
  have inLine := ((sound.lined.queue id w found).2 agent).mp (List.mem_of_head? first)
  cases agent with
  | poller =>
      rw [inLine_poller_iff found] at inLine
      refine goesOn_of_stopping found stops (fun stopped => ?_) fun _ => first
      rw [stopped] at inLine
      cases inLine
  | call number =>
      obtain ⟨c, called, lined⟩ := Option.bind_eq_some_iff.mp inLine
      cases progress : c.progress with
      | waiting here work =>
          rw [progress] at lined
          cases lined
          exact goesOn_of_call number (by
            simp [Fleet.step, stepCall, called, progress, found, Watch.holds, first])
      | working here work =>
          rw [progress] at lined
          cases lined
          exact goesOn_of_call number (by simp [Fleet.step, stepCall, called, progress, found])
      | asked | taken | bound | joining | returned =>
          rw [progress] at lined
          cases lined

/-- Where somebody stands in line at a device whose poller is to stop, somebody goes on. -/
theorem Sound.goesOn_of_inLine {agent : Agent} (sound : Sound f) (found : f.watch? id = some w)
    (stops : f.isCancelled w = true) (inLine : f.InLine id agent)
    : f.GoesOn outcomes := by
  have member := ((sound.lined.queue id w found).2 agent).mpr inLine
  cases queue : w.queue with
  | nil =>
      rw [queue] at member
      cases member
  | cons first others => exact sound.goesOn_of_first found stops (by rw [queue]; rfl)

/-- While a removal has not returned, it goes on, or another agent at its device does. -/
theorem Removing.goesOn {name : String} {progress : Progress}
    (removing : Removing id number name f events progress) (sound : Sound f)
    (called : f.calls[number]? = some ⟨.remove name, progress⟩)
    (going : Call.result? ⟨.remove name, progress⟩ = none)
    : f.GoesOn outcomes := by
  have known (wants : progress.wants? = some id) : ∃ w, f.watch? id = some w :=
    sound.orderly.known _ (List.mem_of_getElem? called) id wants
  cases removing with
  | taken =>
      obtain ⟨w, found⟩ := known rfl
      exact goesOn_of_call number (by simp [Fleet.step, stepCall, called, found])
  | bound _ =>
      obtain ⟨w, found⟩ := known rfl
      exact goesOn_of_call number (by simp [Fleet.step, stepCall, called, found])
  | waiting stopping =>
      obtain ⟨w, found, stops⟩ := stopping
      exact sound.goesOn_of_inLine found stops ((inLine_call_iff called).mpr rfl)
  | working stopping _ =>
      obtain ⟨w, found, stops⟩ := stopping
      exact sound.goesOn_of_inLine found stops ((inLine_call_iff called).mpr rfl)
  | @joining outcome retired _ =>
      obtain ⟨w, found, stops, _⟩ := retired
      by_cases stopped : w.activity = .stopped
      · exact goesOn_of_call number (by simp [Fleet.step, stepCall, called, found, stopped])
      · by_cases waiting : w.activity = .waiting
        · exact sound.goesOn_of_inLine found stops
            ((inLine_poller_iff found).mpr (by rw [waiting]; rfl))
        · exact goesOn_of_stopping found stops stopped fun same => absurd same waiting
  | returned => cases going

-----------------------------------------------------------------------------------------
-- When all pollers are to stop
-----------------------------------------------------------------------------------------

/-- All pollers are to stop. -/
def Ending (f : Fleet) : Prop := ∀ id w, f.watch? id = some w → f.isCancelled w = true

theorem Ending.next (ending : f.Ending) (internal : move.IsInternal) (step : f.step move = some g)
    : g.Ending ∧ g.remaining < f.remaining := by
  constructor
  · intro id w' found'
    rcases step_watch_origin found' step with ⟨w, found⟩ | ⟨_, added, _⟩
    · obtain ⟨w₁, passes⟩ := step_passes found step
      cases passes.found.symm.trans found'
      exact passes.isCancelled step (ending id w found)
    · rw [added] at internal
      cases internal
  · cases step_cases step with
    | kept | added | asked | dropped => cases internal
    | polled found => exact remaining_of_poller found (ending _ _ found) step
    | called => exact remaining_of_call step

/-- Then there is an end to all internal moves, since each leaves less to be done. -/
theorem Ending.length_le {moves : List Move} (ending : f.Ending)
    (internal : ∀ move ∈ moves, move.IsInternal) (reached : f.run moves = some g)
    : moves.length ≤ f.remaining := by
  induction moves generalizing f with
  | nil => exact Nat.zero_le _
  | cons move others ih =>
      obtain ⟨next, step, rest⟩ := Option.bind_eq_some_iff.mp reached
      obtain ⟨first, later⟩ := List.forall_mem_cons.mp internal
      obtain ⟨ending, less⟩ := ending.next first step
      have := ih ending later rest
      rw [List.length_cons]
      omega

-----------------------------------------------------------------------------------------
-- Where registrations are
-----------------------------------------------------------------------------------------

/-- The registration that a removal has taken the entry of, until the removal returns. -/
def Progress.removes? : Progress → Option Nat
  | .taken id | .bound id .close | .waiting id .close | .working id .close | .joining id _ => some id
  | .asked | .bound _ (.execute _) | .waiting _ (.execute _) | .working _ (.execute _)
  | .returned _ => none

/-- Every registration so far is in the registry, or in the hands of a removal, or its poller has
stopped. -/
def Accounted (f : Fleet) : Prop :=
  ∀ id w,
    f.watch? id = some w
    → (∃ name entry, f.registry.entries.get? name = some entry ∧ entry.id = id)
      ∨ (∃ c ∈ f.calls, c.progress.removes? = some id)
      ∨ w.activity = .stopped

theorem accounted_start (threshold : Nat) : Accounted { threshold } := nofun

/-- A removal that goes on keeps the registration in its hands until the poller has stopped. -/
theorem Called.removes? {c : Call} {outcome : Except Fault Unit}
    (going : Called f number c outcome g) (called : f.calls[number]? = some c)
    (removes : c.progress.removes? = some id)
    : (∃ c' ∈ g.calls, c'.progress.removes? = some id)
      ∨ ∃ w, f.watch? id = some w ∧ w.activity = .stopped := by
  have still {f' : Fleet} {progress : Progress} (calls : f'.calls = f.calls)
      (removes : progress.removes? = some id)
      : ∃ c' ∈ (f'.setProgress number progress).calls, c'.progress.removes? = some id :=
    ⟨_, List.mem_of_getElem? (calls_setProgress_self (calls ▸ called) progress), removes⟩
  cases going with
  | refused progress | taken progress | bound progress | executed progress =>
      rw [progress] at removes
      cases removes
  | cancels progress =>
      rw [progress] at removes
      exact .inl (still rfl removes)
  | @queues _ work _ progress | @begins _ work _ progress =>
      rw [progress] at removes
      cases work <;> cases removes
      exact .inl (still rfl rfl)
  | closed progress =>
      rw [progress] at removes
      exact .inl (still rfl removes)
  | returns progress found stopped =>
      rw [progress] at removes
      cases removes
      exact .inr ⟨_, found, stopped⟩

/-- A poller that has stopped takes no turn any more. -/
theorem Passes.stopped (passes : Passes f g move id w w') (stopped : w.activity = .stopped)
    : w'.activity = .stopped := by
  rcases passes.turn with same | ⟨_, turn⟩
  · rw [same, stopped]
  · cases turn with
    | queues before | givesUp before | begins before | rested before =>
        rw [stopped] at before
        cases before
    | goesOn busy | ends busy =>
        rw [stopped] at busy
        cases busy

/-- An entry is in the registry after a step, or a removal has taken it. -/
theorem step_entry {name : String} {entry : Entry}
    (known : f.registry.entries.get? name = some entry) (step : f.step move = some g)
    : g.registry.entries.get? name = some entry
      ∨ ∃ c ∈ g.calls, c.progress.removes? = some entry.id := by
  cases step_cases step with
  | kept | asked | dropped => exact .inl known
  | @added member _ new =>
      refine .inl ?_
      rw [Registry.register, Keyed.get?_insert, if_neg, known]
      rintro rfl
      rw [new] at known
      cases known
  | polled _ _ told => exact .inl (told.entries ▸ known)
  | called called going =>
      cases going with
      | @taken other another _ _ found =>
          by_cases same : name = other
          · subst same
            cases known.symm.trans found
            exact .inr ⟨_, List.mem_of_getElem? (calls_setProgress_self called _), rfl⟩
          · refine .inl ?_
            simp only [setProgress, Registry.forget, Keyed.get?_erase, if_neg same, known]
      | refused | bound | cancels | queues | begins | closed | executed | returns =>
          exact .inl known

/-- Every step keeps account of all registrations. -/
theorem Accounted.next (accounted : Accounted f) (step : f.step move = some g) : Accounted g := by
  intro id w' found'
  rcases step_watch_origin found' step with ⟨w, found⟩ | ⟨member, rfl, new, last, _⟩
  · obtain ⟨w₁, passes⟩ := step_passes found step
    cases passes.found.symm.trans found'
    rcases accounted id w found with ⟨name, entry, known, rfl⟩ | ⟨c, old, removes⟩ | stopped
    · rcases step_entry known step with still | taken
      · exact .inl ⟨name, entry, still, rfl⟩
      · exact .inr (.inl taken)
    · obtain ⟨number, called⟩ := List.getElem?_of_mem old
      by_cases own : ∃ outcome, move = .call number outcome
      · obtain ⟨outcome, rfl⟩ := own
        obtain ⟨c₁, same, going⟩ := stepCall_called step
        cases called.symm.trans same
        rcases going.removes? called removes with still | ⟨w₂, same, stopped⟩
        · exact .inr (.inl still)
        · cases found.symm.trans same
          exact .inr (.inr (passes.stopped stopped))
      · have after := step_call_of_other called (fun outcome same => own ⟨outcome, same⟩) step
        exact .inr (.inl ⟨c, List.mem_of_getElem? after, removes⟩)
    · exact .inr (.inr (passes.stopped stopped))
  · cases step_cases step with
    | kept _ known =>
        rw [new] at known
        cases known
    | added =>
        refine .inl ⟨member.name, ⟨f.watches.length, member⟩, ?_, last.symm⟩
        rw [Registry.register, Keyed.get?_insert, if_pos rfl]

/-- When nothing is registered and all calls have returned, no internal move is possible. -/
theorem Accounted.step_eq_none (accounted : Accounted f)
    (empty : ∀ name, f.registry.entries.get? name = none)
    (returned : ∀ c ∈ f.calls, c.result?.isSome = true) (internal : move.IsInternal)
    : f.step move = none := by
  cases move with
  | add | ask | drop => cases internal
  | poller id signal =>
      rw [Fleet.step, stepPoller]
      cases found : f.watch? id with
      | none => rfl
      | some w =>
          rcases accounted id w found with ⟨name, entry, known, _⟩ | ⟨c, member, removes⟩ | stopped
          · rw [empty name] at known
            cases known
          · have done := returned c member
            cases progress : c.progress <;> simp [progress, Call.result?] at done
            rw [progress] at removes
            cases removes
          · simp [stopped]
  | call number outcome =>
      refine Option.eq_none_iff_forall_ne_some.mpr fun g step => ?_
      obtain ⟨c, called, going⟩ := stepCall_called step
      have done := returned c (List.mem_of_getElem? called)
      rw [going.result?_eq_none] at done
      cases done

end ReceiptFleet.Fleet
