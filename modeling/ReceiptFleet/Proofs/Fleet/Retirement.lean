import ReceiptFleet.Proofs.Fleet.Accesses

/-!
Pollers that are to stop. Only a removal tells a single poller to stop, it is never taken back, and a
poller that is to stop and is in the middle of no operation never begins another.
-/

namespace ReceiptFleet.Fleet

variable {f g : Fleet} {move : Move} {id : Nat} {w w' : Watch}

-----------------------------------------------------------------------------------------
-- What a step does to a watch and to a call
-----------------------------------------------------------------------------------------

/-- What a step makes of the watch over a registration. Its printer stays; its poller takes a turn or
does what it did; and it is told to stop by a removal that has taken the entry, if at all. -/
structure Passes (f g : Fleet) (move : Move) (id : Nat) (w w' : Watch) : Prop where
  found : g.watch? id = some w'
  member : w'.member = w.member
  turn
    : w'.activity = w.activity
      ∨ (∃ signal, move = .poller id signal) ∧ Turn (f.isCancelled w) w w'
  cancelled
    : w'.cancelled = w.cancelled
      ∨ w'.cancelled = true
        ∧ ∃ number outcome c,
            move = .call number outcome
            ∧ f.calls[number]? = some c
            ∧ c.progress = .taken id

theorem Turn.member {stop : Bool} (turn : Turn stop w w') : w'.member = w.member := by
  cases turn <;> rfl

theorem Turn.cancelled {stop : Bool} (turn : Turn stop w w') : w'.cancelled = w.cancelled := by
  cases turn <;> rfl

/-- A watch that no step is about stays as it is. -/
theorem Passes.same (found : g.watch? id = some w) : Passes f g move id w w :=
  ⟨found, rfl, .inl rfl, .inl rfl⟩

theorem passes_of_called {number : Nat} {c : Call} {outcome : Except Fault Unit}
    (found : f.watch? id = some w) (called : f.calls[number]? = some c)
    (step : Called f number c outcome g)
    : ∃ w', Passes f g (.call number outcome) id w w' := by
  -- A call that joins a queue or gives a device back does nothing to what the poller does.
  have queue {here : Nat} {v v' : Watch} {progress : Progress} (known : f.watch? here = some v)
      (member : v'.member = v.member) (activity : v'.activity = v.activity)
      (cancelled
        : v'.cancelled = v.cancelled ∨ v'.cancelled = true ∧ c.progress = .taken here)
      : ∃ w',
          Passes f ((f.setWatch here v').setProgress number progress) (.call number outcome) id w
            w' := by
    rcases watch?_setWatch_cases found known v' with ⟨rfl, rfl, after⟩ | ⟨_, after⟩
    · refine ⟨v', after, member, .inl activity, ?_⟩
      exact cancelled.imp_right fun ⟨yes, taken⟩ =>
        ⟨yes, number, outcome, c, rfl, called, taken⟩
    · exact ⟨w, .same after⟩
  cases step with
  | refused | taken | bound | begins | returns => exact ⟨w, .same found⟩
  | cancels taken known => exact queue known rfl rfl (.inr ⟨rfl, taken⟩)
  | queues _ known => exact queue known rfl rfl (.inl rfl)
  | closed _ known => exact queue known rfl rfl (.inl rfl)
  | executed _ known => exact queue known rfl rfl (.inl rfl)

/-- Every step passes on every watch. -/
theorem step_passes (found : f.watch? id = some w) (step : f.step move = some g)
    : ∃ w', Passes f g move id w w' := by
  cases step_cases step with
  | kept | asked | dropped => exact ⟨w, .same found⟩
  | added => exact ⟨w, .same (getElem?_concat_of_some found _)⟩
  | @polled here signal v v' r known turn _ =>
      rcases watch?_setWatch_cases (f := { f with registry := r }) found known v' with
        ⟨rfl, rfl, after⟩ | ⟨_, after⟩
      · exact ⟨v', after, turn.member, .inr ⟨⟨signal, rfl⟩, turn⟩, .inl turn.cancelled⟩
      · exact ⟨w, .same after⟩
  | called called going => exact passes_of_called found called going

theorem Called.other_calls {number another : Nat} {c : Call} {outcome : Except Fault Unit}
    (going : Called f another c outcome g) (apart : another ≠ number)
    : g.calls[number]? = f.calls[number]? := by
  cases going <;> exact (calls_setProgress _ _ _).trans (by simp [apart])

theorem getElem?_concat_eq_some {α : Type} {items : List α} {item found : α} {i : Nat}
    (known : (items ++ [item])[i]? = some found)
    : items[i]? = some found ∨ i = items.length ∧ found = item := by
  rw [List.getElem?_append] at known
  split at known
  · exact .inl known
  · rename_i beyond
    obtain ⟨place, rfl⟩ := List.getElem?_eq_some_iff.mp known
    rw [List.length_singleton] at place
    exact .inr ⟨by omega, List.getElem_singleton _⟩

/-- A call after a step was there before it, is new, or has gone one stage further. -/
theorem step_call_origin {number : Nat} {c' : Call} (called' : g.calls[number]? = some c')
    (step : f.step move = some g)
    : f.calls[number]? = some c'
      ∨ c'.progress = .asked
      ∨ ∃ outcome c,
          move = .call number outcome
          ∧ f.calls[number]? = some c
          ∧ Called f number c outcome g := by
  cases step_cases step with
  | kept | added | polled | dropped => exact .inl called'
  | asked =>
      rcases getElem?_concat_eq_some called' with old | ⟨_, rfl⟩
      · exact .inl old
      · exact .inr (.inl rfl)
  | @called another outcome c _ called going =>
      by_cases same : another = number
      · subst same
        exact .inr (.inr ⟨outcome, c, rfl, called, going⟩)
      · exact .inl ((going.other_calls same).symm.trans called')

/-- Only the steps of a call are anything to its progress. -/
theorem step_call_of_other {number : Nat} {c : Call} (called : f.calls[number]? = some c)
    (other : ∀ outcome, move ≠ .call number outcome) (step : f.step move = some g)
    : g.calls[number]? = some c := by
  cases step_cases step with
  | kept | added | polled | dropped => exact called
  | asked => exact getElem?_concat_of_some called _
  | @called another outcome _ _ _ going =>
      have apart : another ≠ number := fun same => other outcome (same ▸ rfl)
      exact (going.other_calls apart).trans called

-----------------------------------------------------------------------------------------
-- Pollers that are to stop
-----------------------------------------------------------------------------------------

/-- The poller of a registration is to stop. -/
def Stopping (f : Fleet) (id : Nat) : Prop := ∃ w, f.watch? id = some w ∧ f.isCancelled w = true

/-- The poller of a registration is to stop, and is in the middle of no operation. -/
def Retired (f : Fleet) (id : Nat) : Prop :=
  ∃ w, f.watch? id = some w ∧ f.isCancelled w = true ∧ w.activity.operation? = none

theorem Told.dropped {p q : Poller} {r r' : Registry} {reports : List Report}
    (told : Told p r q r' reports)
    : r'.dropped = r.dropped := by
  cases told with
  | silent | refused => rfl
  | announced =>
      rw [Registry.announce]
      split <;> rfl
  | published =>
      rw [Registry.publish]
      split <;> rfl

/-- A fleet that was dropped remains so. -/
theorem Stepped.dropped_of_dropped {reports : List Report} (stepped : Stepped f g reports)
    (dropped : f.registry.dropped = true)
    : g.registry.dropped = true := by
  cases stepped with
  | still registry _ | forgotten _ registry _ | added _ _ registry _ =>
      rw [registry]
      exact dropped
  | polled _ _ told _ => exact told.dropped.trans dropped
  | dropped registry _ => rw [registry]

/-- It is never taken back that a poller is to stop. -/
theorem Passes.isCancelled (passes : Passes f g move id w w') (step : f.step move = some g)
    (cancelled : f.isCancelled w = true)
    : g.isCancelled w' = true := by
  rw [Fleet.isCancelled, Bool.or_eq_true] at cancelled ⊢
  rcases cancelled with told | dropped
  · refine .inl ?_
    rcases passes.cancelled with same | ⟨yes, _⟩
    · rw [same, told]
    · exact yes
  · exact .inr ((step_stepped step).dropped_of_dropped dropped)

theorem Stopping.next (stopping : f.Stopping id) (step : f.step move = some g) : g.Stopping id := by
  obtain ⟨w, found, cancelled⟩ := stopping
  obtain ⟨w', passes⟩ := step_passes found step
  exact ⟨w', passes.found, passes.isCancelled step cancelled⟩

/-- A poller that is to stop begins nothing. -/
theorem Turn.idle (turn : Turn true w w') (idle : w.activity.operation? = none)
    : w'.activity.operation? = none := by
  cases turn with
  | queues | givesUp | ends => rfl
  | begins _ _ goes _ => cases goes
  | goesOn busy _ =>
      rw [idle] at busy
      cases busy
  | rested _ => rfl

/-- A poller that has retired remains so. -/
theorem Retired.next (retired : f.Retired id) (step : f.step move = some g) : g.Retired id := by
  obtain ⟨w, found, cancelled, idle⟩ := retired
  obtain ⟨w', passes⟩ := step_passes found step
  refine ⟨w', passes.found, passes.isCancelled step cancelled, ?_⟩
  rcases passes.turn with same | ⟨_, turn⟩
  · rw [same, idle]
  · rw [cancelled] at turn
    exact turn.idle idle

/-- A poller that has retired is at no device. -/
theorem Retired.agent_ne_poller (retired : f.Retired id) {access : Access}
    (inFlight : f.InFlight access) (here : access.registration = id)
    : access.agent ≠ .poller := by
  obtain ⟨w, found, _, idle⟩ := retired
  intro same
  rw [InFlight, same, here, polling?, found, Option.bind_some, idle] at inFlight
  cases inFlight

/-- A poller that is to stop has retired while somebody else holds its device. -/
theorem Stopping.retired {number : Nat} (stopping : f.Stopping id) (held : Held f)
    (holder : f.holder? id = some (.call number))
    : f.Retired id := by
  obtain ⟨w, found, cancelled⟩ := stopping
  refine ⟨w, found, cancelled, ?_⟩
  cases busy : w.activity.operation? with
  | none => rfl
  | some operation =>
      rw [holder?, found, Option.bind_some, held.poller_first found busy] at holder
      cases holder

end ReceiptFleet.Fleet
