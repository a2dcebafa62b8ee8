import ReceiptFleet.Proofs.Fleet.Interference

/-!
When a device is used by one agent at a time. Each registration has a queue of its own, so a device that is
registered again while somebody will still use it for an earlier registration can be used twice at once;
and only then.
-/

namespace ReceiptFleet.Fleet

variable {f g : Fleet} {id : Nat} {device : String}

-----------------------------------------------------------------------------------------
-- Runs in which devices are registered in time
-----------------------------------------------------------------------------------------

theorem sole_start (threshold : Nat) (device : String) : Sole { threshold } device := by
  intro first second one _
  cases one.1

/-- A device that is registered again only when nobody will use it any more keeps to one engaged registration,
by induction over the moves. -/
theorem run_sole {moves : List Move} (sound : Sound f) (sole : f.Sole device)
    (timely : Timely device f moves) (reached : f.run moves = some g)
    : g.Sole device := by
  induction moves generalizing f with
  | nil =>
      cases reached
      exact sole
  | cons move others ih =>
      obtain ⟨next, step, rest⟩ := Option.bind_eq_some_iff.mp reached
      obtain ⟨admits, later⟩ := timely
      exact ih (sound.next step) (sole.next sound.orderly admits step) (later next step) rest

-----------------------------------------------------------------------------------------
-- A device that is registered again too early
-----------------------------------------------------------------------------------------

theorem run_device {moves : List Move} (known : f.device? id = some device)
    (reached : f.run moves = some g)
    : g.device? id = some device :=
  run_invariant step_device known reached

/-- Two registrations that are engaged at one device can come to use it at the same time. -/
theorem Sound.not_exclusive {first second : Nat} (sound : Sound f) (one : f.Engaged device first)
    (two : f.Engaged device second) (apart : second ≠ first)
    : ∃ more g, f.run more = some g ∧ ¬ g.Exclusive device := by
  obtain ⟨w, found, _⟩ := Option.map_eq_some_iff.mp one.1
  obtain ⟨v, found', _⟩ := Option.map_eq_some_iff.mp two.1
  obtain ⟨more, g, reached, _, ⟨access, inFlight, rfl⟩, ⟨access', inFlight', rfl⟩⟩ :=
    sound.canBothBeUsed found found' one.2 two.2 apart
  refine ⟨more, g, reached, fun exclusive => ?_⟩
  have same := exclusive access access' inFlight inFlight' (run_device one.1 reached)
    (run_device two.1 reached)
  exact apart (congrArg Access.registration same.symm)

/-- A new registration is engaged, and an addition is nothing to those that are. -/
theorem engaged_of_added {member : Member} (new : f.registry.entries.get? member.name = none)
    (step : f.step (.add member) = some g)
    : g.Engaged member.device f.watches.length
      ∧ ∀ device id, f.Engaged device id → g.Engaged device id := by
  cases step_cases step with
  | kept _ known =>
      rw [new] at known
      cases known
  | added inUse _ =>
      refine ⟨⟨?_, fun finished => ?_⟩, fun device id engaged => ?_⟩
      · rw [device?, watch?, List.getElem?_concat_length]
        rfl
      · obtain ⟨w, found, cancelled, _⟩ := finished.1
        cases List.getElem?_concat_length.symm.trans found
        rw [isCancelled, Bool.false_or, Registry.register, inUse] at cancelled
        cases cancelled
      · obtain ⟨w, found, _⟩ := Option.map_eq_some_iff.mp engaged.1
        refine ⟨step_device engaged.1 step, fun finished => engaged.2 ⟨?_, finished.2⟩⟩
        obtain ⟨w', found', cancelled, idle⟩ := finished.1
        cases (getElem?_concat_of_some found _).symm.trans found'
        exact ⟨w, found, cancelled, idle⟩

-----------------------------------------------------------------------------------------
-- Exclusive use
-----------------------------------------------------------------------------------------

/-- A fleet in any state that a run from the empty one reaches. Of the operations at the device of one
registration one at most is in flight. The same goes for a device, if it was registered again only when
nobody would use it any more for an earlier registration; and whenever it is registered again before, the
run can go on so that two operations are in flight at the device. -/
theorem run_exclusive {threshold : Nat} {moves : List Move} {f : Fleet}
    (reached : Fleet.run { threshold } moves = some f) (device : String)
    : (∀ first second,
        f.InFlight first
        → f.InFlight second
        → first.registration = second.registration
        → first = second)
      ∧ (Timely device { threshold } moves → f.Exclusive device)
      ∧ ∀ member g,
          ¬ f.Admits device (.add member)
          → f.step (.add member) = some g
          → ∃ more h, g.run more = some h ∧ ¬ h.Exclusive device := by
  have sound := run_sound (sound_start threshold) reached
  obtain ⟨_, logged⟩ := sound.logged
  refine ⟨fun first second => logged.eq_of_inFlight, fun timely => ?_, fun member g early step => ?_⟩
  · exact (run_sole (sound_start threshold) (sole_start threshold device) timely reached).exclusive
      logged
  · simp only [Admits, Classical.not_imp, Classical.not_forall, Classical.not_not] at early
    obtain ⟨rfl, new, id, bound, engaged⟩ := early
    obtain ⟨fresh, stays⟩ := engaged_of_added new step
    exact (sound.next step).not_exclusive (stays _ id engaged) fresh (Nat.ne_of_gt bound)

/-- Witness: a printer that is registered again when its removal has returned is closed once and opened
again after that. -/
theorem run_exclusive_after_removal
    : let bar : Member := ⟨"epson", "bar", 42, .empty⟩
      let again : List Move :=
        [.add bar, .ask (.remove "bar"), .call 0 (.ok ()), .call 0 (.ok ()), .call 0 (.ok ()),
          .call 0 (.ok ()), .call 0 (.ok ()), .poller 0 (.proceed false),
          .poller 0 (.proceed false), .poller 0 (.proceed false), .call 0 (.ok ()), .add bar,
          .poller 1 (.proceed false), .poller 1 (.proceed false)]
      ∃ f,
        Fleet.run { threshold := 3 } again = some f
        ∧ f.polling? 1 = some .openUp
        ∧ f.Exclusive "epson" := by
  intro bar again
  have opening : (Fleet.run { threshold := 3 } again).bind (·.polling? 1) = some .openUp := by
    decide
  obtain ⟨f, reached, opening⟩ := Option.bind_eq_some_iff.mp opening
  have timely : Timely "epson" { threshold := 3 } again := by decide
  exact ⟨f, reached, opening, (run_exclusive reached "epson").2.1 timely⟩

/-- A printer that is registered again while its removal is still closing its device: the new poller opens
the device meanwhile. -/
theorem opening_during_close
    : let bar : Member := ⟨"epson", "bar", 42, .empty⟩
      let early : List Move :=
        [.add bar, .ask (.remove "bar"), .call 0 (.ok ()), .call 0 (.ok ()), .call 0 (.ok ()),
          .call 0 (.ok ()), .add bar, .poller 1 (.proceed false), .poller 1 (.proceed false)]
      ∃ f, Fleet.run { threshold := 3 } early = some f ∧ ¬ f.Exclusive "epson" := by
  intro bar early
  have closing : (Fleet.run { threshold := 3 } early).bind (·.calling? 0) = some (0, .close) := by
    decide
  have opening : (Fleet.run { threshold := 3 } early).bind (·.polling? 1) = some .openUp := by
    decide
  have devices
      : (Fleet.run { threshold := 3 } early).map (fun f => (f.device? 0, f.device? 1))
        = some (some "epson", some "epson") := by
    decide
  obtain ⟨f, reached, closing⟩ := Option.bind_eq_some_iff.mp closing
  rw [reached, Option.bind_some] at opening
  rw [reached, Option.map_some, Option.some.injEq, Prod.mk.injEq] at devices
  refine ⟨f, reached, fun exclusive => ?_⟩
  have same := exclusive ⟨0, .call 0, .close⟩ ⟨1, .poller, .openUp⟩ closing opening devices.1
    devices.2
  cases same

end ReceiptFleet.Fleet
