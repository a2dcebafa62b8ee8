import ReceiptFleet.Proofs.Fleet.PollRuns

/-!
Closing the device after failed fetches. The count of failed fetches stays below the limit of a
poller and starts again at every multiple of it, so the device is closed at every such failed
fetch and never else, whatever the device answers.
-/

namespace ReceiptFleet.Fleet

variable {σ δ : Type}

namespace Poller

/-- An observed status is reported if it is news. -/
theorem Noted.statuses {sink : Sink σ} {p q : Poller} {log reports : List Report}
    {status : Status} (noted : Noted sink p log q (some status) reports)
    : reports.map (·.status)
      = log.map (·.status) ++ if status.differsFrom p.last then [status] else [] := by
  cases noted with
  | observed _ s₁ known =>
      rw [List.map_append, reported]
      split <;> rfl

/-- A poll that overruns observes that the device cannot be reached. -/
theorem observes_of_overruns {p : Poller} {a : Answers} (overrun : p.overruns a = true)
    : p.observes a = some p.unreachable := by
  have fails : a.fails = true := (Bool.and_eq_true_iff.mp overrun).1
  have reached : a.reaches = true := (Bool.and_eq_true_iff.mp fails).1
  cases answer : a.fetched with
  | ok status =>
      rw [(Answers.fetched_ok reached answer).2] at fails
      cases fails
  | error fault => simp [observes, Answers.observed, reached, answer, overrun]

variable {registration : Registration} {unreachable : Status} {limit : Nat}
  {polls : List Answers} {p : Poller}

theorem Counted.errors_lt (counted : Counted registration unreachable limit polls p)
    (positive : 0 < limit)
    : p.errors < limit := by
  rw [counted.errors]
  exact Nat.mod_lt _ positive

/-- Polls of a device that answers anything at all, by a poller with any threshold. Its count of
failed fetches is what is left of those in a row when the limit is taken away as often as
possible, so counting one more never overflows; it closes the device once in every poll whose
failed fetch completes a multiple of the limit, and reports in that poll that the device cannot
be reached; and after every poll the device is being polled, if the poll reached the fetch and
did not close it, or closed. -/
theorem poll_closes_every_limit (sink : Sink σ) (device : Device δ) (registration : Registration)
    (unreachable : Status) (threshold : UInt32) (s : σ) (ds : List δ) (d : δ)
    : let limit := max threshold.toNat 1
      let started := start registration unreachable threshold.toNat
      let before := started.pollEach sink device s ds
      let poll := before.1.poll sink.recorded device.recorded (before.2, []) (d, [])
      let p := poll.1
      let reports := poll.2.1.2
      let uses := poll.2.2.2
      let row := failuresInRow ((ds ++ [d]).map device.answers)
      let forced := (device.answers d).fails = true ∧ limit ∣ row
      started.pollEach sink device s (ds ++ [d]) = (p, poll.2.1.1)
      ∧ p.errors < limit
      ∧ p.errors + 1 < UInt32.size
      ∧ p.errors = row % limit
      ∧ uses.count .close = (if forced then 1 else 0)
      ∧ (forced →
          p.stage = .closed
          ∧ reports.map (·.status)
            = if unreachable.differsFrom before.1.last then [unreachable] else [])
      ∧ (p.stage = .closed ∨ p.stage = .polling)
      ∧ (p.stage = .polling ↔ (device.answers d).reaches = true ∧ ¬ forced) := by
  intro limit started before
  have positive : 0 < limit := Nat.lt_of_lt_of_le Nat.one_pos (Nat.le_max_right _ 1)
  have small : limit < UInt32.size := by
    have bound : threshold.toNat < UInt32.size := threshold.toNat_lt
    simp only [limit, UInt32.size] at bound ⊢
    omega
  have counted := pollEach_counted sink device registration unreachable threshold.toNat s ds
  obtain ⟨q, after, uses, reports, way, ⟨last, run⟩, ⟨last', _, both⟩, noted⟩ :=
    poll_recorded sink device before.1 before.2 d []
  simp only [both]
  have next : Counted registration unreachable limit ((ds ++ [d]).map device.answers) q := by
    rw [List.map_append]
    exact counted.next positive way
  have below : q.errors < limit := next.errors_lt positive
  have overrun := counted.overruns_iff positive (device.answers d)
  rw [← List.map_singleton, ← List.map_append] at overrun
  have whole : started.pollEach sink device s (ds ++ [d]) = (q, after) := by
    rw [pollEach_concat, run]
  refine ⟨whole, below, by omega, next.errors, ?_, ?_, ?_, ?_⟩
  · rw [way.closes]
    exact if_congr overrun rfl rfl
  · intro forced
    have closes : before.1.overruns (device.answers d) = true := overrun.mpr forced
    rw [observes_of_overruns closes, counted.unreachable] at noted
    refine ⟨?_, noted.statuses⟩
    rw [way.stage, closes]
    simp
  · rw [way.stage]
    split <;> simp
  · rw [way.stage, ← overrun]
    cases (device.answers d).reaches <;> cases before.1.overruns (device.answers d) <;> simp

/-- Witness: of three failed fetches the third closes the device. -/
theorem poll_closes_third
    : let lost : Answers := ⟨true, .ok (), .error (.timeout "no answer")⟩
      let sink : Sink Unit := ⟨fun _ _ s => (true, s), fun _ s => s⟩
      let before := (start ⟨"bar", 0⟩ .empty 3).pollEach sink Answers.device () [lost, lost]
      let poll := before.1.poll sink.recorded Answers.device.recorded (before.2, []) (lost, [])
      poll.2.2.2.count .close = 1 ∧ poll.1.stage = .closed
      ∧ poll.2.1.2.map (·.status) = [.empty] := by
  intro lost sink before poll
  have forced
      : lost.fails = true
        ∧ 3 ∣ failuresInRow ([lost, lost, lost].map Answers.device.answers) := by
    decide
  obtain ⟨_, _, _, _, closes, reports, _⟩ :=
    poll_closes_every_limit sink Answers.device ⟨"bar", 0⟩ .empty 3 () [lost, lost] lost
  exact ⟨closes.trans (if_pos forced), (reports forced).1, (reports forced).2.trans rfl⟩

end Poller

end ReceiptFleet.Fleet
