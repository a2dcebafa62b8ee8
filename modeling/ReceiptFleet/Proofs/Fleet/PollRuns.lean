import Mathlib.Data.List.Induction
import ReceiptFleet.Proofs.Fleet.Polls

/-!
Runs of polls. A device may change by itself between two polls, so a run is given by the states in
which its polls find the device. The failed fetches in a row are counted by the answers alone.
-/

namespace ReceiptFleet.Fleet

variable {σ δ : Type}

/-- A device that is found with its answers for the next poll. -/
def Answers.device : Device Answers where
  isOpen a := a.isOpen
  openUp a := (a.opened, a)
  fetch a := (a.fetched, a)
  close a := (.ok (), a)

/-- How many fetches have failed since the last one that succeeded; polls without a fetch count
for nothing. -/
def failuresInRow (polls : List Answers) : Nat :=
  (polls.reverse.takeWhile (!·.succeeds)).countP (·.fails)

/-- One more poll ends the row of failed fetches, adds to it, or leaves it. -/
theorem failuresInRow_concat (polls : List Answers) (a : Answers)
    : failuresInRow (polls ++ [a])
      = if a.succeeds then 0
        else if a.fails then failuresInRow polls + 1 else failuresInRow polls := by
  cases succeeds : a.succeeds <;> cases fails : a.fails <;>
    simp [failuresInRow, succeeds, fails]

theorem Answers.not_succeeds_of_fails {a : Answers} (fails : a.fails = true)
    : a.succeeds = false := by
  simp only [Answers.fails, Answers.succeeds, Bool.and_eq_true, Bool.not_eq_true'] at fails ⊢
  simp [fails]

namespace Poller

/-- Polls one after the other, each of which finds the device in a state of its own. -/
def pollEach (sink : Sink σ) (device : Device δ) (p : Poller) (s : σ) (ds : List δ)
    : Poller × σ :=
  ds.foldl (fun (p, s) d => ((p.poll sink device s d).1, (p.poll sink device s d).2.1)) (p, s)

theorem pollEach_concat (sink : Sink σ) (device : Device δ) (p : Poller) (s : σ) (ds : List δ)
    (d : δ)
    : p.pollEach sink device s (ds ++ [d])
      = (((p.pollEach sink device s ds).1.poll sink device (p.pollEach sink device s ds).2 d).1,
        ((p.pollEach sink device s ds).1.poll sink device (p.pollEach sink device s ds).2 d).2.1)
      := by
  rw [pollEach, List.foldl_append]
  rfl

/-- Polls that find the device as the one before left it are such a run, by induction over their
number. -/
theorem polls_eq_pollEach (sink : Sink σ) (device : Device δ) (p : Poller) (s : σ) (d : δ)
    (n : Nat)
    : ∃ ds : List δ,
        ds.length = n
        ∧ ((p.polls sink device false s d n).1, (p.polls sink device false s d n).2.1)
          = p.pollEach sink device s ds := by
  induction n generalizing p s d with
  | zero => exact ⟨[], rfl, rfl⟩
  | succ n ih =>
      rcases one : p.poll sink device s d with ⟨q, after, last⟩
      obtain ⟨ds, length, rest⟩ := ih q after last
      refine ⟨d :: ds, by simp [length], ?_⟩
      simp only [polls, pollEach, List.foldl_cons, one] at rest ⊢
      exact rest

/-- A poll with records of its reports and of its uses of the device goes as it does without
them, in one of the ways for a poll to go, and the status that it observes decides on its
reports. -/
theorem poll_recorded (sink : Sink σ) (device : Device δ) (p : Poller) (s : σ) (d : δ)
    (log : List Report)
    : ∃ q after uses reports,
        Polled sink p s (device.answers d) q after uses
        ∧ (∃ last, p.poll sink device s d = (q, after, last))
        ∧ (∃ last,
            p.poll sink.recorded device (s, log) d = (q, (after, reports), last)
            ∧ p.poll sink.recorded device.recorded (s, log) (d, [])
              = (q, (after, reports), last, uses))
        ∧ Noted sink p log q (p.observes (device.answers d)) reports := by
  obtain ⟨q, after, last, uses, run, way, _⟩ := poll_polled sink device p s d
  obtain ⟨q', ⟨after', reports⟩, last', uses', run', way', noted⟩ :=
    poll_polled sink.recorded device p (s, log) d
  obtain ⟨plain, observed⟩ := way'.recorded
  obtain ⟨rfl, rfl, rfl⟩ := way.deterministic plain
  exact ⟨q, after, uses, reports, way, ⟨last, run⟩, ⟨last', run', by simpa using noted []⟩,
    observed⟩

-----------------------------------------------------------------------------------------
-- The failed fetches in a row along a run
-----------------------------------------------------------------------------------------

/-- A poller that was started with these parameters and has counted the failed fetches of some
polls, from none again at every multiple of its limit. -/
structure Counted (registration : Registration) (unreachable : Status) (limit : Nat)
    (polls : List Answers) (p : Poller)
    : Prop where
  errors : p.errors = failuresInRow polls % limit
  registration : p.registration = registration
  unreachable : p.unreachable = unreachable
  limit : p.limit = limit

/-- The next number after a remainder is the limit exactly before a multiple, and otherwise the
next remainder. -/
theorem succ_mod {limit : Nat} (positive : 0 < limit) (k : Nat)
    : (limit ≤ k % limit + 1 ↔ limit ∣ k + 1)
      ∧ (k + 1) % limit = if limit ∣ k + 1 then 0 else k % limit + 1 := by
  have below : k % limit < limit := Nat.mod_lt k positive
  have next : (k + 1) % limit = (k % limit + 1) % limit := (Nat.mod_add_mod k limit 1).symm
  by_cases full : k % limit + 1 = limit
  · have multiple : limit ∣ k + 1 := Nat.dvd_of_mod_eq_zero (by rw [next, full, Nat.mod_self])
    exact ⟨⟨fun _ => multiple, fun _ => Nat.le_of_eq full.symm⟩,
      by rw [if_pos multiple, Nat.mod_eq_zero_of_dvd multiple]⟩
  · have less : (k + 1) % limit = k % limit + 1 := by
      rw [next, Nat.mod_eq_of_lt (by omega)]
    have apart : ¬ limit ∣ k + 1 := by
      intro multiple
      rw [Nat.mod_eq_zero_of_dvd multiple] at less
      omega
    exact ⟨⟨fun _ => by omega, fun multiple => absurd multiple apart⟩,
      by rw [if_neg apart, less]⟩

variable {registration : Registration} {unreachable : Status} {limit : Nat}
  {polls : List Answers} {p : Poller}

/-- A poll overruns when its failed fetch makes the row a multiple of the limit. -/
theorem Counted.overruns_iff (counted : Counted registration unreachable limit polls p)
    (positive : 0 < limit) (a : Answers)
    : p.overruns a = true ↔ a.fails = true ∧ limit ∣ failuresInRow (polls ++ [a]) := by
  rw [overruns, Bool.and_eq_true, decide_eq_true_eq, counted.limit, counted.errors,
    (succ_mod positive _).1]
  constructor
  · rintro ⟨fails, multiple⟩
    rw [failuresInRow_concat, Answers.not_succeeds_of_fails fails, fails]
    exact ⟨rfl, multiple⟩
  · rintro ⟨fails, multiple⟩
    rw [failuresInRow_concat, Answers.not_succeeds_of_fails fails, fails] at multiple
    exact ⟨fails, multiple⟩

/-- Every poll goes on counting. -/
theorem Counted.next {sink : Sink σ} {s after : σ} {a : Answers} {q : Poller} {uses : List Use}
    (counted : Counted registration unreachable limit polls p) (positive : 0 < limit)
    (way : Polled sink p s a q after uses)
    : Counted registration unreachable limit (polls ++ [a]) q := by
  obtain ⟨sameRegistration, sameUnreachable, sameLimit⟩ := way.frame
  refine {
    registration := sameRegistration.trans counted.registration
    unreachable := sameUnreachable.trans counted.unreachable
    limit := sameLimit.trans counted.limit
    errors := ?_
  }
  have overrun := counted.overruns_iff positive a
  rw [failuresInRow_concat] at overrun ⊢
  rw [way.errors, counted.errors]
  cases fails : a.fails with
  | false =>
      have under : p.overruns a = false := by simp [overruns, fails]
      cases a.succeeds <;> simp [under]
  | true =>
      have lost := Answers.not_succeeds_of_fails fails
      simp only [lost, fails, true_and, Bool.false_eq_true, if_false, if_true] at overrun ⊢
      rw [(succ_mod positive _).2]
      simp [overrun]

/-- A run of polls from the start counts the failed fetches of its polls, by induction over the
run. -/
theorem pollEach_counted (sink : Sink σ) (device : Device δ) (registration : Registration)
    (unreachable : Status) (threshold : Nat) (s : σ) (ds : List δ)
    : Counted registration unreachable (max threshold 1) (ds.map device.answers)
        ((start registration unreachable threshold).pollEach sink device s ds).1 := by
  induction ds using List.reverseRecOn with
  | nil => exact ⟨by simp [failuresInRow, pollEach, start], rfl, rfl, rfl⟩
  | append_singleton ds d ih =>
      obtain ⟨q, after, last, uses, run, way, _⟩ :=
        poll_polled sink device
          ((start registration unreachable threshold).pollEach sink device s ds).1
          ((start registration unreachable threshold).pollEach sink device s ds).2 d
      rw [pollEach_concat, run, List.map_append]
      exact ih.next (by omega) way

end Poller

end ReceiptFleet.Fleet
