import ReceiptFleet.Proofs.Fleet.PollRuns
import ReceiptFleet.Proofs.Status.Equality

/-!
What a poller reports of a run of polls. Every poll observes a status or none; of the observed
statuses exactly those are reported that differ from the last accepted one. If all reports are
accepted, these are the changes of the observed status.
-/

namespace ReceiptFleet.Fleet

variable {σ δ : Type}

-----------------------------------------------------------------------------------------
-- What is observed, and what is to be reported of it
-----------------------------------------------------------------------------------------

/-- The statuses that polls observe after earlier ones. -/
def observationsAfter (unreachable : Status) (limit : Nat) (earlier : List Answers)
    : List Answers → List Status
  | [] => []
  | a :: later =>
    let closes := decide (limit ∣ failuresInRow (earlier ++ [a]))
    (a.observed unreachable closes).toList
      ++ observationsAfter unreachable limit (earlier ++ [a]) later

/-- The statuses that polls observe: fetched ones, and that the device cannot be reached after a
failed opening and after a failed fetch that completes a multiple of the limit. -/
def observations (unreachable : Status) (limit : Nat) (polls : List Answers) : List Status :=
  observationsAfter unreachable limit [] polls

/-- The reports of observed statuses: those that differ from the last accepted status, each of
which may be accepted or not. -/
inductive Reported (registration : Registration) : List Status → List Report → Prop
  | nothing : Reported registration [] []
  | old {observed log status} (earlier : Reported registration observed log)
    (same : status.differsFrom (lastAccepted log) = false)
    : Reported registration (observed ++ [status]) log
  | news {observed log status} (earlier : Reported registration observed log)
    (differs : status.differsFrom (lastAccepted log) = true) (accepted : Bool)
    : Reported registration (observed ++ [status]) (log ++ [⟨registration, status, accepted⟩])

/-- The statuses that differ from the one before them, the first of which comes after
`previous`. -/
def changesAfter (previous : Option Status) : List Status → List Status
  | [] => []
  | status :: later =>
    if status.differsFrom previous then status :: changesAfter (some status) later
    else changesAfter (some status) later

/-- A list of statuses with equal ones in a row collapsed into one. -/
def changes (statuses : List Status) : List Status := changesAfter none statuses

/-- One more poll adds what it observes, by induction over the polls before it. -/
theorem observationsAfter_concat (unreachable : Status) (limit : Nat)
    (earlier polls : List Answers) (a : Answers)
    : observationsAfter unreachable limit earlier (polls ++ [a])
      = observationsAfter unreachable limit earlier polls
        ++ (a.observed unreachable
            (decide (limit ∣ failuresInRow (earlier ++ polls ++ [a])))).toList := by
  induction polls generalizing earlier with
  | nil => simp [observationsAfter]
  | cons first later ih => simp [observationsAfter, ih]

theorem observations_concat (unreachable : Status) (limit : Nat) (polls : List Answers)
    (a : Answers)
    : observations unreachable limit (polls ++ [a])
      = observations unreachable limit polls
        ++ (a.observed unreachable (decide (limit ∣ failuresInRow (polls ++ [a])))).toList :=
  observationsAfter_concat unreachable limit [] polls a

/-- One more status is a change if it differs from the one before it, by induction over the
statuses. -/
theorem changesAfter_concat (previous : Option Status) (statuses : List Status) (status : Status)
    : changesAfter previous (statuses ++ [status])
      = changesAfter previous statuses
        ++ if status.differsFrom (statuses.getLast?.or previous) then [status] else [] := by
  induction statuses generalizing previous with
  | nil => rfl
  | cons first later ih =>
      have next : later.getLast?.or (some first) = (first :: later).getLast?.or previous := by
        rw [List.getLast?_cons]
        cases later.getLast? <;> rfl
      rw [List.cons_append, changesAfter, changesAfter, ih, next]
      split <;> rfl

-----------------------------------------------------------------------------------------
-- Accepted reports
-----------------------------------------------------------------------------------------

/-- If all reports are accepted, the last accepted status is as good as the last observed one:
what is news after the one is news after the other. The reports are the changes. The induction
is over the observed statuses. -/
theorem Reported.accepted {registration : Registration} {observed : List Status}
    {log : List Report} (reported : Reported registration observed log)
    (accepted : ∀ report ∈ log, report.accepted = true)
    : (∀ status : Status,
        status.differsFrom (lastAccepted log) = status.differsFrom observed.getLast?)
      ∧ log.map (·.status) = changes observed := by
  induction reported with
  | nothing => exact ⟨fun _ => rfl, rfl⟩
  | @old observed log status earlier same ih =>
      obtain ⟨asGood, reports⟩ := ih accepted
      constructor
      · intro other
        rw [List.getLast?_concat]
        cases last : lastAccepted log with
        | none =>
            rw [last] at same
            cases same
        | some previous =>
            rw [last] at same
            exact Status.differsFrom_congr same other
      · rw [asGood] at same
        rw [changes, changesAfter_concat, Option.or_none, same, reports, changes]
        simp
  | @news observed log status earlier differs answer ih =>
      obtain ⟨asGood, reports⟩ := ih fun report member =>
        accepted report (List.mem_append_left _ member)
      have yes : answer = true := accepted ⟨registration, status, answer⟩ (by simp)
      constructor
      · intro other
        rw [List.getLast?_concat, lastAccepted_concat, yes]
        rfl
      · rw [asGood] at differs
        rw [changes, changesAfter_concat, Option.or_none, differs, List.map_append, reports,
          changes]
        rfl

namespace Poller

-----------------------------------------------------------------------------------------
-- Reports along a run
-----------------------------------------------------------------------------------------

/-- A poll observes what its answers tell, after the polls that were counted. -/
theorem Counted.observes_eq {registration : Registration} {unreachable : Status} {limit : Nat}
    {polls : List Answers} {p : Poller}
    (counted : Counted registration unreachable limit polls p) (positive : 0 < limit)
    (a : Answers)
    : p.observes a
      = a.observed unreachable (decide (limit ∣ failuresInRow (polls ++ [a]))) := by
  have overrun := counted.overruns_iff positive a
  rw [observes, counted.unreachable, Answers.observed, Answers.observed]
  cases reached : a.reaches with
  | false => rfl
  | true =>
      cases answer : a.fetched with
      | ok status => rfl
      | error fault =>
          obtain ⟨_, failure⟩ := Answers.fetched_error reached answer
          rw [failure, eq_self, true_and] at overrun
          simp [overrun]

/-- What a poll notes is the report of what it observes, if there is something to report. -/
theorem Noted.reported {sink : Sink σ} {p q : Poller} {log reports : List Report}
    {status? : Option Status} {observed : List Status}
    {registration : Registration} (noted : Noted sink p log q status? reports)
    (same : p.registration = registration) (known : p.last = lastAccepted log)
    (earlier : Reported registration observed log)
    : Reported registration (observed ++ status?.toList) reports
      ∧ q.last = lastAccepted reports := by
  cases same
  cases noted with
  | nothing last =>
      rw [Option.toList_none, List.append_nil]
      exact ⟨earlier, last.trans known⟩
  | observed status s₁ knows =>
      refine ⟨?_, knows known⟩
      rw [Option.toList_some, Poller.reported]
      cases news : status.differsFrom p.last with
      | true => exact earlier.news (known ▸ news) _
      | false =>
          rw [if_neg Bool.false_ne_true, List.append_nil]
          exact earlier.old (known ▸ news)

/-- A recorded run goes as it does without the record, its reports are those of the statuses
that it observes, and the poller knows the last accepted one, by induction over the run. -/
theorem pollEach_reported (sink : Sink σ) (device : Device δ) (registration : Registration)
    (unreachable : Status) (threshold : Nat) (s : σ) (ds : List δ)
    : let started := start registration unreachable threshold
      let run := started.pollEach sink.recorded device (s, []) ds
      started.pollEach sink device s ds = (run.1, run.2.1)
      ∧ Reported registration
          (observations unreachable (max threshold 1) (ds.map device.answers)) run.2.2
      ∧ run.1.last = lastAccepted run.2.2 := by
  intro started run
  induction ds using List.reverseRecOn with
  | nil => exact ⟨rfl, .nothing, rfl⟩
  | append_singleton ds d ih =>
      have positive : 0 < max threshold 1 := Nat.lt_of_lt_of_le Nat.one_pos (Nat.le_max_right _ 1)
      have counted :=
        pollEach_counted sink.recorded device registration unreachable threshold (s, []) ds
      simp only [run, pollEach_concat, List.map_append, List.map_singleton,
        observations_concat] at ih ⊢
      obtain ⟨plain, earlier, known⟩ := ih
      rcases before : started.pollEach sink.recorded device (s, []) ds with ⟨p, s₁, log⟩
      rw [before] at plain earlier known counted
      obtain ⟨q, after, uses, reports, _, ⟨last, step⟩, ⟨last', recorded, _⟩, noted⟩ :=
        poll_recorded sink device p s₁ d log
      rw [counted.observes_eq positive] at noted
      rw [plain, step, recorded]
      exact ⟨rfl, noted.reported counted.registration known earlier⟩

/-- Polls of a device that answers anything at all, by a poller that reports to anyone. Of the
statuses that the polls observe, exactly those are reported that differ from the last accepted
status, which is the one that the poller holds; if all reports are accepted, these are the
observed statuses with equal ones in a row collapsed. -/
theorem pollEach_reports_changes (sink : Sink σ) (device : Device δ) (registration : Registration)
    (unreachable : Status) (threshold : Nat) (s : σ) (ds : List δ)
    : let started := start registration unreachable threshold
      let run := started.pollEach sink.recorded device (s, []) ds
      let reports := run.2.2
      let observed := observations unreachable (max threshold 1) (ds.map device.answers)
      started.pollEach sink device s ds = (run.1, run.2.1)
      ∧ Reported registration observed reports
      ∧ run.1.last = lastAccepted reports
      ∧ ((∀ report ∈ reports, report.accepted = true) →
          reports.map (·.status) = changes observed) := by
  intro started run reports observed
  obtain ⟨plain, reported, known⟩ :=
    pollEach_reported sink device registration unreachable threshold s ds
  exact ⟨plain, reported, known, fun accepted => (reported.accepted accepted).2⟩

/-- Witness: a device that stays closed for two polls and is then opened has one change to
report. -/
theorem reports_of_opening
    : let shut : Answers := ⟨false, .error (.timeout "no answer"), .ok .empty⟩
      let found : Answers := ⟨false, .ok (), .ok .empty⟩
      let sink : Sink Unit := ⟨fun _ _ s => (true, s), fun _ s => s⟩
      let started := start ⟨"bar", 0⟩ .empty 3
      let run := started.pollEach sink.recorded Answers.device ((), []) [shut, shut, found]
      run.2.2.map (·.status) = [.empty, Status.empty.setFlag Status.notOpenField false] := by
  intro shut found sink started run
  have accepted : ∀ report ∈ run.2.2, report.accepted = true := by decide
  obtain ⟨_, _, _, collapsed⟩ :=
    pollEach_reports_changes sink Answers.device ⟨"bar", 0⟩ .empty 3 () [shut, shut, found]
  exact (collapsed accepted).trans (by decide)

end Poller

end ReceiptFleet.Fleet
