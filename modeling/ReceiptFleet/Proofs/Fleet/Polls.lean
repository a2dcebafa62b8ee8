import ReceiptFleet.Proofs.Fleet.Reports

/-!
Polls of a device that may do anything. What a poll does depends on the device only through its
answers, and there are four ways for it to go: the device cannot be opened, its status is
fetched, a fetch fails, or a fetch fails once too often and the device is closed.
-/

namespace ReceiptFleet.Fleet

variable {σ δ : Type}

/-- What a device answers in one poll: whether it is open, and the results of opening and
fetching. -/
structure Answers where
  isOpen : Bool
  opened : Except Fault Unit
  fetched : Except Fault Status

/-- What a device can be used for in a poll. -/
inductive Use where
  | openUp
  | fetch
  | close
deriving DecidableEq, Repr

namespace Answers

/-- Whether the poll gets as far as the fetch. -/
def reaches (a : Answers) : Bool := a.isOpen || a.opened.isOk

/-- Whether the status is fetched. -/
def succeeds (a : Answers) : Bool := a.reaches && a.fetched.isOk

/-- Whether a fetch fails. -/
def fails (a : Answers) : Bool := a.reaches && !a.fetched.isOk

/-- The uses of the device before the fetch. -/
def opening (a : Answers) : List Use := if a.isOpen then [] else [.openUp]

/-- The status that the answers tell: the fetched one, for a device that is open, or that the
device cannot be reached; a failed fetch tells that only if the device is closed for it. -/
def observed (a : Answers) (unreachable : Status) (closes : Bool) : Option Status :=
  if a.reaches then
    match a.fetched with
    | .ok status => some (status.setFlag Status.notOpenField false)
    | .error _ => if closes then some unreachable else none
  else some unreachable

/-- A poll without a fetch has neither a fetch that succeeds nor one that fails. -/
theorem unreached {a : Answers} (closed : a.reaches = false)
    : a.succeeds = false ∧ a.fails = false := by
  simp [succeeds, fails, closed]

theorem fetched_ok {a : Answers} {status : Status} (reached : a.reaches = true)
    (answer : a.fetched = .ok status)
    : a.succeeds = true ∧ a.fails = false := by
  simp [succeeds, fails, reached, answer, Except.isOk, Except.toBool]

theorem fetched_error {a : Answers} {fault : Fault} (reached : a.reaches = true)
    (answer : a.fetched = .error fault)
    : a.succeeds = false ∧ a.fails = true := by
  simp [succeeds, fails, reached, answer, Except.isOk, Except.toBool]

end Answers

/-- What a device answers in the poll that finds it in some state. -/
def Device.answers (device : Device δ) (d : δ) : Answers where
  isOpen := device.isOpen d
  opened := (device.openUp d).1
  fetched := (device.fetch (if device.isOpen d then d else (device.openUp d).2)).1

/-- The device with a record of its uses, the latest last. -/
def Device.recorded (device : Device δ) : Device (δ × List Use) where
  isOpen d := device.isOpen d.1
  openUp d := ((device.openUp d.1).1, (device.openUp d.1).2, d.2 ++ [.openUp])
  fetch d := ((device.fetch d.1).1, (device.fetch d.1).2, d.2 ++ [.fetch])
  close d := ((device.close d.1).1, (device.close d.1).2, d.2 ++ [.close])

namespace Poller

/-- The poller when its poll reaches the fetch. -/
def atFetch (sink : Sink σ) (p : Poller) (a : Answers) (s : σ) : Poller × σ :=
  if a.isOpen then ({ p with stage := .polling }, s)
  else { p with stage := .polling }.announce sink s

/-- The ways for a poll to go, with the poller and the sink after it and the uses of the device.
Where the poll reaches the fetch, `p₁` and `s₁` are the poller and the sink there. -/
inductive Polled (sink : Sink σ) (p : Poller) (s : σ) (a : Answers)
    : Poller → σ → List Use → Prop
  | unopened {q after} (closed : a.reaches = false)
    (report : { p with stage := .closed }.emit sink p.unreachable s = (q, after))
    : Polled sink p s a q after [.openUp]
  | fetched {p₁ s₁ status q after} (reached : a.reaches = true)
    (start : p.atFetch sink a s = (p₁, s₁)) (answer : a.fetched = .ok status)
    (report
      : { p₁ with errors := 0 }.emit sink (status.setFlag Status.notOpenField false) s₁
        = (q, after))
    : Polled sink p s a q after (a.opening ++ [.fetch])
  | missed {p₁ s₁ fault} (reached : a.reaches = true)
    (start : p.atFetch sink a s = (p₁, s₁)) (answer : a.fetched = .error fault)
    (few : p₁.errors + 1 < p₁.limit)
    : Polled sink p s a { p₁ with errors := p₁.errors + 1 } s₁ (a.opening ++ [.fetch])
  | forced {p₁ s₁ fault q after} (reached : a.reaches = true)
    (start : p.atFetch sink a s = (p₁, s₁)) (answer : a.fetched = .error fault)
    (many : ¬ p₁.errors + 1 < p₁.limit)
    (report : { p₁ with errors := 0 }.emit sink p₁.unreachable s₁ = (q, after))
    : Polled sink p s a q.afterClose after (a.opening ++ [.fetch, .close])

/-- From the fetch on a poll goes in one of three ways, decided by the answer and by the failed
fetches in a row. -/
theorem fetchAndReport_polled {sink : Sink σ} (device : Device δ) {p p₁ : Poller} {s s₁ : σ}
    {a : Answers} {d : δ} (reached : a.reaches = true) (start : p.atFetch sink a s = (p₁, s₁))
    (answer : a.fetched = (device.fetch d).1)
    : ∃ q after last uses,
        p₁.fetchAndReport sink.left device.right (s₁, d) = (q, after, last)
        ∧ Polled sink p s a q after (a.opening ++ uses)
        ∧ ∀ log,
            p₁.fetchAndReport sink.left device.recorded.right (s₁, d, log)
              = (q, after, last, log ++ uses) := by
  rcases fetch : device.fetch d with ⟨result, d₁⟩
  rw [fetch] at answer
  cases result with
  | ok status =>
      rcases report : { p₁ with errors := 0 }.emit sink
        (status.setFlag Status.notOpenField false) s₁ with ⟨q, after⟩
      refine ⟨q, after, d₁, [.fetch], ?_, .fetched reached start answer report, fun log => ?_⟩
      · simp [fetchAndReport, afterFetch, Device.right, fetch, report]
      · simp [fetchAndReport, afterFetch, Device.right, Device.recorded, fetch, report]
  | error fault =>
      by_cases few : p₁.errors + 1 < p₁.limit
      · refine ⟨_, s₁, d₁, [.fetch], ?_, .missed reached start answer few, fun log => ?_⟩
        · simp [fetchAndReport, afterFetch, Device.right, fetch, few]
        · simp [fetchAndReport, afterFetch, Device.right, Device.recorded, fetch, few]
      · rcases report : { p₁ with errors := 0 }.emit sink p₁.unreachable s₁ with ⟨q, after⟩
        refine ⟨_, after, (device.close d₁).2, [.fetch, .close], ?_,
          .forced reached start answer few report, fun log => ?_⟩
        · simp [fetchAndReport, afterFetch, Device.right, fetch, few, report]
        · simp [fetchAndReport, afterFetch, Device.right, Device.recorded, fetch, few, report]

/-- Every poll goes in one of these ways, and a record of the device changes nothing in it but
notes its uses. The cases are those of the answers. -/
theorem poll_polled (sink : Sink σ) (device : Device δ) (p : Poller) (s : σ) (d : δ)
    : ∃ q after last uses,
        p.poll sink device s d = (q, after, last)
        ∧ Polled sink p s (device.answers d) q after uses
        ∧ ∀ log,
            p.poll sink device.recorded s (d, log) = (q, after, last, log ++ uses) := by
  cases isOpen : device.isOpen d with
  | true =>
      have start
          : p.atFetch sink (device.answers d) s = ({ p with stage := .polling }, s) := by
        simp [atFetch, Device.answers, isOpen]
      have reached : (device.answers d).reaches = true := by
        simp [Answers.reaches, Device.answers, isOpen]
      have none : (device.answers d).opening = [] := by
        simp [Answers.opening, Device.answers, isOpen]
      obtain ⟨q, after, last, uses, run, way, recorded⟩ :=
        fetchAndReport_polled device (d := d) reached start (by simp [Device.answers, isOpen])
      rw [none, List.nil_append] at way
      refine ⟨q, after, last, uses, ?_, way, fun log => ?_⟩
      · simpa [poll, pollIn, begin, Device.right, isOpen] using run
      · simpa [poll, pollIn, begin, Device.right, isOpen, Device.recorded] using recorded log
  | false =>
      rcases opening : device.openUp d with ⟨result, d₁⟩
      cases result with
      | ok done =>
          rcases start : { p with stage := .polling }.announce sink s with ⟨p₁, s₁⟩
          have same : p.atFetch sink (device.answers d) s = (p₁, s₁) := by
            simp [atFetch, Device.answers, isOpen, start]
          have reached : (device.answers d).reaches = true := by
            simp [Answers.reaches, Device.answers, isOpen, opening, Except.isOk, Except.toBool]
          have one : (device.answers d).opening = [.openUp] := by
            simp [Answers.opening, Device.answers, isOpen]
          obtain ⟨q, after, last, uses, run, way, recorded⟩ :=
            fetchAndReport_polled device (d := d₁) reached same
              (by simp [Device.answers, isOpen, opening])
          refine ⟨q, after, last, .openUp :: uses, ?_, ?_, fun log => ?_⟩
          · simpa [poll, pollIn, begin, Device.right, isOpen, opening, afterOpen, start] using run
          · rw [one] at way
            exact way
          · have noted := recorded (log ++ [.openUp])
            rw [List.append_assoc, List.singleton_append] at noted
            simpa [poll, pollIn, begin, Device.right, isOpen, opening, afterOpen, start, Device.recorded] using noted
      | error fault =>
          rcases report : { p with stage := .closed }.emit sink p.unreachable s with ⟨q, after⟩
          have closed : (device.answers d).reaches = false := by
            simp [Answers.reaches, Device.answers, isOpen, opening, Except.isOk, Except.toBool]
          refine ⟨q, after, d₁, [.openUp], ?_, .unopened closed report, fun log => ?_⟩
          · simp [poll, pollIn, begin, Device.right, isOpen, opening, afterOpen, report]
          · simp [poll, pollIn, begin, Device.right, isOpen, opening, afterOpen, report, Device.recorded]

-----------------------------------------------------------------------------------------
-- What a poll does to the poller
-----------------------------------------------------------------------------------------

/-- Until the fetch only the stage of a poller changes, and whether its announcement is pending.
-/
theorem atFetch_eq {sink : Sink σ} {p p₁ : Poller} {a : Answers} {s s₁ : σ}
    (start : p.atFetch sink a s = (p₁, s₁))
    : p₁ = { p with stage := .polling, readyPending := p₁.readyPending } := by
  simp only [atFetch] at start
  split at start
  · cases start
    rfl
  · rw [announce_eq start]

/-- Whether a poll has one failed fetch too many, and closes the device. -/
def overruns (p : Poller) (a : Answers) : Bool := a.fails && decide (p.limit ≤ p.errors + 1)

/-- The status that a poll observes. -/
def observes (p : Poller) (a : Answers) : Option Status := a.observed p.unreachable (p.overruns a)

theorem not_overruns {p : Poller} {a : Answers} (fails : a.fails = false)
    : p.overruns a = false := by
  rw [overruns, fails, Bool.false_and]

/-- Whether a failed fetch is one too many can be told at the fetch. -/
theorem overruns_of_error {sink : Sink σ} {p p₁ : Poller} {a : Answers} {s s₁ : σ} {fault : Fault}
    (reached : a.reaches = true) (start : p.atFetch sink a s = (p₁, s₁))
    (answer : a.fetched = .error fault)
    : p.overruns a = true ↔ ¬ p₁.errors + 1 < p₁.limit := by
  rw [atFetch_eq start, overruns, (Answers.fetched_error reached answer).2, Bool.true_and,
    decide_eq_true_eq]
  exact Nat.not_lt.symm

namespace Polled

variable {sink : Sink σ} {p q : Poller} {s after : σ} {a : Answers} {uses : List Use}

/-- A poll keeps for whom it watches, what it reports of an unreachable device, and its limit. -/
theorem frame (way : Polled sink p s a q after uses)
    : q.registration = p.registration ∧ q.unreachable = p.unreachable ∧ q.limit = p.limit := by
  cases way with
  | unopened _ report =>
      rw [emit_eq report]
      exact ⟨rfl, rfl, rfl⟩
  | fetched _ start _ report =>
      rw [emit_eq report, atFetch_eq start]
      exact ⟨rfl, rfl, rfl⟩
  | missed _ start _ _ =>
      rw [atFetch_eq start]
      exact ⟨rfl, rfl, rfl⟩
  | forced _ start _ _ report =>
      rw [emit_eq report, atFetch_eq start]
      exact ⟨rfl, rfl, rfl⟩

/-- The failed fetches in a row: a fetch that succeeds or overruns ends the row, another failed
fetch adds to it, and a poll without a fetch leaves it. -/
theorem errors (way : Polled sink p s a q after uses)
    : q.errors
      = if a.succeeds || p.overruns a then 0 else if a.fails then p.errors + 1 else p.errors := by
  cases way with
  | unopened closed report =>
      obtain ⟨noSuccess, noFailure⟩ := Answers.unreached closed
      rw [emit_eq report]
      simp [noSuccess, noFailure, not_overruns noFailure]
  | fetched reached start answer report =>
      obtain ⟨success, _⟩ := Answers.fetched_ok reached answer
      rw [emit_eq report]
      simp [success]
  | missed reached start answer few =>
      obtain ⟨noSuccess, failure⟩ := Answers.fetched_error reached answer
      have under := mt (overruns_of_error reached start answer).mp (not_not_intro few)
      rw [atFetch_eq start]
      simp [noSuccess, failure, under]
  | forced reached start answer many report =>
      have overrun := (overruns_of_error reached start answer).mpr many
      rw [emit_eq report]
      simp [afterClose, overrun]

/-- After a poll the device is being polled or closed: polled if the poll reached the fetch and
did not overrun. -/
theorem stage (way : Polled sink p s a q after uses)
    : q.stage = if a.reaches && !p.overruns a then .polling else .closed := by
  cases way with
  | unopened closed report =>
      rw [emit_eq report]
      simp [closed]
  | fetched reached start answer report =>
      obtain ⟨_, noFailure⟩ := Answers.fetched_ok reached answer
      rw [emit_eq report, atFetch_eq start]
      simp [reached, not_overruns noFailure]
  | missed reached start answer few =>
      have under := mt (overruns_of_error reached start answer).mp (not_not_intro few)
      rw [atFetch_eq start]
      simp [reached, under]
  | forced reached start answer many report =>
      have overrun := (overruns_of_error reached start answer).mpr many
      simp [afterClose, overrun]

/-- A poll closes the device once if it overruns, and not at all otherwise. -/
theorem closes (way : Polled sink p s a q after uses)
    : uses.count .close = if p.overruns a then 1 else 0 := by
  have none : a.opening.count .close = 0 := by
    simp only [Answers.opening]
    split <;> rfl
  cases way with
  | unopened closed report =>
      obtain ⟨_, noFailure⟩ := Answers.unreached closed
      simp [not_overruns noFailure]
  | fetched reached start answer report =>
      obtain ⟨_, noFailure⟩ := Answers.fetched_ok reached answer
      simp [none, not_overruns noFailure]
  | missed reached start answer few =>
      have under := mt (overruns_of_error reached start answer).mp (not_not_intro few)
      simp [none, under]
  | forced reached start answer many report =>
      have overrun := (overruns_of_error reached start answer).mpr many
      simp [none, overrun]

end Polled

-----------------------------------------------------------------------------------------
-- Recorded polls
-----------------------------------------------------------------------------------------

/-- Until the fetch nothing is reported. -/
theorem atFetch_recorded {sink : Sink σ} {p p₁ : Poller} {a : Answers} {s : σ}
    {log : List Report} {next : σ × List Report}
    (start : p.atFetch sink.recorded a (s, log) = (p₁, next))
    : p.atFetch sink a s = (p₁, next.1) ∧ next.2 = log := by
  simp only [atFetch] at start ⊢
  split at start
  · cases start
    simp_all
  · rename_i isClosed
    rw [if_neg isClosed]
    exact announce_recorded start

/-- The answers decide which way a poll goes, and with that the poller, the sink and the uses. -/
theorem Polled.deterministic {sink : Sink σ} {p q q' : Poller} {s after after' : σ} {a : Answers}
    {uses uses' : List Use} (one : Polled sink p s a q after uses)
    (other : Polled sink p s a q' after' uses')
    : q = q' ∧ after = after' ∧ uses = uses' := by
  cases one <;> cases other <;> simp_all
  all_goals omega

/-- What a poll that observes a status, or none, adds to a record of reports: one report at
most, of that status, with which the last accepted status is known after the poll if it was
before. -/
inductive Noted (sink : Sink σ) (p : Poller) (log : List Report) (q : Poller)
    : Option Status → List Report → Prop
  | nothing (last : q.last = p.last) : Noted sink p log q none log
  | observed (status : Status) (s₁ : σ)
    (known
      : p.last = lastAccepted log → q.last = lastAccepted (log ++ p.reported sink status s₁))
    : Noted sink p log q (some status) (log ++ p.reported sink status s₁)

/-- A report that is made along a poll is noted as one of its first poller, which has the same
registration and last accepted status. -/
theorem Noted.of_emit {sink : Sink σ} {p p₁ q : Poller} {status : Status} {s₁ : σ}
    {log : List Report} {next : σ × List Report}
    (report : p₁.emit sink.recorded status (s₁, log) = (q, next))
    (registration : p₁.registration = p.registration) (last : p₁.last = p.last)
    : p₁.emit sink status s₁ = (q, next.1) ∧ Noted sink p log q (some status) next.2 := by
  obtain ⟨plain, noted, known⟩ := emit_recorded report
  rw [reported_eq sink status s₁ registration last] at noted
  rw [last, noted] at known
  rw [noted]
  exact ⟨plain, .observed status s₁ known⟩

theorem Noted.afterClose {sink : Sink σ} {p q : Poller} {log reports : List Report}
    {observed : Option Status} (noted : Noted sink p log q observed reports)
    : Noted sink p log q.afterClose observed reports := by
  cases noted with
  | nothing last => exact .nothing last
  | observed status s₁ known => exact .observed status s₁ known

/-- A recorded poll goes as it does without the record, and its observation is noted. -/
theorem Polled.recorded {sink : Sink σ} {p q : Poller} {s : σ} {log : List Report} {a : Answers}
    {next : σ × List Report} {uses : List Use}
    (way : Polled sink.recorded p (s, log) a q next uses)
    : Polled sink p s a q next.1 uses ∧ Noted sink p log q (p.observes a) next.2 := by
  cases way with
  | unopened closed report =>
      have observes : p.observes a = some p.unreachable := by
        simp [observes, Answers.observed, closed]
      obtain ⟨plain, noted⟩ := Noted.of_emit (p := p) report rfl rfl
      rw [observes]
      exact ⟨.unopened closed plain, noted⟩
  | @fetched p₁ begun status q after reached start answer report =>
      obtain ⟨s₁, log₁⟩ := begun
      obtain ⟨plainStart, same⟩ := atFetch_recorded start
      cases same
      have first := atFetch_eq plainStart
      have observes : p.observes a = some (status.setFlag Status.notOpenField false) := by
        simp [observes, Answers.observed, reached, answer]
      obtain ⟨plain, noted⟩ := Noted.of_emit (p := p) report (by rw [first]) (by rw [first])
      rw [observes]
      exact ⟨.fetched reached plainStart answer plain, noted⟩
  | missed reached start answer few =>
      obtain ⟨plainStart, same⟩ := atFetch_recorded start
      have first := atFetch_eq plainStart
      have under := mt (overruns_of_error reached start answer).mp (not_not_intro few)
      have observes : p.observes a = none := by
        simp [observes, Answers.observed, reached, answer, under]
      refine ⟨.missed reached plainStart answer few, ?_⟩
      rw [observes, same]
      exact .nothing (by rw [first])
  | @forced p₁ begun fault q after reached start answer many report =>
      obtain ⟨s₁, log₁⟩ := begun
      obtain ⟨plainStart, same⟩ := atFetch_recorded start
      cases same
      have first := atFetch_eq plainStart
      have overrun := (overruns_of_error reached start answer).mpr many
      have observes : p.observes a = some p₁.unreachable := by
        have same : p₁.unreachable = p.unreachable := by rw [first]
        simp [observes, Answers.observed, reached, answer, overrun, same]
      obtain ⟨plain, noted⟩ := Noted.of_emit (p := p) report (by rw [first]) (by rw [first])
      rw [observes]
      exact ⟨.forced reached plainStart answer many plain, noted.afterClose⟩

end Poller

end ReceiptFleet.Fleet
