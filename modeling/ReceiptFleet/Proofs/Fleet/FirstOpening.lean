import ReceiptFleet.Proofs.Fleet.PollRuns

/-!
Announcing that a printer is ready. A poll is taken apart into its deeds: what it uses the device for
and what it tells the sink, in their order. The first poll that opens the device announces it, between
the opening and the fetch; no other poll announces anything.
-/

namespace ReceiptFleet.Fleet

variable {σ δ ω : Type}

-----------------------------------------------------------------------------------------
-- Deeds
-----------------------------------------------------------------------------------------

/-- A deed of a poller: it uses its device, announces that its printer is ready, or reports a
status. -/
inductive Deed where
  | uses (use : Use)
  | ready (registration : Registration)
  | reports (report : Report)
deriving DecidableEq

/-- The sink with a note of all that it is told, the latest last. -/
def Sink.noted (sink : Sink ω) : Sink (ω × List Deed) where
  status registration status w :=
    let (accepted, after) := sink.status registration status w.1
    (accepted, after, w.2 ++ [.reports ⟨registration, status, accepted⟩])
  ready registration w := (sink.ready registration w.1, w.2 ++ [.ready registration])

/-- The device with a note of all that it is used for, the latest last. -/
def Device.noted (device : Device ω) : Device (ω × List Deed) where
  isOpen w := device.isOpen w.1
  openUp w := ((device.openUp w.1).1, (device.openUp w.1).2, w.2 ++ [.uses .openUp])
  fetch w := ((device.fetch w.1).1, (device.fetch w.1).2, w.2 ++ [.uses .fetch])
  close w := ((device.close w.1).1, (device.close w.1).2, w.2 ++ [.uses .close])

/-- Whether a poll that finds a device in some state opens it. -/
def Device.opens (device : Device δ) (d : δ) : Bool :=
  !device.isOpen d && (device.openUp d).1.isOk

theorem Device.isOpen_of_opens {device : Device δ} {d : δ} (opens : device.opens d = true)
    : device.isOpen d = false := by
  simp only [Device.opens, Bool.and_eq_true, Bool.not_eq_true'] at opens
  exact opens.1

/-- Whether a deed is an announcement. -/
def Deed.announces : Deed → Bool
  | .ready _ => true
  | _ => false

namespace Poller

/-- A poll of a device by a poller with a sink, with a note of its deeds. -/
def pollNoted (sink : Sink σ) (device : Device δ) (p : Poller) (s : σ) (d : δ)
    : Poller × (σ × δ) × List Deed :=
  p.pollIn sink.left.noted device.right.noted ((s, d), [])

/-- All deeds of a run of polls, each of which finds the device in a state of its own. -/
def deeds (sink : Sink σ) (device : Device δ) (p : Poller) (s : σ) : List δ → List Deed
  | [] => []
  | d :: ds =>
    (p.pollNoted sink device s d).2.2
      ++ deeds sink device (p.poll sink device s d).1 (p.poll sink device s d).2.1 ds

-----------------------------------------------------------------------------------------
-- Polls as their deeds
-----------------------------------------------------------------------------------------

variable {sink : Sink ω} {p q : Poller} {w after : ω}

/-- A report is one deed, or none. -/
theorem emit_noted {status : Status} (log : List Deed)
    (report : p.emit sink status w = (q, after))
    : ∃ reports : List Report,
        p.emit sink.noted status (w, log) = (q, after, log ++ reports.map .reports) := by
  simp only [emit] at report ⊢
  split at report
  · rename_i news
    rcases answer : sink.status p.registration status w with ⟨accepted, next⟩
    have noted
        : sink.noted.status p.registration status (w, log)
          = (accepted, next, log ++ [.reports ⟨p.registration, status, accepted⟩]) := by
      simp [Sink.noted, answer]
    refine ⟨[⟨p.registration, status, accepted⟩], ?_⟩
    rw [answer] at report
    rw [if_pos news, noted]
    cases accepted <;> cases report <;> rfl
  · rename_i old
    cases report
    exact ⟨[], by simp [old]⟩

/-- What is announced is the first opening, if that is pending. -/
theorem announce_noted (log : List Deed) (announcement : p.announce sink w = (q, after))
    : p.announce sink.noted (w, log)
      = (q, after, log ++ if p.readyPending then [.ready p.registration] else []) := by
  simp only [announce, Sink.noted] at announcement ⊢
  split at announcement <;> rename_i pending <;> cases announcement <;> simp [pending]

/-- Deeds without an announcement. -/
def Quiet (deeds : List Deed) : Prop := ∀ registration, .ready registration ∉ deeds

theorem Quiet.filter {deeds : List Deed} (quiet : Quiet deeds)
    : deeds.filter Deed.announces = [] := by
  rw [List.filter_eq_nil_iff]
  intro deed mem announces
  cases deed with
  | ready registration => exact quiet registration mem
  | uses use => cases announces
  | reports report => cases announces

theorem quiet_reports (reports : List Report) : Quiet (reports.map .reports) := by
  intro registration mem
  obtain ⟨_, _, same⟩ := List.mem_map.mp mem
  cases same

/-- From the fetch on nothing is announced, and what is pending stays so. -/
theorem fetchAndReport_noted (sink : Sink ω) (device : Device ω) (p : Poller) (w : ω)
    (log : List Deed)
    : ∃ q after rest,
        p.fetchAndReport sink device w = (q, after)
        ∧ p.fetchAndReport sink.noted device.noted (w, log)
          = (q, after, log ++ .uses .fetch :: rest)
        ∧ Quiet rest
        ∧ q.readyPending = p.readyPending ∧ q.registration = p.registration := by
  rcases fetch : device.fetch w with ⟨result, w₁⟩
  have noted : device.noted.fetch (w, log) = (result, w₁, log ++ [.uses .fetch]) := by
    simp [Device.noted, fetch]
  cases result with
  | ok status =>
      rcases report : { p with errors := 0 }.emit sink
        (status.setFlag Status.notOpenField false) w₁ with ⟨q, after⟩
      obtain ⟨reports, told⟩ := emit_noted (log ++ [.uses .fetch]) report
      refine ⟨q, after, reports.map .reports, ?_, ?_, quiet_reports reports, ?_, ?_⟩
      · simp [fetchAndReport, afterFetch, fetch, report]
      · simp [fetchAndReport, afterFetch, noted, told]
      · rw [emit_eq report]
      · rw [emit_eq report]
  | error fault =>
      by_cases few : p.errors + 1 < p.limit
      · refine ⟨{ p with errors := p.errors + 1 }, w₁, [], ?_, ?_, ?_, rfl, rfl⟩
        · simp [fetchAndReport, afterFetch, fetch, few]
        · simp [fetchAndReport, afterFetch, noted, few]
        · intro registration mem
          cases mem
      · rcases report : { p with errors := 0 }.emit sink p.unreachable w₁ with ⟨q, after⟩
        obtain ⟨reports, told⟩ := emit_noted (log ++ [.uses .fetch]) report
        refine ⟨q.afterClose, (device.close after).2, reports.map .reports ++ [.uses .close],
          ?_, ?_, ?_, ?_, ?_⟩
        · simp [fetchAndReport, afterFetch, fetch, few, report]
        · simp only [fetchAndReport, afterFetch, noted, few, if_false, told]
          simp [Device.noted]
        · intro registration mem
          rw [List.mem_append, List.mem_singleton] at mem
          rcases mem with mem | same
          · exact quiet_reports reports registration mem
          · cases same
        · rw [emit_eq report]
          rfl
        · rw [emit_eq report]
          rfl

/-- The deeds of a poll until it fetches or gives up: the opening of a device that is not open, and
the announcement of a first one. -/
def opening (device : Device δ) (p : Poller) (d : δ) : List Deed :=
  if device.isOpen d then []
  else .uses .openUp :: if device.opens d && p.readyPending then [.ready p.registration] else []

/-- A poll opens the device if need be and announces the first opening, fetches if there is an open
device, and announces nothing after that. Its notes change nothing. -/
theorem pollIn_noted (sink : Sink ω) (device : Device ω) (p : Poller) (w : ω)
    : ∃ q after rest,
        p.pollIn sink device w = (q, after)
        ∧ p.pollIn sink.noted device.noted (w, []) = (q, after, p.opening device w ++ rest)
        ∧ Quiet rest
        ∧ (device.opens w = true → ∃ more, rest = .uses .fetch :: more)
        ∧ q.readyPending = (p.readyPending && !device.opens w)
        ∧ q.registration = p.registration := by
  cases isOpen : device.isOpen w with
  | true =>
      have sealed : device.opens w = false := by simp [Device.opens, isOpen]
      obtain ⟨q, after, rest, run, noted, quiet, pending, same⟩ :=
        fetchAndReport_noted sink device { p with stage := .polling } w []
      refine ⟨q, after, .uses .fetch :: rest, ?_, ?_, ?_, fun _ => ⟨rest, rfl⟩, ?_, same⟩
      · simpa [pollIn, begin, isOpen] using run
      · simpa [pollIn, begin, isOpen, opening, Device.noted] using noted
      · simpa [Quiet] using quiet
      · simpa [sealed] using pending
  | false =>
      rcases opened : device.openUp w with ⟨result, w₁⟩
      have told : device.noted.openUp (w, []) = (result, w₁, [.uses .openUp]) := by
        simp [Device.noted, opened]
      have closed : device.noted.isOpen (w, []) = false := isOpen
      cases result with
      | ok done =>
          have opens : device.opens w = true := by
            simp [Device.opens, isOpen, opened, Except.isOk, Except.toBool]
          rcases start : { p with stage := .polling }.announce sink w₁ with ⟨p₁, w₂⟩
          obtain ⟨q, after, rest, run, noted, quiet, pending, same⟩ :=
            fetchAndReport_noted sink device p₁ w₂ (p.opening device w)
          have announced := announce_noted [.uses .openUp] start
          have first := announce_eq start
          refine ⟨q, after, .uses .fetch :: rest, ?_, ?_, ?_, fun _ => ⟨rest, rfl⟩, ?_, ?_⟩
          · simpa [pollIn, begin, isOpen, opened, afterOpen, start] using run
          · rw [← noted]
            simp only [pollIn, begin, closed, Bool.false_eq_true, if_false, told, afterOpen]
            rw [announced]
            simp [opening, isOpen, opens]
          · simpa [Quiet] using quiet
          · rw [pending, first, opens]
            simp
          · rw [same, first]
      | error fault =>
          have opens : device.opens w = false := by
            simp [Device.opens, isOpen, opened, Except.isOk, Except.toBool]
          rcases report : { p with stage := .closed }.emit sink p.unreachable w₁ with ⟨q, after⟩
          obtain ⟨reports, noted⟩ := emit_noted [.uses .openUp] report
          refine ⟨q, after, reports.map .reports, ?_, ?_, quiet_reports reports, ?_, ?_, ?_⟩
          · simp [pollIn, begin, isOpen, opened, afterOpen, report]
          · simp only [pollIn, begin, closed, Bool.false_eq_true, if_false, told, afterOpen]
            rw [noted]
            simp [opening, isOpen, opens]
          · simp [opens]
          · rw [emit_eq report, opens]
            simp
          · rw [emit_eq report]

/-- A poll with a sink and a device that have nothing to do with each other. -/
theorem poll_noted (sink : Sink σ) (device : Device δ) (p : Poller) (s : σ) (d : δ)
    : ∃ q after last rest,
        p.poll sink device s d = (q, after, last)
        ∧ p.pollNoted sink device s d = (q, (after, last), p.opening device d ++ rest)
        ∧ Quiet rest
        ∧ (device.opens d = true → ∃ more, rest = .uses .fetch :: more)
        ∧ q.readyPending = (p.readyPending && !device.opens d)
        ∧ q.registration = p.registration := by
  obtain ⟨q, ⟨after, last⟩, rest, run, noted, facts⟩ :=
    pollIn_noted sink.left device.right p (s, d)
  exact ⟨q, after, last, rest, run, noted, facts⟩

-----------------------------------------------------------------------------------------
-- The first opening of a run
-----------------------------------------------------------------------------------------

/-- The announcement is pending until a poll opens the device, by induction over the run. -/
theorem pollEach_readyPending (sink : Sink σ) (device : Device δ) (p : Poller) (s : σ)
    (ds : List δ)
    : (p.pollEach sink device s ds).1.readyPending = (p.readyPending && !ds.any device.opens)
      ∧ (p.pollEach sink device s ds).1.registration = p.registration := by
  induction ds using List.reverseRecOn with
  | nil => simp [pollEach]
  | append_singleton ds d ih =>
      obtain ⟨q, after, last, rest, run, _, _, _, pending, same⟩ :=
        poll_noted sink device (p.pollEach sink device s ds).1 (p.pollEach sink device s ds).2 d
      rw [pollEach_concat, run]
      refine ⟨?_, same.trans ih.2⟩
      rw [pending, ih.1]
      simp [Bool.and_assoc]

/-- The announcements of a run are that of its first opening, if there is one: by induction over the
run, as only the first poll to open the device finds the announcement pending. -/
theorem filter_deeds (sink : Sink σ) (device : Device δ) (p : Poller) (s : σ) (ds : List δ)
    : (p.deeds sink device s ds).filter Deed.announces
      = if p.readyPending && ds.any device.opens then [.ready p.registration] else [] := by
  induction ds generalizing p s with
  | nil => simp [deeds]
  | cons d ds ih =>
      obtain ⟨q, after, last, rest, run, noted, quiet, _, pending, same⟩ :=
        poll_noted sink device p s d
      have silent : rest.filter Deed.announces = [] := quiet.filter
      rw [deeds, run, noted, List.filter_append, List.filter_append, ih, silent, pending, same]
      cases opens : device.opens d with
      | true =>
          have closed : device.isOpen d = false := Device.isOpen_of_opens opens
          cases ready : p.readyPending <;> simp [opening, closed, opens, ready, Deed.announces]
      | false =>
          have quiet : (p.opening device d).filter Deed.announces = [] := by
            simp only [opening, opens]
            split <;> rfl
          rw [quiet, List.any_cons, opens]
          simp

/-- What a poller announces, over every run of polls, whatever the device and the sink answer and
whatever the device does by itself between two polls. It announces its printer in the first poll that
finds the device not open and opens it, after the opening, before the fetch and before it reports any
status; until that poll the announcement is pending; and in no other poll is anything announced. The
deeds of a poll are those of the poll as it goes without a note of them, and the polls one after the
other of a poller that is to stop or is not to stop are such a run. -/
theorem ready_announced_once (sink : Sink σ) (device : Device δ) (registration : Registration)
    (unreachable : Status) (threshold : Nat) (s : σ) (ds : List δ) (d : δ)
    : let started := start registration unreachable threshold
      let before := started.pollEach sink device s ds
      let poll := before.1.poll sink device before.2 d
      let noted := before.1.pollNoted sink device before.2 d
      let unopened := ∀ earlier ∈ ds, device.opens earlier = false
      noted = (poll.1, poll.2, noted.2.2)
      ∧ (before.1.readyPending = true ↔ unopened)
      ∧ (device.opens d = true ∧ unopened →
          ∃ rest,
            noted.2.2 = .uses .openUp :: .ready registration :: .uses .fetch :: rest ∧ Quiet rest)
      ∧ (¬ (device.opens d = true ∧ unopened) → Quiet noted.2.2)
      ∧ (started.deeds sink device s ds).filter Deed.announces
        = (if ds.any device.opens then [.ready registration] else [])
      ∧ ∀ cancelled n,
          ∃ more : List δ,
            more.length = (if cancelled then 0 else n)
            ∧ ((before.1.polls sink device cancelled before.2 d n).1,
                (before.1.polls sink device cancelled before.2 d n).2.1)
              = started.pollEach sink device s (ds ++ more) := by
  intro started before poll noted unopened
  obtain ⟨pending, same⟩ := pollEach_readyPending sink device started s ds
  obtain ⟨q, after, last, rest, run, note, quiet, fetches, _, _⟩ :=
    poll_noted sink device before.1 before.2 d
  have pendingIff : before.1.readyPending = true ↔ unopened := by
    rw [pending]
    simp [started, start, unopened]
  have registered : before.1.registration = registration := same
  refine ⟨?_, pendingIff, ?_, ?_, ?_, ?_⟩
  · simp only [noted, poll, note, run]
  · rintro ⟨opens, none⟩
    obtain ⟨more, rfl⟩ := fetches opens
    refine ⟨more, ?_, fun other mem => quiet other (List.mem_cons_of_mem _ mem)⟩
    simp [noted, note, opening, Device.isOpen_of_opens opens, opens, pendingIff.mpr none, registered]
  · intro later other mem
    have old : (device.opens d && before.1.readyPending) = false := by
      rw [← pendingIff] at later
      simpa using later
    simp only [noted, note, opening, old, List.mem_append] at mem
    rcases mem with mem | mem
    · split at mem <;> simp at mem
    · exact quiet other mem
  · rw [filter_deeds]
    rfl
  · intro cancelled n
    cases cancelled with
    | true => exact ⟨[], rfl, by cases n <;> simp [polls, before]⟩
    | false =>
        obtain ⟨more, length, polled⟩ := polls_eq_pollEach sink device before.1 before.2 d n
        refine ⟨more, by simpa using length, ?_⟩
        rw [polled]
        simp [pollEach, before, List.foldl_append]

/-- Witness: a device that is found open, then cannot be opened, then is opened, closes by itself and
is opened again is announced once. -/
theorem ready_announced_once_reopened
    : let found : Answers := ⟨true, .ok (), .error (.timeout "no answer")⟩
      let refused : Answers := ⟨false, .error (.timeout "no connection"), .ok .empty⟩
      let opened : Answers := ⟨false, .ok (), .ok .empty⟩
      let sink : Sink Unit := ⟨fun _ _ s => (true, s), fun _ s => s⟩
      let before :=
        (start ⟨"bar", 0⟩ .empty 3).pollEach sink Answers.device () [found, refused]
      let first := before.1.pollNoted sink Answers.device before.2 opened
      let again :=
        (start ⟨"bar", 0⟩ .empty 3).pollEach sink Answers.device () [found, refused, opened]
      before.1.readyPending = true
      ∧ (∃ rest, first.2.2 = .uses .openUp :: .ready ⟨"bar", 0⟩ :: .uses .fetch :: rest ∧ Quiet rest)
      ∧ Quiet (again.1.pollNoted sink Answers.device again.2 opened).2.2 := by
  intro found refused opened sink before first again
  obtain ⟨_, pending, announced, _⟩ :=
    ready_announced_once sink Answers.device ⟨"bar", 0⟩ .empty 3 () [found, refused] opened
  obtain ⟨_, _, _, silent, _⟩ :=
    ready_announced_once sink Answers.device ⟨"bar", 0⟩ .empty 3 () [found, refused, opened] opened
  have none : ∀ earlier ∈ [found, refused], Answers.device.opens earlier = false := by decide
  have some : ¬ ∀ earlier ∈ [found, refused, opened], Answers.device.opens earlier = false := by
    decide
  exact ⟨pending.mpr none, announced ⟨rfl, none⟩, silent fun both => some both.2⟩

end Poller

end ReceiptFleet.Fleet
