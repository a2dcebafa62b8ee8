import ReceiptFleet.Fleet.Poller

/-!
The reports of pollers. A sink can be recorded without changing what it does, and the record of a
part of a poll holds at most one report: of a status that differs from the last accepted one.
-/

namespace ReceiptFleet.Fleet

/-- A status that was reported for a registration, and whether it was accepted. -/
structure Report where
  registration : Registration
  status : Status
  accepted : Bool
deriving DecidableEq

/-- The status that was accepted last. -/
def lastAccepted (reports : List Report) : Option Status :=
  ((reports.filter (·.accepted)).getLast?).map (·.status)

variable {σ δ : Type}

/-- The sink with a record of all statuses that are reported to it, the latest last. -/
def Sink.recorded (sink : Sink σ) : Sink (σ × List Report) where
  status registration status s :=
    let (accepted, after) := sink.status registration status s.1
    (accepted, after, s.2 ++ [⟨registration, status, accepted⟩])
  ready registration s := (sink.ready registration s.1, s.2)

/-- An accepted report becomes the last accepted one, and a refused one changes nothing. -/
theorem lastAccepted_concat (reports : List Report) (report : Report)
    : lastAccepted (reports ++ [report])
      = if report.accepted then some report.status else lastAccepted reports := by
  cases accepted : report.accepted <;> simp [lastAccepted, accepted]

namespace Poller

-----------------------------------------------------------------------------------------
-- What reporting leaves alone
-----------------------------------------------------------------------------------------

/-- Reporting a status changes nothing of a poller but its last accepted status. -/
theorem emit_eq {sink : Sink σ} {p q : Poller} {status : Status} {s after : σ}
    (report : p.emit sink status s = (q, after))
    : q = { p with last := q.last } := by
  simp only [emit] at report
  split at report
  · rcases answer : sink.status p.registration status s with ⟨accepted, next⟩
    cases accepted <;> simp only [answer] at report <;> cases report <;> rfl
  · cases report
    rfl

/-- Announcing the first opening changes nothing of a poller but that it is pending. -/
theorem announce_eq {sink : Sink σ} {p q : Poller} {s after : σ}
    (announcement : p.announce sink s = (q, after))
    : q = { p with readyPending := false } := by
  simp only [announce] at announcement
  split at announcement
  · cases announcement
    rfl
  · rename_i done
    rw [Bool.not_eq_true] at done
    cases announcement
    rw [← done]

/-- What is reported to one half of a world leaves the other half alone. -/
@[simp]
theorem emit_left (sink : Sink σ) (p : Poller) (status : Status) (s : σ) (d : δ)
    : p.emit sink.left status (s, d)
      = ((p.emit sink status s).1, (p.emit sink status s).2, d) := by
  simp only [emit, Sink.left]
  split
  · rcases answer : sink.status p.registration status s with ⟨accepted, next⟩
    simp only [answer]
    cases accepted <;> rfl
  · rfl

@[simp]
theorem announce_left (sink : Sink σ) (p : Poller) (s : σ) (d : δ)
    : p.announce sink.left (s, d) = ((p.announce sink s).1, (p.announce sink s).2, d) := by
  simp only [announce, Sink.left]
  split <;> rfl

-----------------------------------------------------------------------------------------
-- Recording
-----------------------------------------------------------------------------------------

/-- The reports that reporting a status leads to: one if it is news, and none otherwise. -/
def reported (sink : Sink σ) (p : Poller) (status : Status) (s : σ) : List Report :=
  if status.differsFrom p.last then
    [⟨p.registration, status, (sink.status p.registration status s).1⟩]
  else []

/-- Which reports there are depends on the registration and the last accepted status only. -/
theorem reported_eq {p other : Poller} (sink : Sink σ) (status : Status) (s : σ)
    (registration : other.registration = p.registration) (last : other.last = p.last)
    : other.reported sink status s = p.reported sink status s := by
  rw [reported, reported, registration, last]

/-- A recorded report is made as without the record, and noted. A poller that holds the last
accepted status before it holds the last accepted status after it. -/
theorem emit_recorded {sink : Sink σ} {p q : Poller} {status : Status} {s : σ}
    {log : List Report} {next : σ × List Report}
    (report : p.emit sink.recorded status (s, log) = (q, next))
    : p.emit sink status s = (q, next.1)
      ∧ next.2 = log ++ p.reported sink status s
      ∧ (p.last = lastAccepted log → q.last = lastAccepted next.2) := by
  simp only [emit, reported, Sink.recorded] at report ⊢
  split
  · rename_i news
    rcases answer : sink.status p.registration status s with ⟨accepted, after⟩
    simp only [news, if_true, answer] at report
    cases accepted <;> cases report <;> simp [lastAccepted_concat]
  · rename_i old
    simp only [old] at report
    cases report
    simp

theorem announce_recorded {sink : Sink σ} {p q : Poller} {s : σ} {log : List Report}
    {next : σ × List Report} (announcement : p.announce sink.recorded (s, log) = (q, next))
    : p.announce sink s = (q, next.1) ∧ next.2 = log := by
  simp only [announce, Sink.recorded] at announcement ⊢
  split <;> rename_i pending <;> simp only [pending] at announcement <;> cases announcement <;>
    exact ⟨rfl, rfl⟩

end Poller

end ReceiptFleet.Fleet
