import ReceiptFleet.Printer.Network

/-!
Answers that come late. A device answers the requests on a connection in their order, each after a
delay of its own. A printer that has waited in vain gives up the request and keeps the connection, so
the answer is still to come, and the next request is answered by it: from then on every answer is read
for a later request than the one that it was sent for.
-/

namespace ReceiptFleet

-----------------------------------------------------------------------------------------
-- A device on one connection
-----------------------------------------------------------------------------------------

/-- A connection to a device that answers: the time, when the answers to the requests so far are due,
and how many of them have been read. -/
structure Line where
  now : Nat := 0
  due : List Nat := []
  read : Nat := 0

namespace Line

/-- How many requests the device has received. -/
def asked (line : Line) : Nat := line.due.length

def pause (line : Line) (time : Nat) : Line := { line with now := line.now + time }

/-- One more request. It is answered after its delay, and not before the requests that came first. -/
def ask (delay : Nat → Nat) (line : Line) : Line :=
  { line with due := line.due ++ [max (line.due.getLastD 0) (line.now + delay line.asked)] }

/-- Waits for the next byte: the answer to the first request whose answer has not been read. -/
def wait (answers : Nat → UInt8) (timeout : Nat) (line : Line) : Receiving × Line :=
  match line.due[line.read]? with
  | some due =>
    if due ≤ line.now + timeout then
      (.byte (answers line.read), { line with now := max line.now due, read := line.read + 1 })
    else (.timedOut, line.pause timeout)
  | none => (.timedOut, line.pause timeout)

/-- The network of a device that answers the requests on a connection, by their number, with these
bytes and after these delays. A new connection begins without requests. -/
def network (answers : Nat → UInt8) (delay : Nat → Nat) (timeout : Nat) : Transport Line where
  connect _ line := (.connected 0, { now := line.now })
  send _ bytes line :=
    (.ok (), if bytes ∈ StatusRequest.all.map StatusRequest.command then line.ask delay else line)
  receive _ line := line.wait answers timeout
  shutDown _ line := (.ok (), line)
  release _ line := line

/-- So many requests on the connection have an answer that has not been read. -/
def Behind (line : Line) (count : Nat) : Prop := line.asked = line.read + count

/-- Waiting reads the next answer or times out, which of the two does not depend on the answers. -/
theorem wait_outcome (timeout : Nat) (line : Line)
    : ∃ later : Line,
        later.asked = line.asked
        ∧ ((later.read = line.read + 1
              ∧ ∀ answers, line.wait answers timeout = (.byte (answers line.read), later))
            ∨ (later.read = line.read
              ∧ ∀ answers, line.wait answers timeout = (.timedOut, later))) := by
  cases next : line.due[line.read]? with
  | none => exact ⟨line.pause timeout, rfl, .inr ⟨rfl, fun answers => by simp only [wait, next]⟩⟩
  | some due =>
      by_cases inTime : due ≤ line.now + timeout
      · refine ⟨{ line with now := max line.now due, read := line.read + 1 }, rfl, .inl ⟨rfl, ?_⟩⟩
        intro answers
        simp only [wait, next, if_pos inTime]
      · refine ⟨line.pause timeout, rfl, .inr ⟨rfl, ?_⟩⟩
        intro answers
        simp only [wait, next, if_neg inTime]

end Line

-----------------------------------------------------------------------------------------
-- Requests and calls
-----------------------------------------------------------------------------------------

/-- A status after requests, where the answers from some number on are read for them. -/
def decodeFrom (answers : Nat → UInt8) : Status → List StatusRequest → Nat → Status
  | status, [], _ => status
  | status, request :: others, next =>
      decodeFrom answers
        (status.merge (NetworkPrinter.decoder.decode request [answers next])) others (next + 1)

/-- The status that four answers in a row give, read for the four requests. -/
def statusFrom (answers : Nat → UInt8) (first : Nat) : Status :=
  decodeFrom answers (Status.empty.setFlag Status.notOpenField false) StatusRequest.all first

namespace NetworkPrinter

/-- The fault of a request that is given up. -/
def noAnswer (p : NetworkPrinter) : Fault := .timeout ("Status timeout: " ++ p.address.text)

variable (p : NetworkPrinter) (connection : Nat) (delay : Nat → Nat) (timeout : Nat)

/-- A request reads the next answer or times out, and leaves its own answer to be read. -/
theorem ask_outcome (request : StatusRequest) (line : Line)
    : ∃ later : Line,
        later.asked = line.asked + 1
        ∧ ((later.read = line.read + 1
              ∧ ∀ answers,
                  p.ask (Line.network answers delay timeout) connection request line
                    = (.ok [answers line.read], later))
            ∨ (later.read = line.read
              ∧ ∀ answers,
                  p.ask (Line.network answers delay timeout) connection request line
                    = (.error p.noAnswer, later))) := by
  have known : request.command ∈ StatusRequest.all.map StatusRequest.command := by
    cases request <;> decide
  obtain ⟨later, same, waited⟩ := (line.ask delay).wait_outcome timeout
  have counted : later.asked = line.asked + 1 := by
    rw [same]
    exact List.length_append
  refine ⟨later, counted, ?_⟩
  rcases waited with ⟨next, read⟩ | ⟨still, timedOut⟩
  · refine .inl ⟨next, fun answers => ?_⟩
    have byte := read answers
    simp only [ask, Line.network, if_pos known, byte]
    rfl
  · refine .inr ⟨still, fun answers => ?_⟩
    have none := timedOut answers
    simp only [ask, Line.network, if_pos known, none, noAnswer]

/-- Requests in a row are answered by the answers that are next, or the first one that times out
leaves one answer more to be read. The induction is over the requests. -/
theorem askAll_outcome (requests : List StatusRequest) (line : Line)
    : ∃ later : Line,
        ((∀ count, line.Behind count → later.Behind count)
          ∧ ∀ answers status,
              p.askAll (Line.network answers delay timeout) connection status requests line
                = (.ok (decodeFrom answers status requests line.read), later))
        ∨ ((∀ count, line.Behind count → later.Behind (count + 1))
          ∧ ∀ answers status,
              p.askAll (Line.network answers delay timeout) connection status requests line
                = (.error p.noAnswer, later)) := by
  induction requests generalizing line with
  | nil => exact ⟨line, .inl ⟨fun _ behind => behind, fun _ _ => rfl⟩⟩
  | cons request others ih =>
      obtain ⟨met, counted, ⟨read, answered⟩ | ⟨still, timedOut⟩⟩ :=
        p.ask_outcome connection delay timeout request line
      · have kept (count : Nat) (behind : line.Behind count) : met.Behind count := by
          unfold Line.Behind at behind ⊢
          omega
        obtain ⟨later, ⟨rest, all⟩ | ⟨rest, failed⟩⟩ := ih met
        · refine ⟨later, .inl ⟨fun count behind => rest count (kept count behind), ?_⟩⟩
          intro answers status
          rw [askAll, answered, decodeFrom, ← read]
          exact all answers _
        · refine ⟨later, .inr ⟨fun count behind => rest count (kept count behind), ?_⟩⟩
          intro answers status
          rw [askAll, answered]
          exact failed answers _
      · refine ⟨met, .inr ⟨?_, fun answers status => by rw [askAll, timedOut]⟩⟩
        intro count behind
        unfold Line.Behind at behind ⊢
        omega

variable {p connection}

/-- A call of a printer that holds a connection. -/
theorem status_outcome (held : p.connection = some connection) (line : Line)
    : ∃ later : Line,
        ((∀ count, line.Behind count → later.Behind count)
          ∧ ∀ answers,
              p.status (Line.network answers delay timeout) line
                = (.ok (statusFrom answers line.read), later))
        ∨ ((∀ count, line.Behind count → later.Behind (count + 1))
          ∧ ∀ answers,
              p.status (Line.network answers delay timeout) line = (.error p.noAnswer, later)) := by
  obtain ⟨later, ⟨rest, all⟩ | ⟨rest, failed⟩⟩ :=
    p.askAll_outcome connection delay timeout StatusRequest.all line
  · refine ⟨later, .inl ⟨rest, fun answers => ?_⟩⟩
    simp only [status, held]
    exact all answers _
  · refine ⟨later, .inr ⟨rest, fun answers => ?_⟩⟩
    simp only [status, held]
    exact failed answers _

/-- A call that succeeds reads the answers that are next, and would do so whatever they were. -/
theorem status_of_isOk (held : p.connection = some connection) {line : Line}
    {answers : Nat → UInt8}
    (ok : (p.status (Line.network answers delay timeout) line).1.isOk = true)
    (others : Nat → UInt8)
    : (p.status (Line.network others delay timeout) line).1
      = .ok (statusFrom others line.read) := by
  obtain ⟨later, ⟨_, all⟩ | ⟨_, lost⟩⟩ := status_outcome delay timeout held line
  · rw [all others]
  · rw [lost answers] at ok
    cases ok

/-- Calls one after the other, each after a pause: what they return, and what they leave. -/
def statuses (t : Transport Line) (p : NetworkPrinter)
    : List Nat → Line → List (Except Fault Status) × Line
  | [], line => ([], line)
  | pause :: pauses, line =>
    let call := p.status t (line.pause pause)
    let rest := statuses t p pauses call.2
    (call.1 :: rest.1, rest.2)

def failures (results : List (Except Fault Status)) : Nat :=
  results.countP fun result => !result.isOk

/-- Every call that fails leaves one answer more to be read, and no call makes up for it. The
induction is over the calls. -/
theorem statuses_outcome (held : p.connection = some connection) (pauses : List Nat) (line : Line)
    : ∃ later failed,
        (∀ count, line.Behind count → later.Behind (count + failed))
        ∧ ∀ answers,
            (p.statuses (Line.network answers delay timeout) pauses line).2 = later
            ∧ failures (p.statuses (Line.network answers delay timeout) pauses line).1 = failed := by
  induction pauses generalizing line with
  | nil => exact ⟨line, 0, fun _ behind => behind, fun _ => ⟨rfl, rfl⟩⟩
  | cons pause pauses ih =>
      obtain ⟨met, ⟨kept, all⟩ | ⟨more, lost⟩⟩ :=
        status_outcome delay timeout held (line.pause pause)
      · obtain ⟨later, failed, rest, run⟩ := ih met
        refine ⟨later, failed, fun count behind => rest count (kept count behind), ?_⟩
        intro answers
        simp only [statuses, all answers]
        exact run answers
      · obtain ⟨later, failed, rest, run⟩ := ih met
        refine ⟨later, failed + 1, ?_, ?_⟩
        · intro count behind
          have after := rest (count + 1) (more count behind)
          unfold Line.Behind at after ⊢
          omega
        · intro answers
          simp only [statuses, lost answers, failures, List.countP_cons]
          exact ⟨(run answers).1, congrArg (· + 1) (run answers).2⟩

-----------------------------------------------------------------------------------------
-- Which answers a call reads
-----------------------------------------------------------------------------------------

/-- Whether the printer is offline is told by the answer that is read for the first request. -/
theorem offline_statusFrom (answers : Nat → UInt8) (first : Nat)
    : (statusFrom answers first).offline = (answers first).toNat.testBit 3 := by
  simp [statusFrom, decodeFrom, StatusRequest.all, decoder, StatusDecoder.epson,
    StatusDecoder.bit, Status.offline, Status.flag, Status.get?, Status.merge, Keyed.get?_merge,
    Status.ofFlags, Status.setFlag, Status.set, Status.empty, Keyed.get?_insert,
    Status.offlineField, Status.notOpenField]

/-- No two places in the order of the answers give the same status whatever the answers are. -/
theorem exists_statusFrom_ne {first second : Nat} (before : first < second)
    : ∃ answers, statusFrom answers first ≠ statusFrom answers second := by
  refine ⟨fun number => if number < second then 0x08 else 0x00, fun same => ?_⟩
  have told := congrArg Status.offline same
  rw [offline_statusFrom, offline_statusFrom, if_pos before, if_neg (Nat.lt_irrefl _)] at told
  exact absurd told (by decide)

/-- A call after any calls on one connection to a device that answers every request. A call that
succeeds has read four answers in a row, but from as many answers back as calls have failed before it.
So it reads the answers to its own requests, whatever they are, exactly if no call has failed before
it. -/
theorem status_reads_own_answers_iff (held : p.connection = some connection) (pauses : List Nat)
    (pause : Nat)
    : let net := fun answers => Line.network answers delay timeout
      let before := fun answers => p.statuses (net answers) pauses {}
      let call := fun answers => p.status (net answers) ((before answers).2.pause pause)
      (∀ answers status,
        (call answers).1 = .ok status →
        failures (before answers).1 ≤ (before answers).2.asked
        ∧ status = statusFrom answers ((before answers).2.asked - failures (before answers).1))
      ∧ ((∀ answers status,
            (call answers).1 = .ok status →
            status = statusFrom answers (before answers).2.asked)
          ↔ ∀ answers status, (call answers).1 = .ok status → failures (before answers).1 = 0) := by
  intro net before call
  obtain ⟨line, failed, lag, run⟩ := statuses_outcome delay timeout held pauses {}
  have behind : line.asked = line.read + failed := by
    simpa [Line.Behind] using lag 0 rfl
  -- Which calls fail is the same for all answers, so a call can be asked what it would have read if
  -- the answers were others.
  have reads (answers others : Nat → UInt8) (status : Status)
      (ok : (call answers).1 = .ok status)
      : (call others).1 = .ok (statusFrom others line.read) := by
    simp only [call, before, net, (run _).1] at ok ⊢
    exact status_of_isOk delay timeout held (by rw [ok]; rfl) others
  have back (answers : Nat → UInt8) (status : Status) (ok : (call answers).1 = .ok status)
      : status = statusFrom answers line.read :=
    Except.ok.inj (ok.symm.trans (reads answers answers status ok))
  simp only [before, net, (run _).1, (run _).2]
  refine ⟨?_, ?_, ?_⟩
  · intro answers status ok
    rw [back answers status ok, behind, Nat.add_sub_cancel]
    exact ⟨Nat.le_add_left _ _, rfl⟩
  · intro own answers status ok
    rcases Nat.eq_zero_or_pos failed with none | some
    · exact none
    · obtain ⟨others, different⟩ :=
        exists_statusFrom_ne (show line.read < line.asked by omega)
      exact absurd (own others _ (reads answers others status ok)) different
  · intro none answers status ok
    rw [back answers status ok, behind, none answers status ok, Nat.add_zero]

/-- Witness: the second of two calls in time reads its own answers. -/
theorem status_reads_own_answers_in_time
    : let p : NetworkPrinter :=
        { name := "bar", address := .v4 127 0 0 1 9100, isOpen := true, connection := some 0 }
      let net := fun answers => Line.network answers (fun _ => 20) 5000
      let before := fun answers => p.statuses (net answers) [0] {}
      p.connection = some 0
      ∧ ∀ answers status,
          (p.status (net answers) ((before answers).2.pause 1000)).1 = .ok status →
          status = statusFrom answers (before answers).2.asked := by
  intro p net before
  have held : p.connection = some 0 := rfl
  refine ⟨held, ?_⟩
  refine (status_reads_own_answers_iff (fun _ => 20) 5000 held [0] 1000).2.mpr ?_
  intro answers status _
  rfl

/-- The first answer takes longer than the printer waits for it. The second call succeeds and takes
that answer for its own, so the printer counts as offline when the device says that it is not. -/
theorem status_reads_late_answer
    : let p : NetworkPrinter :=
        { name := "bar", address := .v4 127 0 0 1 9100, isOpen := true, connection := some 0 }
      let answers : Nat → UInt8 := fun number => if number = 0 then 0x1A else 0x12
      let net := Line.network answers (fun number => if number = 0 then 6000 else 0) 5000
      let before := p.statuses net [0] {}
      ∃ status,
        (p.status net (before.2.pause 1000)).1 = .ok status
        ∧ status.offline = true
        ∧ (statusFrom answers before.2.asked).offline = false := by
  intro p answers net before
  have held : p.connection = some 0 := rfl
  have ok : (p.status net (before.2.pause 1000)).1.isOk = true := by decide
  have read : (before.2.pause 1000).read = 0 := rfl
  have asked : before.2.asked = 1 := rfl
  refine ⟨_, status_of_isOk _ _ held ok answers, ?_, ?_⟩
  · rw [offline_statusFrom, read]
    decide
  · rw [offline_statusFrom, asked]
    decide

end NetworkPrinter

end ReceiptFleet
