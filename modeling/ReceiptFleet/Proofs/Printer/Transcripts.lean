import ReceiptFleet.Printer.Network

/-!
Calls of a network printer, one after the other, and what they do on the network. A printer counts as open
exactly while it holds a connection. Whatever becomes of the calls, those whose writes succeed leave on each
connection the jobs that were executed and the requests that were made while it was held, in their order.
-/

namespace ReceiptFleet

variable {ω : Type}

-----------------------------------------------------------------------------------------
-- Deeds
-----------------------------------------------------------------------------------------

/-- A deed on a network, with what came of it. -/
inductive Transport.Deed where
  | connecting (outcome : Connecting)
  | sending (connection : Nat) (bytes : List UInt8) (outcome : Except String Unit)
  | receiving (connection : Nat) (outcome : Receiving)
  | shuttingDown (connection : Nat) (outcome : Except String Unit)
  | releasing (connection : Nat)

open Transport (Deed)

/-- The network with a note of all that is done on it, the latest last. -/
def Transport.noted (t : Transport ω) : Transport (ω × List Deed) where
  connect address w :=
    let (outcome, after) := t.connect address w.1
    (outcome, after, w.2 ++ [.connecting outcome])
  send connection bytes w :=
    let (outcome, after) := t.send connection bytes w.1
    (outcome, after, w.2 ++ [.sending connection bytes outcome])
  receive connection w :=
    let (outcome, after) := t.receive connection w.1
    (outcome, after, w.2 ++ [.receiving connection outcome])
  shutDown connection w :=
    let (outcome, after) := t.shutDown connection w.1
    (outcome, after, w.2 ++ [.shuttingDown connection outcome])
  release connection w := (t.release connection w.1, w.2 ++ [.releasing connection])

namespace Transport.Deed

/-- The bytes that a deed has sent on a connection. -/
def sentOn (connection : Nat) : Deed → List UInt8
  | .sending other bytes (.ok ()) => if other = connection then bytes else []
  | _ => []

/-- Whether a deed is a write that failed. -/
def failsToSend : Deed → Bool
  | .sending _ _ (.error _) => true
  | _ => false

/-- What came of a wait for an answer. -/
def received? : Deed → Option Receiving
  | .receiving _ outcome => some outcome
  | _ => none

end Transport.Deed

/-- Whether a byte came. -/
def Receiving.isByte : Receiving → Bool
  | .byte _ => true
  | _ => false

/-- How many waits were answered before the first one that was not. -/
def answeredIn (deeds : List Deed) : Nat :=
  ((deeds.filterMap Deed.received?).takeWhile Receiving.isByte).length

namespace NetworkPrinter

-----------------------------------------------------------------------------------------
-- Calls
-----------------------------------------------------------------------------------------

/-- A call of a printer. -/
inductive Call where
  | openUp
  | close
  | status
  | execute (job : Job)

/-- Whether a call needs a connection. -/
def Call.needsConnection : Call → Bool
  | .status | .execute _ => true
  | .openUp | .close => false

/-- Makes a call. Of what it returns only a status is more than that it succeeded. -/
def make (t : Transport ω) (p : NetworkPrinter) (w : ω)
    : Call → Except Fault (Option Status) × NetworkPrinter × ω
  | .openUp => ((p.openUp t w).1.map fun _ => none, (p.openUp t w).2)
  | .close => ((p.close t w).1.map fun _ => none, (p.close t w).2)
  | .status => ((p.status t w).1.map some, p, (p.status t w).2)
  | .execute job => ((p.execute t job w).1.map fun _ => none, p, (p.execute t job w).2)

/-- A call that has been made, with the printer before and after it. -/
structure Turn where
  call : Call
  before : NetworkPrinter
  reply : Except Fault (Option Status)
  after : NetworkPrinter

/-- Makes calls, one after the other. -/
def turns (t : Transport ω) (p : NetworkPrinter) (w : ω) : List Call → List Turn
  | [] => []
  | call :: others =>
    let made := p.make t w call
    ⟨call, p, made.1, made.2.1⟩ :: turns t made.2.1 made.2.2 others

/-- Makes calls, one after the other, with a note of the deeds of each. -/
def turnsNoted (t : Transport ω) (p : NetworkPrinter) (w : ω) : List Call → List (Turn × List Deed)
  | [] => []
  | call :: others =>
    let made := p.make t.noted (w, []) call
    (⟨call, p, made.1, made.2.1⟩, made.2.2.2) :: turnsNoted t made.2.1 made.2.2.1 others

/-- What a call sends if all its writes succeed: its job, or the requests up to and including the first
one that is not answered. -/
def Turn.due (turn : Turn) (deeds : List Deed) : List UInt8 :=
  match turn.call with
  | .execute job => job.wireBytes
  | .status => (StatusRequest.all.take (answeredIn deeds + 1)).flatMap StatusRequest.command
  | .openUp | .close => []

-----------------------------------------------------------------------------------------
-- What a call can do
-----------------------------------------------------------------------------------------

/-- A fault other than that there is no connection. -/
def HasOtherFault (fault : Fault) : Prop := ∀ detail, fault ≠ .notOpen detail

/-- Requests that are made in order: each is sent and answered, up to one that is not, or that cannot even
be sent. -/
inductive Asked (connection : Nat) : List StatusRequest → Except Fault Status → List Deed → Prop where
  | finished (status : Status) : Asked connection [] (.ok status) []
  | answered {request others result deeds} (answer : UInt8) (later : Asked connection others result deeds)
    : Asked connection (request :: others) result
        (.sending connection request.command (.ok ()) :: .receiving connection (.byte answer) :: deeds)
  | unanswered {request others outcome fault} (silent : outcome.isByte = false)
    (other : HasOtherFault fault)
    : Asked connection (request :: others) (.error fault)
        [.sending connection request.command (.ok ()), .receiving connection outcome]
  | unsent {request others} (detail : String)
    : Asked connection (request :: others) (.error (.io detail))
        [.sending connection request.command (.error detail)]

/-- All that a call can come to, with its deeds. -/
inductive Turn.Made : Turn → List Deed → Prop where
  | opened (p : NetworkPrinter) (connection : Nat)
    : Made ⟨.openUp, p, .ok none, { p with isOpen := true, connection := some connection }⟩
        (.connecting (.connected connection) :: (p.connection.map .releasing).toList)
  | notOpened (p : NetworkPrinter) (outcome : Connecting)
    (failed : ∀ connection, outcome ≠ .connected connection) (fault : Fault)
    : Made ⟨.openUp, p, .error fault, p⟩ [.connecting outcome]
  | closed {p : NetworkPrinter} {connection : Nat} (held : p.connection = some connection)
    (reply : Except Fault (Option Status)) (outcome : Except String Unit)
    : Made ⟨.close, p, reply, { p with isOpen := false, connection := none }⟩
        [.shuttingDown connection outcome, .releasing connection]
  | notHeld {p : NetworkPrinter} (none : p.connection = none)
    : Made ⟨.close, p, .ok Option.none, { p with isOpen := false, connection := Option.none }⟩ []
  | refused {p : NetworkPrinter} {call : Call} (none : p.connection = none)
    (needed : call.needsConnection = true)
    : Made ⟨call, p, .error p.notOpen, p⟩ []
  | executed {p : NetworkPrinter} {connection : Nat} (held : p.connection = some connection)
    (job : Job)
    : Made ⟨.execute job, p, .ok none, p⟩ [.sending connection job.wireBytes (.ok ())]
  | notExecuted {p : NetworkPrinter} {connection : Nat} (held : p.connection = some connection)
    (job : Job) (detail : String)
    : Made ⟨.execute job, p, .error (.io ("Write failed: " ++ detail)), p⟩
        [.sending connection job.wireBytes (.error detail)]
  | asked {p : NetworkPrinter} {connection : Nat} (held : p.connection = some connection)
    {result : Except Fault Status} {deeds : List Deed}
    (asked : Asked connection StatusRequest.all result deeds)
    : Made ⟨.status, p, result.map some, p⟩ deeds

-----------------------------------------------------------------------------------------
-- What calls do
-----------------------------------------------------------------------------------------

variable (t : Transport ω) (p : NetworkPrinter) (w : ω) (log : List Deed)

/-- What a wait for an answer comes to for a request. -/
def reading (p : NetworkPrinter) : Receiving → Except Fault (List UInt8)
  | .byte b => .ok [b]
  | .ended => .error (.offline p.name)
  | .timedOut => .error (.timeout ("Status timeout: " ++ p.address.text))
  | .failed detail => .error (.io detail)

theorem reading_of_silent {outcome : Receiving} (silent : outcome.isByte = false)
    : ∃ fault, p.reading outcome = .error fault ∧ HasOtherFault fault := by
  cases outcome with
  | byte => cases silent
  | ended | timedOut | failed => exact ⟨_, rfl, nofun⟩

variable {t w} {connection : Nat} {request : StatusRequest} {next after : ω}

theorem ask_of_received {outcome : Receiving}
    (sent : t.send connection request.command w = (.ok (), next))
    (came : t.receive connection next = (outcome, after))
    : p.ask t connection request w = (p.reading outcome, after) := by
  simp only [ask, sent, came]
  cases outcome <;> rfl

theorem ask_of_unsent {detail : String}
    (unsent : t.send connection request.command w = (.error detail, after))
    : p.ask t connection request w = (.error (.io detail), after) := by
  simp only [ask, unsent]

theorem noted_send {bytes : List UInt8} {outcome : Except String Unit}
    (sent : t.send connection bytes w = (outcome, after))
    : t.noted.send connection bytes (w, log)
      = (outcome, after, log ++ [.sending connection bytes outcome]) := by
  simp only [Transport.noted, sent]

theorem noted_receive {outcome : Receiving} (came : t.receive connection w = (outcome, after))
    : t.noted.receive connection (w, log)
      = (outcome, after, log ++ [.receiving connection outcome]) := by
  simp only [Transport.noted, came]

variable (t w)

/-- A request is answered by a byte, or not answered, or it cannot be sent. -/
theorem ask_noted (connection : Nat) (request : StatusRequest)
    : (∃ answer after,
        p.ask t connection request w = (.ok [answer], after)
        ∧ p.ask t.noted connection request (w, log)
          = (.ok [answer], after,
              log ++ [.sending connection request.command (.ok ()),
                .receiving connection (.byte answer)]))
      ∨ (∃ outcome fault after,
          outcome.isByte = false
          ∧ HasOtherFault fault
          ∧ p.ask t connection request w = (.error fault, after)
          ∧ p.ask t.noted connection request (w, log)
            = (.error fault, after,
                log ++ [.sending connection request.command (.ok ()), .receiving connection outcome]))
      ∨ ∃ detail after,
          p.ask t connection request w = (.error (.io detail), after)
          ∧ p.ask t.noted connection request (w, log)
            = (.error (.io detail), after,
                log ++ [.sending connection request.command (.error detail)]) := by
  rcases sent : t.send connection request.command w with ⟨detail | ⟨⟨⟩⟩, next⟩
  case error =>
    exact .inr (.inr ⟨detail, next, p.ask_of_unsent sent, p.ask_of_unsent (noted_send log sent)⟩)
  case ok =>
    rcases came : t.receive connection next with ⟨outcome, after⟩
    have plain := p.ask_of_received sent came
    have noted := p.ask_of_received (noted_send log sent) (noted_receive _ came)
    rw [List.append_assoc, List.singleton_append] at noted
    cases byte : outcome.isByte with
    | true =>
        cases outcome with
        | byte answer => exact .inl ⟨answer, after, plain, noted⟩
        | ended | timedOut | failed => cases byte
    | false =>
        obtain ⟨fault, read, other⟩ := p.reading_of_silent byte
        rw [read] at plain noted
        exact .inr (.inl ⟨outcome, fault, after, byte, other, plain, noted⟩)

/-- Requests in a row, by induction over them. -/
theorem askAll_noted (connection : Nat) (requests : List StatusRequest) (status : Status)
    : ∃ result after deeds,
        p.askAll t connection status requests w = (result, after)
        ∧ p.askAll t.noted connection status requests (w, log) = (result, after, log ++ deeds)
        ∧ Asked connection requests result deeds := by
  induction requests generalizing status w log with
  | nil => exact ⟨.ok status, w, [], rfl, by simp [askAll], .finished status⟩
  | cons request others ih =>
      rcases p.ask_noted t w log connection request with
        ⟨answer, next, plain, noted⟩ | ⟨outcome, fault, after, silent, other, plain, noted⟩
          | ⟨detail, after, plain, noted⟩
      · obtain ⟨result, after, deeds, rest, notedRest, asked⟩ :=
          ih next
            (log ++ [.sending connection request.command (.ok ()),
              .receiving connection (.byte answer)])
            (status.merge (decoder.decode request [answer]))
        refine ⟨result, after, _, ?_, ?_, .answered answer asked⟩
        · simp only [askAll, plain, rest]
        · simp only [askAll, noted, notedRest, List.append_assoc, List.cons_append, List.nil_append]
      · refine ⟨.error fault, after, _, ?_, ?_, .unanswered silent other⟩
        · simp only [askAll, plain]
        · simp only [askAll, noted]
      · refine ⟨.error (.io detail), after, _, ?_, ?_, .unsent detail⟩
        · simp only [askAll, plain]
        · simp only [askAll, noted]

/-- A call on the noted network comes to the same, and what it does is one of what it can do. -/
theorem make_noted (call : Call)
    : ∃ deeds,
        p.make t.noted (w, log) call
          = ((p.make t w call).1, (p.make t w call).2.1, (p.make t w call).2.2, log ++ deeds)
        ∧ Turn.Made ⟨call, p, (p.make t w call).1, (p.make t w call).2.1⟩ deeds := by
  cases call with
  | openUp =>
      rcases met : t.connect p.address w with ⟨connection | _ | detail, next⟩
      case connected =>
        refine ⟨.connecting (.connected connection) :: (p.connection.map .releasing).toList, ?_, ?_⟩
        · cases held : p.connection <;>
            simp [make, openUp, Transport.noted, met, held]
        · simp only [make, openUp, met]
          exact .opened p connection
      case timedOut =>
        refine ⟨[.connecting .timedOut], ?_, ?_⟩
        · simp only [make, openUp, Transport.noted, met]
        · simp only [make, openUp, met]
          exact .notOpened p .timedOut nofun _
      case refused =>
        refine ⟨[.connecting (.refused detail)], ?_, ?_⟩
        · simp only [make, openUp, Transport.noted, met]
        · simp only [make, openUp, met]
          exact .notOpened p (.refused detail) nofun _
  | close =>
      cases held : p.connection with
      | none =>
          refine ⟨[], ?_, ?_⟩
          · simp only [make, close, held, List.append_nil]
          · simp only [make, close, held]
            exact .notHeld held
      | some connection =>
          refine
            ⟨[.shuttingDown connection (t.shutDown connection w).1, .releasing connection], ?_, ?_⟩
          all_goals rcases shut : t.shutDown connection w with ⟨detail | ⟨⟨⟩⟩, next⟩
          · simp [make, close, Transport.noted, held, shut]
          · simp [make, close, Transport.noted, held, shut]
          · simp only [make, close, held, shut]
            exact .closed held _ _
          · simp only [make, close, held, shut]
            exact .closed held _ _
  | status =>
      cases held : p.connection with
      | none =>
          refine ⟨[], ?_, ?_⟩
          · simp only [make, status, held, List.append_nil]
          · simp only [make, status, held]
            exact .refused held rfl
      | some connection =>
          obtain ⟨result, after, deeds, plain, noted, asked⟩ :=
            p.askAll_noted t w log connection StatusRequest.all
              (Status.empty.setFlag Status.notOpenField false)
          refine ⟨deeds, ?_, ?_⟩
          · simp only [make, status, held, plain, noted]
          · simp only [make, status, held, plain]
            exact .asked held asked
  | execute job =>
      cases held : p.connection with
      | none =>
          refine ⟨[], ?_, ?_⟩
          · simp only [make, execute, held, List.append_nil]
          · simp only [make, execute, held]
            exact .refused held rfl
      | some connection =>
          rcases sent : t.send connection job.wireBytes w with ⟨detail | ⟨⟨⟩⟩, next⟩
          case error =>
            refine ⟨[.sending connection job.wireBytes (.error detail)], ?_, ?_⟩
            · simp only [make, execute, Transport.noted, held, sent]
            · simp only [make, execute, held, sent]
              exact .notExecuted held job detail
          case ok =>
            refine ⟨[.sending connection job.wireBytes (.ok ())], ?_, ?_⟩
            · simp only [make, execute, Transport.noted, held, sent]
            · simp only [make, execute, held, sent]
              exact .executed held job

variable {t p w}

/-- The printer counts as open exactly if it holds a connection. -/
def InStep (p : NetworkPrinter) : Prop := p.isOpen = p.connection.isSome

theorem Turn.Made.inStep {turn : Turn} {deeds : List Deed} (made : turn.Made deeds)
    (before : turn.before.InStep)
    : turn.after.InStep := by
  cases made with
  | opened | closed | notHeld => rfl
  | notOpened | refused | executed | notExecuted | asked => exact before

/-- Calls that are made one after the other are made as they would be without notes, and each of them does
what it can do, on a printer that is open if it holds a connection. The induction is over the calls. -/
theorem turnsNoted_made (inStep : p.InStep) (calls : List Call)
    : (p.turnsNoted t w calls).map Prod.fst = p.turns t w calls
      ∧ ∀ turn ∈ p.turnsNoted t w calls, turn.1.before.InStep ∧ turn.1.Made turn.2 := by
  induction calls generalizing p w with
  | nil => exact ⟨rfl, fun _ nowhere => absurd nowhere List.not_mem_nil⟩
  | cons call others ih =>
      obtain ⟨deeds, noted, made⟩ := p.make_noted t w [] call
      obtain ⟨same, each⟩ := ih (made.inStep inStep)
      simp only [turnsNoted, turns, noted, List.nil_append, List.map_cons, List.forall_mem_cons]
      exact ⟨congrArg _ same, ⟨inStep, made⟩, each⟩

-----------------------------------------------------------------------------------------
-- What is sent
-----------------------------------------------------------------------------------------

/-- Whether all writes among some deeds have succeeded. -/
def succeedsToSend (deeds : List Deed) : Bool := deeds.all (!·.failsToSend)

/-- The bytes that deeds have sent on a connection. -/
def sentIn (connection : Nat) (deeds : List Deed) : List UInt8 := deeds.flatMap (Deed.sentOn connection)

/-- A single request that is not answered. -/
theorem answeredIn_unanswered {outcome : Receiving} (silent : outcome.isByte = false) (connection : Nat)
    (bytes : List UInt8)
    : answeredIn [.sending connection bytes (.ok ()), .receiving connection outcome] = 0 := by
  simp [answeredIn, List.filterMap_cons, Deed.received?, silent]

variable {connection : Nat} {requests : List StatusRequest} {result : Except Fault Status}
  {deeds : List Deed}

/-- Requests return a status exactly if all of them are answered. -/
theorem Asked.isOk_iff (asked : Asked connection requests result deeds)
    : result.isOk = true ↔ answeredIn deeds = requests.length := by
  induction asked with
  | finished status => exact ⟨fun _ => rfl, fun _ => rfl⟩
  | answered answer later ih => exact ih.trans Nat.succ_inj.symm
  | unanswered silent =>
      rw [answeredIn_unanswered silent]
      exact ⟨nofun, nofun⟩
  | unsent detail => exact ⟨nofun, nofun⟩

/-- Requests that can be sent are sent up to the first one that is not answered. -/
theorem Asked.sent (asked : Asked connection requests result deeds)
    (succeeds : succeedsToSend deeds = true) (other : Nat)
    : sentIn other deeds
      = if connection = other then
          (requests.take (answeredIn deeds + 1)).flatMap StatusRequest.command
        else [] := by
  induction asked with
  | finished status => simp [sentIn]
  | @answered request others _ deeds answer later ih =>
      have all
          : (request :: others).take (answeredIn deeds + 1 + 1)
            = request :: others.take (answeredIn deeds + 1) :=
        List.take_succ_cons
      have split
          : sentIn other
              (.sending connection request.command (.ok ())
                :: .receiving connection (.byte answer) :: deeds)
            = (if connection = other then request.command else []) ++ sentIn other deeds :=
        rfl
      have counted
          : answeredIn
              (.sending connection request.command (.ok ())
                :: .receiving connection (.byte answer) :: deeds)
            = answeredIn deeds + 1 :=
        rfl
      rw [split, counted, all, ih succeeds, List.flatMap_cons]
      split <;> rfl
  | unanswered silent =>
      rw [answeredIn_unanswered silent]
      simp only [sentIn, Deed.sentOn, List.flatMap_cons, List.flatMap_nil, List.append_nil, Nat.zero_add,
        List.take_succ_cons, List.take_zero]
  | unsent detail => cases succeeds

/-- A call whose writes succeed sends what it should, on the connection that is held. -/
theorem Turn.Made.sent {turn : Turn} (made : turn.Made deeds) (succeeds : succeedsToSend deeds = true)
    (connection : Nat)
    : sentIn connection deeds
      = if turn.before.connection = some connection then turn.due deeds else [] := by
  cases made with
  | opened p other => cases held : p.connection <;> simp [sentIn, due, Deed.sentOn]
  | notOpened | closed | notHeld => simp [sentIn, due, Deed.sentOn]
  | refused none => simp [sentIn, none]
  | executed held job => simp [sentIn, due, held, Deed.sentOn]
  | notExecuted => cases succeeds
  | asked held asked =>
      simp only [due, held, Option.some.injEq]
      exact asked.sent succeeds connection

theorem Asked.hasOtherFault (asked : Asked connection requests result deeds) {fault : Fault}
    (failed : result = .error fault)
    : HasOtherFault fault := by
  induction asked with
  | finished => cases failed
  | answered _ _ ih => exact ih failed
  | unanswered _ other =>
      cases failed
      exact other
  | unsent =>
      cases failed
      nofun

/-- A call that needs a connection says that there is none exactly if none is held. -/
theorem Turn.Made.notOpen_iff {turn : Turn} (made : turn.Made deeds)
    (needed : turn.call.needsConnection = true)
    : (∃ detail, turn.reply = .error (.notOpen detail)) ↔ turn.before.connection = none := by
  cases made with
  | opened | notOpened | closed | notHeld => cases needed
  | refused none => exact ⟨fun _ => none, fun _ => ⟨_, rfl⟩⟩
  | executed held => simp [held]
  | notExecuted held => simp [held]
  | @asked p _ held result _ asked =>
      simp only [held, reduceCtorEq, iff_false, not_exists]
      intro detail failed
      cases result with
      | ok status => cases failed
      | error fault =>
          exact asked.hasOtherFault rfl detail (Except.error.inj failed)

/-- A call that needs a connection does nothing without one, and never changes the printer. -/
theorem Turn.Made.of_needed {turn : Turn} (made : turn.Made deeds)
    (needed : turn.call.needsConnection = true)
    : turn.after = turn.before ∧ (turn.before.connection = none → deeds = []) := by
  cases made with
  | opened | notOpened | closed | notHeld => cases needed
  | refused => exact ⟨rfl, fun _ => rfl⟩
  | executed held | notExecuted held | asked held =>
      exact ⟨rfl, fun none => nomatch held.symm.trans none⟩

/-- An opening first of all connects, and what comes of that decides on the rest. -/
theorem Turn.Made.of_openUp {turn : Turn} (made : turn.Made deeds) (opens : turn.call = .openUp)
    : (∀ fault, turn.reply = .error fault → turn.after = turn.before)
      ∧ (∀ told, turn.reply = .ok told →
          ∃ connection,
            turn.after.connection = some connection
            ∧ .connecting (.connected connection) ∈ deeds)
      ∧ ∃ outcome others,
          deeds = .connecting outcome :: others
          ∧ ∀ connection, outcome = .connected connection →
              turn.reply = .ok none ∧ turn.after.connection = some connection := by
  cases made with
  | opened p connection =>
      refine ⟨nofun, fun _ _ => ⟨connection, rfl, List.mem_cons_self⟩, _, _, rfl, ?_⟩
      rintro _ ⟨⟩
      exact ⟨rfl, rfl⟩
  | notOpened p outcome failed fault =>
      exact ⟨fun _ _ => rfl, nofun, _, _, rfl, fun connection same => absurd same (failed connection)⟩
  | @refused _ call _ needed =>
      obtain rfl : call = .openUp := opens
      cases needed
  | closed | notHeld | executed | notExecuted | asked => cases opens

theorem Turn.Made.of_close {turn : Turn} (made : turn.Made deeds) (closes : turn.call = .close)
    : turn.after.connection = none
      ∧ ∀ connection, turn.before.connection = some connection → .releasing connection ∈ deeds := by
  cases made with
  | closed held =>
      refine ⟨rfl, fun connection same => ?_⟩
      obtain rfl := Option.some.inj (held.symm.trans same)
      simp
  | notHeld none => exact ⟨rfl, fun connection held => by simp [none] at held⟩
  | @refused _ call _ needed =>
      obtain rfl : call = .close := closes
      cases needed
  | opened | notOpened | executed | notExecuted | asked => cases closes

/-- A status is returned exactly if all requests are answered, and then all of them are sent. -/
theorem Turn.Made.of_status {turn : Turn} (made : turn.Made deeds) (asks : turn.call = .status)
    (held : turn.before.connection ≠ none)
    : (turn.reply.isOk = true ↔ answeredIn deeds = StatusRequest.all.length)
      ∧ (turn.reply.isOk = true → turn.due deeds = StatusRequest.all.flatMap StatusRequest.command) := by
  cases made with
  | refused none => exact absurd none held
  | @asked p _ _ result _ asked =>
      have same : (result.map some).isOk = result.isOk := by cases result <;> rfl
      rw [same, asked.isOk_iff]
      refine ⟨Iff.rfl, fun all => ?_⟩
      rw [due, all]
      rfl
  | opened | notOpened | closed | notHeld | executed | notExecuted => cases asks

/-- What calls whose writes succeed send on a connection is what those of them should that have held it, by
induction over the calls. -/
theorem sentIn_of_made {made : List (Turn × List Deed)} (each : ∀ turn ∈ made, turn.1.Made turn.2)
    (connection : Nat)
    : ((made.filter fun turn => succeedsToSend turn.2).flatMap fun turn => sentIn connection turn.2)
      = (made.filter fun turn =>
          succeedsToSend turn.2 && turn.1.before.connection == some connection).flatMap
          fun turn => turn.1.due turn.2 := by
  induction made with
  | nil => rfl
  | cons first others ih =>
      obtain ⟨here, later⟩ := List.forall_mem_cons.mp each
      rw [List.filter_cons, List.filter_cons]
      cases succeeds : succeedsToSend first.2 with
      | false => exact ih later
      | true =>
          have sent := here.sent succeeds connection
          by_cases held : first.1.before.connection = some connection
          · rw [if_pos held] at sent
            simp [held, sent, ih later]
          · rw [if_neg held] at sent
            simp [held, sent, ih later]

/-- Calls of a new printer on any network, one after the other. The printer counts as open after each call
if it holds a connection: an opening connects, and if it is given a connection it succeeds and holds that
one, while an opening that fails leaves the printer as it was; a closing gives up the connection whatever
comes of it; and a status or an execution keeps it. These two say that there is none exactly if none is
held, and do nothing then. On each connection, the calls whose writes succeed have sent in their
order the jobs that were executed and, for each status, the requests up to and including the first one
that was not answered, which are all four if a status was returned. -/
theorem calls_keep_in_step (t : Transport ω) (w : ω) (name : String) (address : Printer.Address)
    (width : Nat) (calls : List Call)
    : let p : NetworkPrinter := { name, address, width }
      let made := p.turnsNoted t w calls
      made.map Prod.fst = p.turns t w calls
      ∧ (∀ turn deeds, (turn, deeds) ∈ made →
          turn.after.isOpen = turn.after.connection.isSome
          ∧ (turn.call = .openUp →
              (∀ fault, turn.reply = .error fault → turn.after = turn.before)
              ∧ (∀ told, turn.reply = .ok told →
                  ∃ connection,
                    turn.after.connection = some connection
                    ∧ .connecting (.connected connection) ∈ deeds)
              ∧ ∃ outcome others,
                  deeds = .connecting outcome :: others
                  ∧ ∀ connection, outcome = .connected connection →
                      turn.reply = .ok none ∧ turn.after.connection = some connection)
          ∧ (turn.call = .close →
              turn.after.connection = none
              ∧ ∀ connection,
                  turn.before.connection = some connection → .releasing connection ∈ deeds)
          ∧ (turn.call.needsConnection = true →
              turn.after = turn.before
              ∧ ((∃ detail, turn.reply = .error (.notOpen detail))
                  ↔ turn.before.connection = none)
              ∧ (turn.before.connection = none → deeds = []))
          ∧ (turn.call = .status →
              turn.before.connection ≠ none →
              (turn.reply.isOk = true ↔ answeredIn deeds = StatusRequest.all.length)
              ∧ (turn.reply.isOk = true →
                  turn.due deeds = StatusRequest.all.flatMap StatusRequest.command)))
      ∧ ∀ connection,
          ((made.filter fun turn => succeedsToSend turn.2).flatMap fun turn =>
              sentIn connection turn.2)
            = (made.filter fun turn =>
                succeedsToSend turn.2 && turn.1.before.connection == some connection).flatMap
                fun turn => turn.1.due turn.2 := by
  intro p made
  obtain ⟨same, each⟩ := turnsNoted_made (t := t) (w := w) (show p.InStep from rfl) calls
  refine ⟨same, ?_, sentIn_of_made fun turn among => (each turn among).2⟩
  intro turn deeds among
  obtain ⟨inStep, done⟩ := each _ among
  refine ⟨done.inStep inStep, done.of_openUp, done.of_close, ?_, done.of_status⟩
  intro needed
  obtain ⟨kept, idle⟩ := done.of_needed needed
  exact ⟨kept, done.notOpen_iff needed, idle⟩

end NetworkPrinter

end ReceiptFleet
