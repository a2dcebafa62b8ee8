import ReceiptFleet.Proofs.Fleet.Journals
import ReceiptFleet.Proofs.Fleet.Registrations

/-!
The snapshots of a fleet. In every order of steps they are what is known of the printers after each status that
is accepted: the last snapshot with the new status, less the printers that were removed in between.
-/

namespace ReceiptFleet.Fleet

-----------------------------------------------------------------------------------------
-- The journal of a run
-----------------------------------------------------------------------------------------

/-- The name that a move removes: that of a removal which begins and finds its printer. -/
def removal? (f : Fleet) : Move → Option String
  | .call number _ =>
    match f.calls[number]? with
    | some ⟨.remove name, .asked⟩ => if f.registry.entries.contains name then some name else none
    | _ => none
  | _ => none

/-- The changes that reports make: those that are accepted. -/
def accepted (reports : List Report) : List Change :=
  (reports.filter (·.accepted)).map fun report => .published report.registration.name report.status

/-- The changes that a move makes. -/
def changesIn (f : Fleet) (move : Move) : List Change :=
  accepted (f.reports move) ++ (f.removal? move).toList.map .removed

/-- The changes in the moves of a run. -/
def journal (f : Fleet) : List Move → List Change
  | [] => []
  | move :: others =>
    f.changesIn move ++ match f.step move with
      | some g => g.journal others
      | none => []

-----------------------------------------------------------------------------------------
-- What a step does
-----------------------------------------------------------------------------------------

/-- What a step does to the statuses and the snapshots of a registry, with the changes that it makes. -/
inductive Changed (r r' : Registry) : List Change → Prop
  | quiet (statuses : r'.statuses = r.statuses) (sent : r'.sent = r.sent) : Changed r r' []
  | published {name status} (statuses : r'.statuses = r.statuses.insert name status)
    (sent : r'.sent = r'.statuses :: r.sent)
    : Changed r r' [.published name status]
  | removed {name} (statuses : r'.statuses = r.statuses.erase name) (sent : r'.sent = r.sent)
    : Changed r r' [.removed name]

@[simp] theorem Registry.sent_announce {r : Registry} {registration : Registration}
    : (r.announce registration).sent = r.sent := by
  rw [announce]
  split <;> rfl

/-- What a poller tells changes the registry by what is accepted of it. -/
theorem Told.changed {p q : Poller} {r r' : Registry} {reports : List Report}
    (told : Told p r q r' reports)
    : Changed r r' (accepted reports) := by
  cases told with
  | silent _ _ => exact .quiet rfl rfl
  | announced _ _ => exact .quiet Registry.statuses_announce Registry.sent_announce
  | refused _ _ _ => exact .quiet rfl rfl
  | published _ _ inForce =>
      refine .published ?_ ?_
      · exact Registry.statuses_publish inForce _
      · rw [Registry.publish, inForce]

/-- A stage of a call that takes no entry is nothing to the registry. -/
theorem Called.registry_eq {f g : Fleet} {number : Nat} {c : Call} {outcome : Except Fault Unit}
    (going : Called f number c outcome g)
    (other : ∀ name, ¬ (c.progress = .asked ∧ c.request = .remove name))
    : g.registry = f.registry := by
  cases going with
  | taken asked request _ => exact absurd ⟨asked, request⟩ (other _)
  | refused | bound | cancels | queues | begins | closed | executed | returns => rfl

/-- A call changes the registry by the name that it removes. -/
theorem stepCall_changed {f g : Fleet} {number : Nat} {outcome : Except Fault Unit}
    (step : f.stepCall number outcome = some g)
    : Changed f.registry g.registry ((f.removal? (.call number outcome)).toList.map .removed) := by
  obtain ⟨⟨request, progress⟩, called, going⟩ := stepCall_called step
  by_cases removal : ∃ name, progress = .asked ∧ request = .remove name
  · obtain ⟨name, rfl, rfl⟩ := removal
    simp only [stepCall, called, Option.bind_eq_bind, Option.bind_some, Option.pure_def] at step
    cases step
    cases found : f.registry.entries.get? name with
    | none =>
        simp only [removal?, called, begin, beginRemoval, Keyed.contains, found]
        exact .quiet rfl rfl
    | some entry =>
        simp only [removal?, called, begin, beginRemoval, Keyed.contains, found]
        exact .removed rfl rfl
  · have none : f.removal? (.call number outcome) = none := by
      simp only [removal?, called]
      split
      · rename_i same
        cases same
        exact absurd ⟨_, rfl, rfl⟩ removal
      · rfl
    have same : g.registry = f.registry := going.registry_eq (not_exists.mp removal)
    rw [none, same]
    exact .quiet rfl rfl

theorem step_changed {f g : Fleet} {move : Move} (step : f.step move = some g)
    : Changed f.registry g.registry (f.changesIn move) := by
  cases step_cases step with
  | kept | added | asked | dropped => exact .quiet rfl rfl
  | called _ _ => exact stepCall_changed step
  | polled _ _ told =>
      have reported := told.changed
      rw [← List.append_nil (accepted _)] at reported
      exact reported

-----------------------------------------------------------------------------------------
-- Whole runs
-----------------------------------------------------------------------------------------

/-- The changes of a step are replayed, and the snapshot of what is published is sent. -/
theorem Changed.replayed {r r' : Registry} {changes : List Change} (changed : Changed r r' changes)
    : r'.statuses = r.statuses.replay changes
      ∧ r'.sent.reverse = r.sent.reverse ++ snapshots r.statuses changes := by
  cases changed with
  | quiet statuses sent | removed statuses sent =>
      rw [sent]
      exact ⟨statuses, (List.append_nil _).symm⟩
  | published statuses sent =>
      rw [sent, statuses, List.reverse_cons]
      exact ⟨rfl, rfl⟩

theorem Changed.atMostOne {r r' : Registry} {changes : List Change} (changed : Changed r r' changes)
    : changes = [] ∨ ∃ change, changes = [change] := by
  cases changed with
  | quiet => exact .inl rfl
  | published | removed => exact .inr ⟨_, rfl⟩

/-- What is known after a run, and the snapshots that were sent in it, are those of its journal, by induction
over its moves. -/
theorem run_journal {f g : Fleet} {moves : List Move} (reached : f.run moves = some g)
    : g.registry.statuses = f.registry.statuses.replay (f.journal moves)
      ∧ g.registry.sent.reverse
        = f.registry.sent.reverse ++ snapshots f.registry.statuses (f.journal moves) := by
  induction moves generalizing f with
  | nil =>
      cases reached
      exact ⟨rfl, (List.append_nil _).symm⟩
  | cons move others ih =>
      obtain ⟨next, step, rest⟩ := Option.bind_eq_some_iff.mp reached
      obtain ⟨known, sent⟩ := (step_changed step).replayed
      obtain ⟨later, more⟩ := ih rest
      rw [journal, step, replay_append, snapshots_append, ← known, ← List.append_assoc, ← sent]
      exact ⟨later, more⟩

/-- The journal of a run goes on with that of the fleet that its first part leads to. -/
theorem journal_append {f g : Fleet} {before : List Move} (reached : f.run before = some g)
    (after : List Move)
    : f.journal (before ++ after) = f.journal before ++ g.journal after := by
  induction before generalizing f with
  | nil =>
      cases reached
      rfl
  | cons move others ih =>
      obtain ⟨next, step, rest⟩ := Option.bind_eq_some_iff.mp reached
      rw [List.cons_append, journal, journal, step, List.append_assoc]
      exact congrArg _ (ih rest)

/-- A change of a run is made by one of its moves, by induction over the moves. Each makes one change at most. -/
theorem journal_split {f g : Fleet} {moves : List Move} (reached : f.run moves = some g)
    {earlier later : List Change} {change : Change}
    (split : f.journal moves = earlier ++ change :: later)
    : ∃ before move after between next,
        moves = before ++ move :: after
        ∧ f.run before = some between
        ∧ between.step move = some next
        ∧ between.changesIn move = [change]
        ∧ f.journal before = earlier := by
  induction moves generalizing f earlier with
  | nil => cases List.append_eq_nil_iff.mp split.symm |>.2
  | cons move others ih =>
      obtain ⟨next, step, rest⟩ := Option.bind_eq_some_iff.mp reached
      rw [journal, step] at split
      have further {earlier' : List Change} (more : next.journal others = earlier' ++ change :: later)
          (made : f.changesIn move ++ earlier' = earlier)
          : ∃ before move' after between next,
              move :: others = before ++ move' :: after
              ∧ f.run before = some between
              ∧ between.step move' = some next
              ∧ between.changesIn move' = [change]
              ∧ f.journal before = earlier := by
        obtain ⟨before, move', after, between, last, rfl, ran, step', made', rfl⟩ := ih rest more
        refine ⟨move :: before, move', after, between, last, rfl, ?_, step', made', ?_⟩
        · rw [run, step]
          exact ran
        · rw [journal, step]
          exact made
      rcases (step_changed step).atMostOne with none | ⟨first, one⟩
      · rw [none] at split
        exact further split (by rw [none]; rfl)
      · rw [one] at split
        cases earlier with
        | nil =>
            obtain ⟨rfl, -⟩ := List.cons.inj split
            exact ⟨[], move, others, f, next, rfl, rfl, step, one, rfl⟩
        | cons head earlier =>
            obtain ⟨rfl, more⟩ := List.cons.inj split
            exact further more (by rw [one]; rfl)

/-- The snapshots of a fleet are the statuses right after each publishing of its run. -/
theorem sent_iff {threshold : Nat} {moves : List Move} {f : Fleet}
    (reached : Fleet.run { threshold } moves = some f) {k : Nat} {snapshot : Snapshot}
    : f.registry.sent.reverse[k]? = some snapshot
      ↔ ∃ before move after g h name status,
          moves = before ++ move :: after
          ∧ Fleet.run { threshold } before = some g
          ∧ g.step move = some h
          ∧ g.changesIn move = [.published name status]
          ∧ publishes (Fleet.journal { threshold } before) = k
          ∧ h.registry.statuses = snapshot := by
  have sent : f.registry.sent.reverse = snapshots .empty (Fleet.journal { threshold } moves) :=
    (run_journal reached).2
  have after_eq {g h : Fleet} {before : List Move} {move : Move} {name : String} {status : Status}
      (ran : Fleet.run { threshold } before = some g) (step : g.step move = some h)
      (made : g.changesIn move = [.published name status])
      : h.registry.statuses
        = (Snapshot.replay .empty (Fleet.journal { threshold } before)).insert name status := by
    have known : g.registry.statuses = Snapshot.replay .empty (Fleet.journal { threshold } before) :=
      (run_journal ran).1
    rw [(step_changed step).replayed.1, made, known]
    rfl
  rw [sent]
  constructor
  · intro found
    obtain ⟨earlier, name, status, later, split, rfl, rfl⟩ := exists_publishing found
    obtain ⟨before, move, after, g, h, parts, ran, step, made, rfl⟩ := journal_split reached split
    exact ⟨before, move, after, g, h, name, status, parts, ran, step, made, rfl, after_eq ran step made⟩
  · rintro ⟨before, move, after, g, h, name, status, rfl, ran, step, made, rfl, rfl⟩
    rw [after_eq ran step made, journal_append ran, journal, step, made]
    exact getElem?_snapshots _ _ _ _ _

/-- A snapshot is the last one before it, less the names that were removed in between, with the status that is
published. -/
theorem snapshot_of_published {journal earlier later : List Change} {name : String} {status : Status}
    (split : journal = earlier ++ .published name status :: later)
    : (snapshots .empty journal)[publishes earlier]?
      = some
          (((((snapshots .empty journal).take (publishes earlier)).getLastD .empty).without
            (removedSince earlier)).insert name status) := by
  have before : (snapshots .empty journal).take (publishes earlier) = snapshots .empty earlier := by
    rw [split, snapshots_append, ← length_snapshots .empty earlier, List.take_left]
  rw [before, ← replay_eq_without, split]
  exact getElem?_snapshots _ _ _ _ _

/-- A status that is not superseded stands in what is read last, by a subscriber who had not seen it. -/
theorem read_of_published {journal earlier later : List Change} {name : String} {status : Status}
    (split : journal = earlier ++ .published name status :: later)
    (unchanged : ∀ change ∈ later, change.name ≠ name) {sent : List Snapshot}
    (same : sent.reverse = snapshots .empty journal) {subscription : Subscription} {kept : Nat}
    (keeps : 0 < kept) (unseen : subscription.seen ≤ publishes earlier)
    : ∃ snapshot,
        (subscription.pending kept sent).events.getLast? = some snapshot
        ∧ snapshot.get? name = some status := by
  have own := getElem?_snapshots .empty earlier later name status
  have shown := get?_last_snapshot (split ▸ current_of_published status unchanged)
  rw [← split, ← same] at own
  rw [← same] at shown
  have unread : publishes earlier < sent.length := by
    simpa using (List.getElem?_eq_some_iff.mp own).1
  cases sent with
  | nil => cases unread
  | cons newest older =>
      rw [List.reverse_cons, List.getLastD_concat] at shown
      refine ⟨newest, ?_, shown⟩
      simp only [Subscription.pending, List.getLast?_reverse, List.head?_take, List.head?_cons]
      exact if_neg (by omega)

/-- The snapshots of a fleet, in any order of steps. Each is what is known right after a status is accepted;
it is the last one before it, less the printers that were removed in between, with that status. What is known
at the end is the last one, less the printers that were removed since. Of two of them the later one has seen
every change that the earlier one has seen. A subscriber reads them in order, and without a gap unless it is
further behind than they are kept; a status that is not superseded stands in the last one that it reads. -/
theorem run_snapshots {threshold : Nat} {moves : List Move} {f : Fleet}
    (reached : Fleet.run { threshold } moves = some f)
    : let journal := Fleet.journal { threshold } moves
      let sent := f.registry.sent.reverse
      (∀ k snapshot,
        sent[k]? = some snapshot
        ↔ ∃ before move after g h name status,
            moves = before ++ move :: after
            ∧ Fleet.run { threshold } before = some g
            ∧ g.step move = some h
            ∧ g.changesIn move = [.published name status]
            ∧ publishes (Fleet.journal { threshold } before) = k
            ∧ h.registry.statuses = snapshot)
      ∧ (∀ earlier name status later,
          journal = earlier ++ .published name status :: later
          → sent[publishes earlier]?
            = some
                ((((sent.take (publishes earlier)).getLastD .empty).without
                  (removedSince earlier)).insert name status))
      ∧ f.registry.statuses = (sent.getLastD .empty).without (removedSince journal)
      ∧ (∀ (i j : Nat) (first second : Snapshot),
          i ≤ j
          → sent[i]? = some first
          → sent[j]? = some second
          → ∃ seen more,
              seen ++ more <+: journal
              ∧ ∀ name,
                  first.get? name = current seen name
                  ∧ second.get? name = current (seen ++ more) name)
      ∧ (∀ (subscription : Subscription) kept,
          let reading := subscription.pending kept f.registry.sent
          reading.events = sent.drop (subscription.seen + reading.lost)
          ∧ (sent.length ≤ subscription.seen + kept → reading.lost = 0))
      ∧ (∀ earlier name status later,
          journal = earlier ++ .published name status :: later
          → (∀ change ∈ later, change.name ≠ name)
          → ∀ (subscription : Subscription) kept,
              0 < kept
              → subscription.seen ≤ publishes earlier
              → ∃ snapshot,
                  (subscription.pending kept f.registry.sent).events.getLast? = some snapshot
                  ∧ snapshot.get? name = some status) := by
  intro journal sent
  have same : sent = snapshots .empty journal := (run_journal reached).2
  refine ⟨fun _ _ => sent_iff reached, ?_, ?_, ?_, ?_, ?_⟩
  · intro earlier name status later split
    rw [same]
    exact snapshot_of_published split
  · rw [same, ← replay_eq_without]
    exact (run_journal reached).1
  · intro i j first second order one two
    rw [same] at one two
    obtain ⟨seen, more, within, rfl, rfl⟩ := snapshots_ordered order one two
    exact ⟨seen, more, within, fun name => ⟨get?_replay seen name, get?_replay (seen ++ more) name⟩⟩
  · intro subscription kept reading
    refine ⟨subscription.events_pending kept f.registry.sent, ?_⟩
    intro close
    rw [List.length_reverse] at close
    exact Nat.sub_eq_zero_of_le (Nat.sub_le_iff_le_add'.mpr close)
  · intro earlier name status later split unchanged subscription kept keeps unseen
    exact read_of_published split unchanged same keeps unseen

/-- Witness: two printers report a status; one is removed, registered again and reports anew; then the other one
is removed. -/
theorem run_snapshots_again
    : let bar : Member := ⟨"epson", "bar", 42, .empty⟩
      let kitchen : Member := ⟨"epson", "kitchen", 42, .empty⟩
      let poll (id : Nat) : List Move :=
        [.poller id (.proceed true), .poller id (.proceed true), .poller id (.fetched (.ok .empty))]
      let moves : List Move :=
        [.add bar, .add kitchen] ++ poll 0 ++ poll 1
          ++ [.ask (.remove "bar"), .call 0 (.ok ()), .add bar] ++ poll 2
          ++ [.ask (.remove "kitchen"), .call 1 (.ok ())]
      let status := Status.empty.setFlag Status.notOpenField false
      ∃ f,
        Fleet.run { threshold := 3 } moves = some f
        ∧ f.registry.sent.reverse[2]?
          = some
              ((((f.registry.sent.reverse.take 2).getLastD .empty).without ["bar"]).insert "bar" status)
        ∧ f.registry.statuses = (f.registry.sent.reverse.getLastD .empty).without ["kitchen"] := by
  intro bar kitchen poll moves status
  have runs : (Fleet.run { threshold := 3 } moves).isSome = true := by decide
  obtain ⟨f, reached⟩ := Option.isSome_iff_exists.mp runs
  have journal
      : Fleet.journal { threshold := 3 } moves
        = [.published "bar" status, .published "kitchen" status, .removed "bar",
            .published "bar" status, .removed "kitchen"] := by
    decide
  obtain ⟨-, steps, known, -⟩ := run_snapshots reached
  rw [journal] at steps known
  exact ⟨f, reached, steps [_, _, _] "bar" status [_] rfl, known⟩

end ReceiptFleet.Fleet
