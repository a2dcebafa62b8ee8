import Mathlib.Data.List.Induction
import ReceiptFleet.Fleet.Registry
import ReceiptFleet.Fleet.Subscription

/-!
Journals of the changes of what is known of printers: statuses that are published, and names that are removed.
A journal says what is known in the end and which snapshots are sent, each of them being what is known right
after a status is published.
-/

namespace ReceiptFleet

namespace Keyed

variable {α : Type}

/-- The map without some names. -/
def without (m : Keyed α) (names : List String) : Keyed α := names.foldl erase m

theorem without_concat (m : Keyed α) (names : List String) (name : String)
    : m.without (names ++ [name]) = (m.without names).erase name :=
  List.foldl_append

/-- The values of the other names are left, by induction over the names. -/
theorem get?_without (m : Keyed α) (names : List String) (other : String)
    : (m.without names).get? other = if other ∈ names then none else m.get? other := by
  induction names using List.reverseRecOn with
  | nil => rfl
  | append_singleton names name ih =>
      rw [without_concat, get?_erase, ih]
      by_cases last : other = name
      · simp [last]
      · simp [last]

end Keyed

namespace Fleet

/-- A change of what is known of printers. -/
inductive Change where
  | published (name : String) (status : Status)
  | removed (name : String)
deriving DecidableEq

namespace Change

/-- The name that a change is about. -/
def name : Change → String
  | published name _ => name
  | removed name => name

/-- The status that a change leaves under its name. -/
def status? : Change → Option Status
  | published _ status => some status
  | removed _ => none

end Change

-----------------------------------------------------------------------------------------
-- What a journal says
-----------------------------------------------------------------------------------------

/-- What is known after a change. -/
def Snapshot.after (known : Snapshot) : Change → Snapshot
  | .published name status => known.insert name status
  | .removed name => known.erase name

/-- What is known after the changes of a journal. -/
def Snapshot.replay (known : Snapshot) (journal : List Change) : Snapshot :=
  journal.foldl Snapshot.after known

/-- The snapshots that are sent along a journal: all that is known, after each publishing. -/
def snapshots (known : Snapshot) : List Change → List Snapshot
  | [] => []
  | .published name status :: later =>
    known.insert name status :: snapshots (known.insert name status) later
  | .removed name :: later => snapshots (known.erase name) later

/-- How many statuses are published. -/
def publishes (journal : List Change) : Nat := journal.countP (·.status?.isSome)

/-- The names that were removed since a status was published last. -/
def removedSince (journal : List Change) : List String :=
  journal.foldl (fun names change => match change with
    | .published _ _ => []
    | .removed name => names ++ [name]) []

theorem removedSince_published (journal : List Change) (name : String) (status : Status)
    : removedSince (journal ++ [.published name status]) = [] :=
  List.foldl_append

theorem removedSince_removed (journal : List Change) (name : String)
    : removedSince (journal ++ [.removed name]) = removedSince journal ++ [name] :=
  List.foldl_append

/-- The status that the last change of a name left. -/
def current (journal : List Change) (name : String) : Option Status :=
  ((journal.filter (·.name = name)).getLast?).bind Change.status?

variable {known : Snapshot} {journal : List Change}

theorem replay_append (known : Snapshot) (earlier later : List Change)
    : known.replay (earlier ++ later) = (known.replay earlier).replay later :=
  List.foldl_append

/-- Snapshots are sent part by part, by induction over the first part. -/
theorem snapshots_append (known : Snapshot) (earlier later : List Change)
    : snapshots known (earlier ++ later)
      = snapshots known earlier ++ snapshots (known.replay earlier) later := by
  induction earlier generalizing known with
  | nil => rfl
  | cons change earlier ih =>
      cases change with
      | published name status => exact congrArg (_ :: ·) (ih _)
      | removed name => exact ih _

theorem length_snapshots (known : Snapshot) (journal : List Change)
    : (snapshots known journal).length = publishes journal := by
  induction journal generalizing known with
  | nil => rfl
  | cons change later ih =>
      cases change with
      | published name status =>
          rw [snapshots, List.length_cons, ih, publishes, publishes, List.countP_cons_of_pos rfl]
      | removed name =>
          rw [snapshots, ih, publishes, publishes, List.countP_cons_of_neg]
          exact Bool.false_ne_true

/-- Of every name is known what the last change of it left, by induction over the journal from its end. -/
theorem get?_replay (journal : List Change) (name : String)
    : (Snapshot.replay .empty journal).get? name = current journal name := by
  induction journal using List.reverseRecOn with
  | nil => rfl
  | append_singleton journal change ih =>
      have last
          : current (journal ++ [change]) name
            = if name = change.name then change.status? else current journal name := by
        by_cases same : change.name = name
        · simp [current, same]
        · simp [current, same, Ne.symm same]
      rw [replay_append, last, ← ih]
      cases change with
      | published other status => exact Keyed.get?_insert _ _ _ _
      | removed other => exact Keyed.get?_erase _ _ _

-----------------------------------------------------------------------------------------
-- Snapshots and their order
-----------------------------------------------------------------------------------------

/-- The snapshot of a publishing has its place after those of the earlier ones. -/
theorem getElem?_snapshots (known : Snapshot) (earlier later : List Change) (name : String)
    (status : Status)
    : (snapshots known (earlier ++ .published name status :: later))[publishes earlier]?
      = some ((known.replay earlier).insert name status) := by
  rw [snapshots_append, ← length_snapshots known earlier, List.getElem?_append_right (Nat.le_refl _),
    Nat.sub_self]
  rfl

/-- Every snapshot is that of a publishing, by induction over the journal. -/
theorem exists_publishing {k : Nat} {snapshot : Snapshot}
    (sent : (snapshots known journal)[k]? = some snapshot)
    : ∃ earlier name status later,
        journal = earlier ++ .published name status :: later
        ∧ publishes earlier = k
        ∧ snapshot = (known.replay earlier).insert name status := by
  induction journal generalizing known k with
  | nil => cases sent
  | cons change rest ih =>
      cases change with
      | removed name =>
          obtain ⟨earlier, other, status, later, rfl, rfl, rfl⟩ := ih sent
          refine ⟨.removed name :: earlier, other, status, later, rfl, ?_, rfl⟩
          exact List.countP_cons_of_neg Bool.false_ne_true
      | published name status =>
          cases k with
          | zero =>
              cases sent
              exact ⟨[], name, status, rest, rfl, rfl, rfl⟩
          | succ k =>
              obtain ⟨earlier, other, last, later, rfl, rfl, rfl⟩ := ih sent
              refine ⟨.published name status :: earlier, other, last, later, rfl, ?_, rfl⟩
              exact List.countP_cons_of_pos rfl

/-- What is known is the last snapshot without the names that were removed since, by induction over the
journal from its end. -/
theorem replay_eq_without (known : Snapshot) (journal : List Change)
    : known.replay journal
      = ((snapshots known journal).getLastD known).without (removedSince journal) := by
  induction journal using List.reverseRecOn with
  | nil => rfl
  | append_singleton journal change ih =>
      rw [replay_append, snapshots_append]
      cases change with
      | published name status =>
          rw [removedSince_published, snapshots, snapshots, List.getLastD_concat]
          rfl
      | removed name =>
          rw [removedSince_removed, Keyed.without_concat, snapshots, snapshots, List.append_nil, ← ih]
          rfl

/-- Of two snapshots the later one has seen the changes that the earlier one has seen, and maybe more. -/
theorem snapshots_ordered {i j : Nat} (order : i ≤ j) {first second : Snapshot}
    (one : (snapshots known journal)[i]? = some first)
    (two : (snapshots known journal)[j]? = some second)
    : ∃ seen more,
        seen ++ more <+: journal
        ∧ first = known.replay seen
        ∧ second = known.replay (seen ++ more) := by
  obtain ⟨earlier, name, status, later, rfl, rfl, rfl⟩ := exists_publishing one
  have seen : known.replay (earlier ++ [.published name status])
      = (known.replay earlier).insert name status := replay_append _ _ _
  rw [snapshots_append, List.getElem?_append_right (length_snapshots known earlier ▸ order),
    length_snapshots, snapshots] at two
  refine ⟨earlier ++ [.published name status], ?_⟩
  cases between : j - publishes earlier with
  | zero =>
      rw [between] at two
      cases two
      refine ⟨[], ?_, seen.symm, ?_⟩
      · rw [List.append_nil]
        exact ⟨later, List.append_assoc _ _ _⟩
      · rw [List.append_nil, seen]
  | succ k =>
      rw [between] at two
      obtain ⟨between, other, last, rest, rfl, -, rfl⟩ := exists_publishing two
      refine ⟨between ++ [.published other last], ⟨rest, ?_⟩, seen.symm, ?_⟩
      · simp
      · rw [replay_append, seen, replay_append]
        rfl

-----------------------------------------------------------------------------------------
-- Subscribers
-----------------------------------------------------------------------------------------

/-- A published status is current until its name changes again. -/
theorem current_of_published {earlier later : List Change} {name : String} (status : Status)
    (unchanged : ∀ change ∈ later, change.name ≠ name)
    : current (earlier ++ .published name status :: later) name = some status := by
  have rest : later.filter (·.name = name) = [] := by
    rw [List.filter_eq_nil_iff]
    intro change member
    simpa using unchanged change member
  have itself : (Change.published name status).name = name := rfl
  simp [current, itself, rest, Change.status?]

/-- A current status stands in the last snapshot, since no name is removed after its last status. -/
theorem get?_last_snapshot {name : String} {status : Status}
    (known : current journal name = some status)
    : ((snapshots .empty journal).getLastD .empty).get? name = some status := by
  rw [← get?_replay, replay_eq_without, Keyed.get?_without] at known
  split at known
  · cases known
  · exact known

/-- What is read is all that was sent since, in order, without the oldest that were lost. -/
theorem Subscription.events_pending {α : Type} (subscription : Subscription) (kept : Nat)
    (sent : List α)
    : (subscription.pending kept sent).events
      = sent.reverse.drop (subscription.seen + (subscription.pending kept sent).lost) := by
  simp only [pending, List.reverse_take]
  by_cases behind : subscription.seen ≤ sent.length
  · congr 1
    omega
  · rw [List.drop_eq_nil_of_le, List.drop_eq_nil_of_le] <;> simp <;> omega

end Fleet

end ReceiptFleet
