import ReceiptFleet.Proofs.Fleet.Steps

/-!
Registrations of a fleet. In every order of steps the status under a name is that of the
registration in force, which its poller remembers, and a registration that is no longer in force
has nothing to say.
-/

namespace ReceiptFleet.Fleet

-----------------------------------------------------------------------------------------
-- Registrations in force
-----------------------------------------------------------------------------------------

/-- A registration is in force while the entry under its name has its number. -/
def Registry.InForce (r : Registry) (registration : Registration) : Prop :=
  ∃ member, r.entries.get? registration.name = some ⟨registration.id, member⟩

namespace Registry

variable {r : Registry} {registration : Registration}

theorem get?_of_member? {member : Member} (found : r.member? registration = some member)
    : r.entries.get? registration.name = some ⟨registration.id, member⟩ := by
  simp only [member?] at found
  split at found
  · cases found
  · split at found
    · rename_i entry known
      split at found
      · rename_i same
        cases found
        rw [known, ← same]
      · cases found
    · cases found

theorem member?_of_stale (stale : ¬ r.InForce registration) : r.member? registration = none := by
  cases found : r.member? registration with
  | none => rfl
  | some member => exact absurd ⟨member, get?_of_member? found⟩ stale

@[simp] theorem entries_publish (status : Status)
    : (r.publish registration status).2.entries = r.entries := by
  rw [publish]
  split <;> rfl

@[simp] theorem entries_announce : (r.announce registration).entries = r.entries := by
  rw [announce]
  split <;> rfl

@[simp] theorem statuses_announce : (r.announce registration).statuses = r.statuses := by
  rw [announce]
  split <;> rfl

theorem statuses_publish {member : Member} (found : r.member? registration = some member)
    (status : Status)
    : (r.publish registration status).2.statuses
      = r.statuses.insert registration.name status := by
  rw [publish, found]

/-- A registration that is not in force is refused, and changes nothing. -/
theorem publish_of_stale (stale : ¬ r.InForce registration) (status : Status)
    : r.publish registration status = (false, r) ∧ r.announce registration = r := by
  rw [publish, announce, member?_of_stale stale]
  exact ⟨rfl, rfl⟩

/-- A forgotten name has no registration in force. -/
theorem not_inForce_forget (r : Registry) (name : String) (id : Nat)
    : ¬ (r.forget name).InForce ⟨name, id⟩ := by
  rintro ⟨member, found⟩
  rw [forget, Keyed.get?_erase, if_pos rfl] at found
  cases found

end Registry

namespace Told

variable {p q : Poller} {r r' : Registry} {reports : List Report}

/-- A poller that goes on keeps its registration. -/
theorem registration (told : Told p r q r' reports)
    : q.registration = p.registration := by
  cases told with
  | silent registration _ => exact registration
  | announced registration _ => exact registration
  | refused registration _ _ => exact registration
  | published registration _ _ => exact registration

theorem entries (told : Told p r q r' reports)
    : r'.entries = r.entries := by
  cases told with
  | silent _ _ => rfl
  | announced _ _ => exact Registry.entries_announce
  | refused _ _ _ => rfl
  | published _ _ _ => exact Registry.entries_publish _

/-- What a poller tells leaves the statuses and what it remembers alone, unless a status is published. -/
theorem quiet_or_published (told : Told p r q r' reports)
    : (q.last = p.last
        ∧ r'.statuses = r.statuses
        ∧ ∀ report ∈ reports, report.accepted = false)
      ∨ ∃ status member,
          q.last = some status
          ∧ r.member? p.registration = some member
          ∧ r' = (r.publish p.registration status).2
          ∧ reports = [⟨p.registration, status, true⟩] := by
  cases told with
  | silent _ last => exact .inl ⟨last, rfl, by simp⟩
  | announced _ last => exact .inl ⟨last, Registry.statuses_announce, by simp⟩
  | refused _ last _ => exact .inl ⟨last, rfl, by simp⟩
  | published _ last inForce => exact .inr ⟨_, _, last, inForce, rfl, rfl⟩

/-- A poller whose registration is out of force changes nothing, whatever it tells. -/
theorem registry_of_stale (told : Told p r q r' reports) (stale : ¬ r.InForce p.registration)
    : r' = r := by
  cases told with
  | silent | refused => rfl
  | announced => exact (Registry.publish_of_stale stale p.unreachable).2
  | published _ _ inForce => exact absurd ⟨_, Registry.get?_of_member? inForce⟩ stale

end Told

-----------------------------------------------------------------------------------------
-- Histories
-----------------------------------------------------------------------------------------

/-- The registration of every poller so far, and the status that it remembers. -/
def memories (f : Fleet) : List (Registration × Option Status) :=
  f.pollers.map fun p => (p.registration, p.last)

/-- All registrations so far, in their order. -/
def registrations (f : Fleet) : List Registration := f.memories.map Prod.fst

/-- What pollers report in the moves of a run. -/
def history (f : Fleet) : List Move → List Report
  | [] => []
  | move :: others =>
    f.reports move ++ match f.step move with
      | some g => g.history others
      | none => []

/-- The last report under a name that was accepted. -/
def lastPublished (reports : List Report) (name : String) : Option Report :=
  (reports.filter fun report => report.accepted && report.registration.name == name).getLast?

/-- The registrations are numbered; the poller of an entry remembers the status under its name;
and every status was published under its name by the registration in force, and was the last one
to be. -/
structure Registered (f : Fleet) (reports : List Report) : Prop where
  numbered : f.registrations.map (·.id) = List.range f.memories.length
  remembered
    : ∀ name entry,
        f.registry.entries.get? name = some entry
        → f.memories[entry.id]? = some (⟨name, entry.id⟩, f.registry.statuses.get? name)
  published
    : ∀ name status,
        f.registry.statuses.get? name = some status
        → ∃ entry,
            f.registry.entries.get? name = some entry
            ∧ lastPublished reports name = some ⟨⟨name, entry.id⟩, status, true⟩

theorem lastPublished_append_of_refused {reports more : List Report}
    (refused : ∀ report ∈ more, report.accepted = false) (name : String)
    : lastPublished (reports ++ more) name = lastPublished reports name := by
  have none : more.filter (fun report => report.accepted && report.registration.name == name)
      = [] := by
    rw [List.filter_eq_nil_iff]
    intro report member
    simp [refused report member]
  rw [lastPublished, lastPublished, List.filter_append, none, List.append_nil]

theorem lastPublished_concat (reports : List Report) (registration : Registration)
    (status : Status) (name : String)
    : lastPublished (reports ++ [⟨registration, status, true⟩]) name
      = if name = registration.name then some ⟨registration, status, true⟩
        else lastPublished reports name := by
  by_cases same : name = registration.name
  · simp [lastPublished, same]
  · have apart : (registration.name == name) = false := by
      simpa using fun equal => same equal.symm
    simp [lastPublished, same, apart]

-----------------------------------------------------------------------------------------
-- What a step preserves
-----------------------------------------------------------------------------------------

variable {f g : Fleet} {reports more : List Report}

theorem memories_of_pollers {id : Nat} {q : Poller} (pollers : g.pollers = f.pollers.set id q)
    : g.memories = f.memories.set id (q.registration, q.last) := by
  rw [memories, pollers, List.map_set]
  rfl

/-- What leaves entries, statuses and memories alone, and of which nothing is accepted, is
nothing to the registrations. -/
theorem Registered.quiet (registered : Registered f reports)
    (entries : g.registry.entries = f.registry.entries)
    (statuses : g.registry.statuses = f.registry.statuses) (memories : g.memories = f.memories)
    (refused : ∀ report ∈ more, report.accepted = false)
    : Registered g (reports ++ more) := by
  exact {
    numbered := by
      rw [registrations, memories]
      exact registered.numbered
    remembered := by
      rw [entries, statuses, memories]
      exact registered.remembered
    published := by
      intro name status known
      rw [statuses] at known
      rw [entries, lastPublished_append_of_refused refused]
      exact registered.published name status known
  }

theorem memories_of_found {id : Nat} {p : Poller} (found : f.pollers[id]? = some p)
    : f.memories[id]? = some (p.registration, p.last) := by
  rw [memories, List.getElem?_map, found]
  rfl

theorem registrations_of_memories {id : Nat} {registration : Registration} {last : Option Status}
    (known : f.memories[id]? = some (registration, last))
    : f.registrations[id]? = some registration := by
  rw [registrations, List.getElem?_map, known]
  rfl

theorem registrations_of_set {id : Nat} {p q : Poller} (found : f.pollers[id]? = some p)
    (pollers : g.pollers = f.pollers.set id q) (registration : q.registration = p.registration)
    : g.registrations = f.registrations := by
  rw [registrations, memories_of_pollers pollers, List.map_set, registrations]
  apply set_of_found
  rw [List.getElem?_map, memories_of_found found, registration]
  rfl

/-- A poller that goes on and publishes nothing keeps what it remembers. -/
theorem memories_of_quiet {id : Nat} {p q : Poller} (found : f.pollers[id]? = some p)
    (pollers : g.pollers = f.pollers.set id q) (registration : q.registration = p.registration)
    (last : q.last = p.last)
    : g.memories = f.memories := by
  rw [memories_of_pollers pollers, registration, last]
  exact set_of_found (memories_of_found found)

/-- The poller of a number has that number in its registration. -/
theorem Registered.id_of_found (registered : Registered f reports) {id : Nat} {p : Poller}
    (found : f.pollers[id]? = some p)
    : p.registration.id = id := by
  have known := memories_of_found found
  have bound : id < f.memories.length := (List.getElem?_eq_some_iff.mp known).1
  have ids := congrArg (·[id]?) registered.numbered
  simp only [registrations, List.getElem?_map, known, List.getElem?_range bound] at ids
  exact Option.some.inj ids

/-- Two entries have two numbers. -/
theorem Registered.name_unique (registered : Registered f reports)
    {name other : String} {entry : Entry} (found : f.registry.entries.get? name = some entry)
    {another : Entry} (also : f.registry.entries.get? other = some another)
    (same : entry.id = another.id)
    : name = other := by
  have first := registered.remembered name entry found
  have second := registered.remembered other another also
  rw [same, second] at first
  cases first
  rfl

/-- A new registration has a number that none had before, and no status under its name. -/
theorem Registered.added (registered : Registered f reports) {member : Member}
    (new : f.registry.entries.get? member.name = none)
    (registry : g.registry = f.registry.register f.pollers.length member)
    (pollers
      : g.pollers
        = f.pollers ++ [.start ⟨member.name, f.pollers.length⟩ member.unreachable f.threshold])
    : Registered g reports := by
  have length : f.pollers.length = f.memories.length := by simp [memories]
  have memories
      : g.memories = f.memories ++ [(⟨member.name, f.memories.length⟩, none)] := by
    rw [memories, pollers, List.map_append, ← length]
    rfl
  have noStatus : f.registry.statuses.get? member.name = none := by
    cases known : f.registry.statuses.get? member.name with
    | none => rfl
    | some status =>
        obtain ⟨entry, found, _⟩ := registered.published member.name status known
        rw [new] at found
        cases found
  have entries (name : String)
      : g.registry.entries.get? name
        = if name = member.name then some ⟨f.memories.length, member⟩
          else f.registry.entries.get? name := by
    rw [registry, ← length]
    exact Keyed.get?_insert _ _ _ _
  have statuses : g.registry.statuses = f.registry.statuses := by
    rw [registry]
    rfl
  refine ⟨?_, ?_, ?_⟩
  · have numbered := registered.numbered
    rw [registrations] at numbered ⊢
    rw [memories, List.map_append, List.map_append, numbered, List.length_append]
    exact List.range_succ.symm
  · intro name entry found
    rw [entries] at found
    rw [memories, statuses]
    split at found
    · rename_i same
      cases found
      rw [List.getElem?_concat_length, same, noStatus]
    · have old := registered.remembered name entry found
      rw [List.getElem?_append_left (List.getElem?_eq_some_iff.mp old).1, old]
  · intro name status known
    rw [statuses] at known
    obtain ⟨entry, found, last⟩ := registered.published name status known
    refine ⟨entry, ?_, last⟩
    rw [entries, if_neg, found]
    intro same
    rw [same, noStatus] at known
    cases known

/-- A forgotten name has neither an entry nor a status. -/
theorem Registered.forgotten (registered : Registered f reports) {name : String}
    (registry : g.registry = f.registry.forget name) (pollers : g.pollers = f.pollers)
    : Registered g reports := by
  have memories : g.memories = f.memories := by rw [memories, pollers, Fleet.memories]
  have entries (other : String)
      : g.registry.entries.get? other
        = if other = name then none else f.registry.entries.get? other := by
    rw [registry]
    exact Keyed.get?_erase _ _ _
  have statuses (other : String)
      : g.registry.statuses.get? other
        = if other = name then none else f.registry.statuses.get? other := by
    rw [registry]
    exact Keyed.get?_erase _ _ _
  refine ⟨?_, ?_, ?_⟩
  · rw [registrations, memories]
    exact registered.numbered
  · intro other entry found
    rw [entries] at found
    split at found
    · cases found
    · rename_i apart
      rw [memories, statuses, if_neg apart]
      exact registered.remembered other entry found
  · intro other status known
    rw [statuses] at known
    split at known
    · cases known
    · rename_i apart
      rw [entries, if_neg apart]
      exact registered.published other status known

/-- A published status is the one under the name of its registration, and its poller remembers
it; the other names are as before. -/
theorem Registered.told (registered : Registered f reports) {id : Nat} {p q : Poller}
    {status : Status} {member : Member} (found : f.pollers[id]? = some p)
    (registration : q.registration = p.registration) (last : q.last = some status)
    (inForce : f.registry.member? p.registration = some member)
    (registry : g.registry = (f.registry.publish p.registration status).2)
    (pollers : g.pollers = f.pollers.set id q)
    : Registered g (reports ++ [⟨p.registration, status, true⟩]) := by
  have memories : g.memories = f.memories.set id (p.registration, some status) := by
    rw [memories_of_pollers pollers, registration, last]
  have entries : g.registry.entries = f.registry.entries := by
    rw [registry, Registry.entries_publish]
  have statuses (name : String)
      : g.registry.statuses.get? name
        = if name = p.registration.name then some status
          else f.registry.statuses.get? name := by
    rw [registry, Registry.statuses_publish inForce]
    exact Keyed.get?_insert _ _ _ _
  have entry := Registry.get?_of_member? inForce
  have number := registered.id_of_found found
  refine ⟨?_, ?_, ?_⟩
  · rw [registrations_of_set found pollers registration, memories, List.length_set]
    exact registered.numbered
  · intro name other known
    rw [entries] at known
    have old := registered.remembered name other known
    rw [memories, statuses]
    split
    · rename_i same
      rw [same, entry] at known
      cases known
      have bound : id < f.memories.length :=
        (List.getElem?_eq_some_iff.mp (memories_of_found found)).1
      rw [same, ← number, List.getElem?_set_self (number.symm ▸ bound)]
    · rename_i apart
      have elsewhere : id ≠ other.id := by
        intro same
        rw [← same, memories_of_found found] at old
        have registrations := (Prod.mk.inj (Option.some.inj old)).1
        exact apart (congrArg Registration.name registrations).symm
      rw [List.getElem?_set_ne elsewhere, old]
  · intro name known found
    rw [statuses] at found
    rw [entries, lastPublished_concat]
    split at found
    · rename_i same
      cases found
      rw [same, entry, if_pos rfl]
      exact ⟨_, rfl, rfl⟩
    · rename_i apart
      rw [if_neg apart]
      exact registered.published name known found

/-- Every step keeps the registrations in order. -/
theorem Registered.next (registered : Registered f reports) (stepped : Stepped f g more)
    : Registered g (reports ++ more) := by
  cases stepped with
  | still registry pollers =>
      refine registered.quiet ?_ ?_ ?_ (by simp)
      all_goals simp only [registry, memories, pollers]
  | added member new registry pollers =>
      rw [List.append_nil]
      exact registered.added new registry pollers
  | forgotten name registry pollers =>
      rw [List.append_nil]
      exact registered.forgotten registry pollers
  | dropped registry pollers =>
      refine registered.quiet ?_ ?_ ?_ (by simp)
      all_goals simp only [registry, memories, pollers]
  | polled id found told pollers =>
      rcases told.quiet_or_published with
        ⟨last, statuses, refused⟩ | ⟨status, member, last, inForce, registry, rfl⟩
      · have memories := memories_of_quiet found pollers told.registration last
        exact registered.quiet told.entries statuses memories refused
      · exact registered.told found told.registration last inForce registry pollers

-----------------------------------------------------------------------------------------
-- Whole runs
-----------------------------------------------------------------------------------------

/-- Registrations are never undone, only put out of force. -/
theorem Stepped.registrations_prefix (stepped : Stepped f g more)
    : f.registrations <+: g.registrations := by
  cases stepped with
  | still _ pollers | forgotten _ _ pollers | dropped _ pollers =>
      rw [registrations, memories, ← pollers]
      exact List.prefix_rfl
  | added member _ _ pollers =>
      rw [registrations, registrations, memories, memories, pollers, List.map_append,
        List.map_append]
      exact List.prefix_append _ _
  | polled id found told pollers =>
      exact registrations_of_set found pollers told.registration ▸ List.prefix_rfl

/-- A registration that was put out of force stays so, as a new one has another number. -/
theorem Registered.stale_next (registered : Registered f reports) (stepped : Stepped f g more)
    {registration : Registration} (made : registration ∈ f.registrations)
    (stale : ¬ f.registry.InForce registration)
    : ¬ g.registry.InForce registration := by
  rintro ⟨member', found⟩
  refine stale ⟨member', ?_⟩
  cases stepped with
  | still registry _ | dropped registry _ =>
      rw [registry] at found
      exact found
  | added member new registry _ =>
      rw [registry, Registry.register, Keyed.get?_insert] at found
      split at found
      · have number : registration.id ∈ f.registrations.map (·.id) :=
          List.mem_map_of_mem made
        have length : f.pollers.length = f.memories.length := by simp [memories]
        rw [registered.numbered, List.mem_range] at number
        have last : f.pollers.length = registration.id :=
          congrArg Entry.id (Option.some.inj found)
        omega
      · exact found
  | forgotten name registry _ =>
      rw [registry, Registry.forget, Keyed.get?_erase] at found
      split at found
      · cases found
      · exact found
  | polled id _ told _ =>
      rw [told.entries] at found
      exact found

/-- A run keeps the registrations in order, by induction over its moves. -/
theorem run_registered {moves : List Move} (registered : Registered f reports)
    (reached : f.run moves = some g)
    : Registered g (reports ++ f.history moves) := by
  induction moves generalizing f reports with
  | nil =>
      cases reached
      rw [history, List.append_nil]
      exact registered
  | cons move others ih =>
      obtain ⟨next, step, rest⟩ := Option.bind_eq_some_iff.mp reached
      rw [history, step, ← List.append_assoc]
      exact ih (registered.next (step_stepped step)) rest

/-- Along a run registrations are only added, and those that are out of force stay so, by
induction over its moves. -/
theorem run_stale {moves : List Move} (registered : Registered f reports)
    (reached : f.run moves = some g)
    : f.registrations <+: g.registrations
      ∧ ∀ registration ∈ f.registrations,
          ¬ f.registry.InForce registration → ¬ g.registry.InForce registration := by
  induction moves generalizing f reports with
  | nil =>
      cases reached
      exact ⟨List.prefix_rfl, fun _ _ stale => stale⟩
  | cons move others ih =>
      obtain ⟨next, step, rest⟩ := Option.bind_eq_some_iff.mp reached
      have stepped := step_stepped step
      have grows := stepped.registrations_prefix
      obtain ⟨later, stays⟩ := ih (registered.next stepped) rest
      refine ⟨grows.trans later, ?_⟩
      intro registration made stale
      exact stays registration (grows.subset made) (registered.stale_next stepped made stale)

theorem run_append (f : Fleet) (before after : List Move)
    : f.run (before ++ after) = (f.run before).bind fun g => g.run after := by
  induction before generalizing f with
  | nil => rfl
  | cons move others ih =>
      rw [List.cons_append, run, run, Option.bind_assoc]
      exact congrArg _ (funext ih)

theorem registered_start (threshold : Nat) : Registered { threshold } [] := by
  refine ⟨rfl, ?_, ?_⟩
  · intro name entry found
    cases found
  · intro name status known
    cases known

/-- A fleet in any state that a run from the empty one reaches. Every name with a status is
registered; its status was published by the registration in force, and nothing was published
under the name since; no two registrations share a number, and those that are out of force at
some time remain so; the poller of a registered printer remembers the status that is known of
it; and a registration out of force is refused without a trace. -/
theorem run_registrations {threshold : Nat} {moves : List Move} {f : Fleet}
    (reached : Fleet.run { threshold } moves = some f)
    : (∀ name, f.registry.statuses.contains name = true → f.registry.entries.contains name = true)
      ∧ (∀ name status entry,
          f.registry.statuses.get? name = some status
          → f.registry.entries.get? name = some entry
          → lastPublished (Fleet.history { threshold } moves) name
            = some ⟨⟨name, entry.id⟩, status, true⟩)
      ∧ (f.registrations.map (·.id)).Nodup
      ∧ (∀ before after earlier,
          moves = before ++ after
          → Fleet.run { threshold } before = some earlier
          → earlier.registrations <+: f.registrations
            ∧ ∀ registration ∈ earlier.registrations,
                ¬ earlier.registry.InForce registration → ¬ f.registry.InForce registration)
      ∧ (∀ name entry,
          f.registry.entries.get? name = some entry
          → ∃ w,
              f.watch? entry.id = some w
              ∧ w.poller.registration = ⟨name, entry.id⟩
              ∧ w.poller.last = f.registry.statuses.get? name)
      ∧ (∀ registration status,
          ¬ f.registry.InForce registration
          → f.registry.publish registration status = (false, f.registry)
            ∧ f.registry.announce registration = f.registry) := by
  have registered := run_registered (registered_start threshold) reached
  rw [List.nil_append] at registered
  refine ⟨?_, ?_, ?_, ?_, ?_, ?_⟩
  · intro name known
    obtain ⟨status, known⟩ := Option.isSome_iff_exists.mp known
    obtain ⟨entry, found, _⟩ := registered.published name status known
    exact Option.isSome_iff_exists.mpr ⟨entry, found⟩
  · intro name status entry known found
    obtain ⟨other, same, last⟩ := registered.published name status known
    rw [found] at same
    cases same
    exact last
  · rw [registered.numbered]
    exact List.nodup_range
  · intro before after earlier split reachedEarlier
    rw [split, run_append, reachedEarlier, Option.bind_some] at reached
    exact run_stale (run_registered (registered_start threshold) reachedEarlier) reached
  · intro name entry found
    have remembered := registered.remembered name entry found
    simp only [memories, pollers, List.map_map, List.getElem?_map,
      Option.map_eq_some_iff] at remembered
    obtain ⟨w, watched, facts⟩ := remembered
    exact ⟨w, watched, congrArg Prod.fst facts, congrArg Prod.snd facts⟩
  · intro registration status stale
    exact Registry.publish_of_stale stale status

/-- Witness: a printer is removed during a fetch and registered again under its name; the status
that was fetched for the first registration is refused, and the one that is known is that of the
second. -/
theorem run_registrations_again
    : let bar : Member := ⟨"epson", "bar", 42, .empty⟩
      let again : List Move :=
        [.add bar, .poller 0 (.proceed true), .poller 0 (.proceed true), .ask (.remove "bar"),
          .call 0 (.ok ()), .add bar, .poller 0 (.fetched (.ok .empty)),
          .poller 1 (.proceed true), .poller 1 (.proceed true),
          .poller 1 (.fetched (.ok .empty))]
      ∃ f status,
        Fleet.run { threshold := 3 } again = some f
        ∧ f.registry.statuses.get? "bar" = some status
        ∧ lastPublished (Fleet.history { threshold := 3 } again) "bar"
          = some ⟨⟨"bar", 1⟩, status, true⟩ := by
  intro bar again
  have runs : (Fleet.run { threshold := 3 } again).isSome = true := by decide
  obtain ⟨f, reached⟩ := Option.isSome_iff_exists.mp runs
  have known
      : (Fleet.run { threshold := 3 } again).bind (·.registry.statuses.get? "bar")
        = some (Status.empty.setFlag Status.notOpenField false) := by
    decide
  have found
      : (Fleet.run { threshold := 3 } again).bind (·.registry.entries.get? "bar")
        = some ⟨1, bar⟩ := by
    decide
  rw [reached, Option.bind_some] at known found
  exact ⟨f, _, reached, known, (run_registrations reached).2.1 "bar" _ _ known found⟩

end ReceiptFleet.Fleet
