import Mathlib.Data.List.Basic
import ReceiptFleet.Keyed

/-!
Maps and their look-ups. A map is determined by what is found under its names, so it is the same map in
whatever order its names were set.
-/

namespace ReceiptFleet.Keyed

variable {α : Type}

/-- An entry is found under its name, as no other entry has that name: by induction over the entries. -/
theorem lookup_of_mem {entries : List (String × α)} {name : String} {value : α}
    (sorted : entries.Pairwise (fun a b => a.1 < b.1)) (member : (name, value) ∈ entries)
    : lookup name entries = some value := by
  induction entries with
  | nil => cases member
  | cons head rest ih =>
      obtain ⟨key, old⟩ := head
      obtain ⟨first, later⟩ := List.pairwise_cons.mp sorted
      rcases List.mem_cons.mp member with same | member
      · cases same
        rw [lookup, if_pos rfl]
      · have less : key < name := first _ member
        have apart : name ≠ key := fun same => String.lt_irrefl key (same ▸ less)
        rw [lookup, if_neg apart, ih later member]

theorem get?_eq_some_iff {m : Keyed α} {name : String} {value : α}
    : m.get? name = some value ↔ (name, value) ∈ m.entries :=
  ⟨mem_of_lookup, lookup_of_mem m.sorted⟩

/-- Maps in which the same is found under every name are the same: both have the same entries, and there
is only one order for them. -/
theorem eq_of_get?_eq {m other : Keyed α} (found : ∀ name, m.get? name = other.get? name)
    : m = other := by
  have distinct (m : Keyed α) : m.entries.Nodup := by
    refine m.sorted.imp fun {first second} less same => ?_
    subst same
    exact String.lt_irrefl first.1 less
  have same_members : m.entries.Perm other.entries := by
    refine (List.perm_ext_iff_of_nodup (distinct m) (distinct other)).mpr fun (name, value) => ?_
    rw [← get?_eq_some_iff, ← get?_eq_some_iff, found]
  have same_entries : m.entries = other.entries :=
    same_members.eq_of_pairwise
      (fun _ _ _ _ less more => absurd (String.lt_trans less more) (String.lt_irrefl _))
      m.sorted other.sorted
  cases m
  cases other
  cases same_entries
  rfl

/-- A map that has no value under any name is empty. -/
theorem eq_empty_of_get? {m : Keyed α} (none : ∀ name, m.get? name = none)
    : m = .empty :=
  eq_of_get?_eq none

/-- The entries of a map make up that map again. -/
theorem ofList_entries (m : Keyed α)
    : ofList m.entries = m := by
  refine eq_of_get?_eq fun name => ?_
  rw [ofList, get?_foldl_insert _ _ m.sorted, get?_empty, Option.or_none, get?]

/-- Two places with one name are one place. -/
theorem place_unique (m : Keyed α) {i j : Nat} {name : String} {value other : α}
    (first : m.entries[i]? = some (name, value)) (second : m.entries[j]? = some (name, other))
    : i = j := by
  obtain ⟨low, one⟩ := List.getElem?_eq_some_iff.mp first
  obtain ⟨high, two⟩ := List.getElem?_eq_some_iff.mp second
  have ordered := List.pairwise_iff_getElem.mp m.sorted
  rcases Nat.lt_trichotomy i j with less | same | more
  · have := ordered i j low high less
    rw [one, two] at this
    exact absurd this (String.lt_irrefl name)
  · exact same
  · have := ordered j i high low more
    rw [one, two] at this
    exact absurd this (String.lt_irrefl name)

end ReceiptFleet.Keyed
