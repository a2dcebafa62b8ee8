/-!
Values under distinct names, kept in the order of the names (code point by code point). Element
attributes, printer statuses and the tables of a fleet are all of this shape. Each operation has
one lemma that says what it does to a look-up.
-/

namespace ReceiptFleet

/-- Values under distinct names; the entries are sorted by name, so equal contents are equal values. -/
structure Keyed (α : Type) where
  entries : List (String × α)
  sorted : entries.Pairwise (fun a b => a.1 < b.1)
deriving DecidableEq

namespace Keyed

variable {α : Type}

/-- The value under a name in a list of entries. -/
def lookup (name : String) : List (String × α) → Option α
  | [] => none
  | (key, value) :: rest => if name = key then some value else lookup name rest

/-- Places a value under a name, before the first greater name or over the same name. -/
def place (name : String) (value : α) : List (String × α) → List (String × α)
  | [] => [(name, value)]
  | (key, old) :: rest =>
    if name = key then (name, value) :: rest
    else if name < key then (name, value) :: (key, old) :: rest
    else (key, old) :: place name value rest

/-- A placed entry is the new one or an old one, by induction over the entries. -/
theorem mem_place {name : String} {value : α} {entries : List (String × α)} {entry : String × α}
    (member : entry ∈ place name value entries)
    : entry = (name, value) ∨ entry ∈ entries := by
  induction entries with
  | nil => simpa [place] using member
  | cons head rest ih =>
    obtain ⟨key, old⟩ := head
    simp only [place] at member
    split at member
    · rcases List.mem_cons.mp member with h | h
      · exact .inl h
      · exact .inr (List.mem_cons_of_mem _ h)
    · split at member
      · rcases List.mem_cons.mp member with h | h
        · exact .inl h
        · exact .inr h
      · rcases List.mem_cons.mp member with h | h
        · exact .inr (by simp [h])
        · exact (ih h).imp id (List.mem_cons_of_mem _)

/-- Placing keeps the order, since the new name goes before the first greater one. -/
theorem sorted_place (name : String) (value : α) {entries : List (String × α)}
    (sorted : entries.Pairwise (fun a b => a.1 < b.1))
    : (place name value entries).Pairwise (fun a b => a.1 < b.1) := by
  induction entries with
  | nil => simp [place]
  | cons head rest ih =>
    obtain ⟨key, old⟩ := head
    obtain ⟨first, later⟩ := List.pairwise_cons.mp sorted
    simp only [place]
    split
    · rename_i same
      subst same
      exact List.pairwise_cons.mpr ⟨first, later⟩
    · split
      · rename_i less
        refine List.pairwise_cons.mpr ⟨?_, sorted⟩
        intro entry member
        rcases List.mem_cons.mp member with h | h
        · simpa [h] using less
        · exact String.lt_trans less (first entry h)
      · rename_i different notLess
        refine List.pairwise_cons.mpr ⟨?_, ih later⟩
        intro entry member
        rcases mem_place member with h | h
        · have : key ≤ name := String.not_lt.mp notLess
          simpa [h] using Std.lt_of_le_of_ne this (Ne.symm different)
        · exact first entry h

/-- No names. -/
def empty : Keyed α := ⟨[], .nil⟩

instance : Inhabited (Keyed α) := ⟨empty⟩

/-- The value under a name. -/
def get? (m : Keyed α) (name : String) : Option α := lookup name m.entries

/-- Whether a name has a value. -/
def contains (m : Keyed α) (name : String) : Bool := (m.get? name).isSome

/-- The map with a value set under a name; an earlier value is replaced. -/
def insert (m : Keyed α) (name : String) (value : α) : Keyed α :=
  ⟨place name value m.entries, sorted_place name value m.sorted⟩

/-- The map without a name. -/
def erase (m : Keyed α) (name : String) : Keyed α :=
  ⟨m.entries.filter (fun entry => entry.1 ≠ name), m.sorted.filter _⟩

/-- The map of a list of entries; of two entries with one name the later counts. -/
def ofList (entries : List (String × α)) : Keyed α :=
  entries.foldl (fun m entry => m.insert entry.1 entry.2) empty

/-- The entries of both maps; where both have a name, the second counts. -/
def merge (m other : Keyed α) : Keyed α :=
  other.entries.foldl (fun m entry => m.insert entry.1 entry.2) m

/-- The names, in order. -/
def names (m : Keyed α) : List String := m.entries.map Prod.fst

/-- How many names there are. -/
def size (m : Keyed α) : Nat := m.entries.length

/-- The map with one name's value replaced by a function of it, if it has one. -/
def modify (m : Keyed α) (name : String) (f : α → α) : Keyed α :=
  match m.get? name with
  | some value => m.insert name (f value)
  | none => m

/-- Looking up after placing finds the new value under its name and the old ones elsewhere. -/
theorem lookup_place (name other : String) (value : α) (entries : List (String × α))
    : lookup other (place name value entries)
      = if other = name then some value else lookup other entries := by
  induction entries with
  | nil => simp [place, lookup]
  | cons head rest ih =>
    obtain ⟨key, old⟩ := head
    by_cases same : name = key
    · subst same
      simp only [place, if_true, lookup]
      split <;> simp_all
    · by_cases less : name < key
      · simp [place, same, less, lookup]
      · simp only [place, same, less, if_false, lookup, ih]
        by_cases h : other = name
        · subst h; simp [same]
        · simp [h]

/-- Looking up after filtering out a name finds nothing there and the old values elsewhere. -/
theorem lookup_filter (name other : String) (entries : List (String × α))
    : lookup other (entries.filter (fun entry => entry.1 ≠ name))
      = if other = name then none else lookup other entries := by
  induction entries with
  | nil => simp [lookup]
  | cons head rest ih =>
    obtain ⟨key, old⟩ := head
    by_cases same : key = name
    · subst same
      simp only [ne_eq, not_true_eq_false, decide_false, List.filter_cons_of_neg, Bool.false_eq_true,
        not_false_eq_true, lookup]
      rw [ih]
      split <;> simp_all
    · simp only [ne_eq, same, not_false_eq_true, decide_true, List.filter_cons_of_pos, lookup]
      rw [ih]
      by_cases h : other = name
      · have : other ≠ key := fun e => same (e ▸ h)
        simp [h, Ne.symm same]
      · simp [h]

/-- A value that is found under a name is one of the entries. -/
theorem mem_of_lookup {name : String} {value : α} {entries : List (String × α)}
    (found : lookup name entries = some value)
    : (name, value) ∈ entries := by
  induction entries with
  | nil => cases found
  | cons head rest ih =>
    obtain ⟨key, old⟩ := head
    rw [lookup] at found
    split at found
    · rename_i same
      rw [same, Option.some.inj found]
      exact List.mem_cons_self
    · exact List.mem_cons_of_mem _ (ih found)

@[simp] theorem get?_empty (name : String)
    : (empty : Keyed α).get? name = none :=
  rfl

/-- Setting a name changes the value of that name and of no other. -/
theorem get?_insert (m : Keyed α) (name other : String) (value : α)
    : (m.insert name value).get? other = if other = name then some value else m.get? other :=
  lookup_place name other value m.entries

/-- A name before all others has no value. -/
theorem lookup_of_lt {name : String} {entries : List (String × α)}
    (before : ∀ entry ∈ entries, name < entry.1)
    : lookup name entries = none := by
  induction entries with
  | nil => rfl
  | cons head rest ih =>
    obtain ⟨key, value⟩ := head
    have less : name < key := before (key, value) List.mem_cons_self
    have different : name ≠ key := fun same => String.lt_irrefl key (same ▸ less)
    rw [lookup, if_neg different]
    exact ih fun entry member => before entry (List.mem_cons_of_mem _ member)

/-- Setting the names of sorted entries changes their values and no others, by induction over the
entries. -/
theorem get?_foldl_insert (m : Keyed α) (name : String) {entries : List (String × α)}
    (sorted : entries.Pairwise (fun a b => a.1 < b.1))
    : (entries.foldl (fun m entry => m.insert entry.1 entry.2) m).get? name
      = (lookup name entries).or (m.get? name) := by
  induction entries generalizing m with
  | nil => rfl
  | cons head rest ih =>
    obtain ⟨key, value⟩ := head
    obtain ⟨first, later⟩ := List.pairwise_cons.mp sorted
    rw [List.foldl_cons, ih _ later, get?_insert, lookup]
    by_cases same : name = key
    · subst same
      rw [lookup_of_lt first, if_pos rfl, if_pos rfl]
      rfl
    · rw [if_neg same, if_neg same]

/-- Merging changes the values of the names of the second map and of no others. -/
theorem get?_merge (m other : Keyed α) (name : String)
    : (m.merge other).get? name = (other.get? name).or (m.get? name) :=
  get?_foldl_insert m name other.sorted

/-- Erasing a name removes the value of that name and of no other. -/
theorem get?_erase (m : Keyed α) (name other : String)
    : (m.erase name).get? other = if other = name then none else m.get? other :=
  lookup_filter name other m.entries

end Keyed

end ReceiptFleet
