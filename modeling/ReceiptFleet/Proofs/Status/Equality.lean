import ReceiptFleet.Status.Basic

/-!
Equality of statuses. No NaN equals itself, so equality is symmetric and transitive only: equal
statuses are equal to the same ones.
-/

namespace ReceiptFleet

namespace Binary64

theorem not_isNaN_of_isZero {x : Binary64} (zero : x.isZero = true) : x.isNaN = false := by
  simp only [isZero, isNaN, decide_eq_true_eq, decide_eq_false_iff_not] at zero ⊢
  simp [zero]

/-- A zero is equal to the zeros of both signs. -/
theorem equal_of_isZero {x : Binary64} (zero : x.isZero = true) (y : Binary64)
    : x.equal y = y.isZero := by
  rw [equal, not_isNaN_of_isZero zero, zero]
  cases zeroY : y.isZero with
  | true => simp [not_isNaN_of_isZero zeroY]
  | false =>
      have apart : x.bits ≠ y.bits := by
        intro same
        rw [isZero, magnitudeBits, same] at zero
        rw [isZero, magnitudeBits, zero] at zeroY
        cases zeroY
      simp [apart]

theorem equal_congr {x y : Binary64} (same : x.equal y = true) (z : Binary64)
    : x.equal z = y.equal z := by
  obtain ⟨a⟩ := x
  obtain ⟨b⟩ := y
  simp only [equal, Bool.and_eq_true, Bool.or_eq_true, beq_iff_eq] at same
  obtain ⟨_, rfl | ⟨zeroX, zeroY⟩⟩ := same
  · rfl
  · rw [equal_of_isZero zeroX, equal_of_isZero zeroY]

end Binary64

theorem StatusValue.equal_congr {a b : StatusValue} (same : a.equal b = true) (c : StatusValue)
    : a.equal c = b.equal c := by
  cases a with
  | flag on =>
      cases b with
      | flag on' =>
          have flags : on = on' := beq_iff_eq.mp same
          rw [flags]
      | number y => cases same
  | number x =>
      cases b with
      | flag on' => cases same
      | number y =>
          cases c with
          | flag on => rfl
          | number z => exact Binary64.equal_congr same z

namespace Status

/-- Equal lists of fields are equal to the same lists, by induction over both. -/
theorem equalEntries_congr {fields others : List (String × StatusValue)}
    (same : equalEntries fields others = true) (third : List (String × StatusValue))
    : equalEntries fields third = equalEntries others third := by
  induction fields generalizing others third with
  | nil =>
      cases others with
      | nil => rfl
      | cons _ _ => cases same
  | cons field rest ih =>
      cases others with
      | nil => cases same
      | cons other rest' =>
          simp only [equalEntries, Bool.and_eq_true, beq_iff_eq] at same
          obtain ⟨⟨name, value⟩, later⟩ := same
          cases third with
          | nil => rfl
          | cons head tail =>
              simp only [equalEntries]
              rw [name, StatusValue.equal_congr value, ih later]

theorem equal_congr {a b : Status} (same : a.equal b = true) (c : Status)
    : a.equal c = b.equal c :=
  equalEntries_congr same c.fields.entries

/-- What is no news after a status leaves open what is news. -/
theorem differsFrom_congr {status previous : Status}
    (old : status.differsFrom (some previous) = false) (other : Status)
    : other.differsFrom (some previous) = other.differsFrom (some status) := by
  simp only [differsFrom, Bool.not_eq_false'] at old ⊢
  rw [equal_congr old]

end Status

end ReceiptFleet
