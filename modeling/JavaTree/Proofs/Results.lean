import Mathlib.Tactic.Lemma

/-!
# Results that may be errors

How a result comes about that is made from another one, when either may be an error.

## Main results

* `bind_eq_ok_iff`, `bind_eq_error_iff` — a result from which the next one is made.
* `mapError_eq_ok_iff`, `mapError_eq_error_iff` — a result with its error told in another way.
-/

namespace JavaTree

variable {α β ε ε' : Type} {x : Except ε α} {g : α → Except ε β} {h : ε → ε'}

/-- A result made from another one is a value if both are. -/
lemma bind_eq_ok_iff {b : β} : x.bind g = .ok b ↔ ∃ a, x = .ok a ∧ g a = .ok b := by
  cases x <;> simp [Except.bind]

/-- A result made from another one is an error if that one is, or if its value is made one. -/
lemma bind_eq_error_iff {e : ε} :
    x.bind g = .error e ↔ x = .error e ∨ ∃ a, x = .ok a ∧ g a = .error e := by
  cases x <;> simp [Except.bind]

/-- A change of errors leaves values as they are. -/
@[simp] lemma mapError_ok (h : ε → ε') (a : α) : (Except.ok a).mapError h = .ok a := rfl

/-- A change of errors changes an error. -/
@[simp] lemma mapError_error (h : ε → ε') (e : ε) :
    (Except.error e : Except ε α).mapError h = .error (h e) := rfl

/-- A result is a value after a change of errors if it was that value before. -/
lemma mapError_eq_ok_iff {a : α} : x.mapError h = .ok a ↔ x = .ok a := by
  cases x <;> simp

/-- A result is an error after a change of errors if it was one that is changed to it. -/
lemma mapError_eq_error_iff {e' : ε'} :
    x.mapError h = .error e' ↔ ∃ e, x = .error e ∧ h e = e' := by
  cases x <;> simp

end JavaTree
