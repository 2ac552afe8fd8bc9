/-
# Steps that may fail

A sequence of steps succeeds when each of them does, and its failure is that of the first step
that fails.
-/
import Mathlib.Tactic.Lemma

namespace BulkValues

variable {ε α β : Type}

/-- What is known of a step after a success and after a failure. -/
abbrev Settles (answer : Except ε α) (success failure : Prop) : Prop :=
  match answer with
  | .ok _ => success
  | .error _ => failure

/-- After a success the next step goes on with its result. -/
lemma bind_of_eq_ok {first : Except ε α} {next : α → Except ε β} {a : α} (h : first = .ok a) :
    first >>= next = next a := by
  rw [h]
  rfl

/-- Two steps succeed when both do. -/
lemma bind_eq_ok {first : Except ε α} {next : α → Except ε β} {b : β} :
    first >>= next = .ok b ↔ ∃ a, first = .ok a ∧ next a = .ok b := by
  cases first with
  | error e => simp [bind, Except.bind]
  | ok a => simp [bind, Except.bind]

/-- Two steps fail as the first does, or as the second does after a success of the first. -/
lemma bind_eq_error {first : Except ε α} {next : α → Except ε β} {e : ε} :
    first >>= next = .error e ↔
      first = .error e ∨ ∃ a, first = .ok a ∧ next a = .error e := by
  cases first with
  | error e' => simp [bind, Except.bind]
  | ok a => simp [bind, Except.bind]

end BulkValues
