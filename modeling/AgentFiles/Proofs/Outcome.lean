/-!
# Successful outcomes

A sequence of computations succeeds when each of them does.
-/

namespace AgentFiles
namespace Outcome

variable {ε α β : Type}

theorem bind_eq_ok_iff {x : Except ε α} {f : α -> Except ε β} {b : β} :
    x >>= f = .ok b <-> exists a, x = .ok a ∧ f a = .ok b := by
  cases x <;>
    simp [bind, Except.bind]

theorem map_eq_ok_iff {x : Except ε α} {f : α -> β} {b : β} :
    x.map f = .ok b <-> exists a, x = .ok a ∧ f a = b := by
  cases x <;>
    simp [Except.map]

theorem mapError_eq_ok_iff {δ : Type} {x : Except ε α} {f : ε -> δ} {a : α} :
    x.mapError f = .ok a <-> x = .ok a := by
  cases x with
  | error e =>
      constructor <;> intro h <;> cases h
  | ok b =>
      constructor <;> intro h <;> cases h <;> rfl

theorem toOption_eq_some_iff {x : Except ε α} {a : α} :
    x.toOption = some a <-> x = .ok a := by
  cases x with
  | error e =>
      constructor <;> intro h <;> cases h
  | ok b =>
      constructor <;> intro h <;> cases h <;> rfl

end Outcome
end AgentFiles
