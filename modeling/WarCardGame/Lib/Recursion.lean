import Mathlib

/-!
# Procedures that call themselves

A procedure whose recursive call is the last thing it does, with the call left
open: started in a state it returns a result, or it calls itself in another state.
Nothing in a body says that the calls come to an end.

* `run` — the procedure with a bound on the depth of its calls; `none` means that
  the bound was reached.
* `Unfolds` — a total function that does what the body does, call for call.
* `run_eq_of_measure` — if a measure decreases at every call, a depth above the
  measure is enough, and the result is the one of the total function.
-/

namespace Lib

/-- What a procedure does in a state. -/
inductive Activation (σ ρ : Type) where
  | returns (result : ρ)
  | calls (s : σ)
  deriving DecidableEq, Repr

/-- The body of a procedure over states `σ` with results `ρ`. -/
def Procedure (σ ρ : Type) : Type := σ → Activation σ ρ

namespace Procedure

variable {σ ρ : Type} (P : Procedure σ ρ)

/-- The result of the procedure, if it gets along with the given depth of calls. -/
def run : ℕ → σ → Option ρ
  | 0, _ => none
  | depth + 1, s =>
      match P s with
      | .returns result => some result
      | .calls t => run depth t

/-- The total function `f` does what the body does. -/
def Unfolds (f : σ → ρ) : Prop :=
  ∀ s, f s = match P s with
    | .returns result => result
    | .calls t => f t

variable {P}

/-- **Termination.**  If every call decreases `μ`, the procedure returns from every
state, within a depth just above `μ`. -/
theorem run_eq_of_measure {f : σ → ρ} (hf : P.Unfolds f) {μ : σ → ℕ}
    (hμ : ∀ s t, P s = .calls t → μ t < μ s) {s : σ} {depth : ℕ} (hdepth : μ s < depth) :
    P.run depth s = some (f s) := by
  induction depth generalizing s with
  | zero => omega
  | succ depth ih =>
      rw [run, hf s]
      cases hbody : P s with
      | returns result => rfl
      | calls t =>
          have hlt := hμ s t hbody
          exact ih (by omega)

end Procedure

end Lib
