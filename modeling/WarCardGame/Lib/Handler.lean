import Mathlib

/-!
# Request handlers: fallible computations over a shared state

A server handles a request by reading and writing a state it shares with every
other request, and it may stop half-way with an exception.  Nothing is rolled
back: what was written before the throw stays written.  `Handler σ ε α` is that
kind of computation, as a function from the state to an outcome *and* the state
left behind.

* `bind_apply` and the other `_apply` lemmas — how a handler runs, step by step.
* `bind_related` — **one run**: what a program does to the state, from what its
  parts do, up to a transitive relation.
* `Alike` — **two runs**: outcomes that cannot be told apart, with the rule that
  builds two runs of a program from the runs of its statements.
-/

namespace Lib

/-- A computation over a state `σ` that returns an `α` or throws an `ε`.  The
state it leaves behind is there in both cases. -/
def Handler (σ ε α : Type) : Type := σ → Except ε α × σ

namespace Handler

variable {σ ε α β : Type}

instance : Monad (Handler σ ε) where
  pure a := fun s => (.ok a, s)
  bind x f := fun s =>
    match x s with
    | (.ok a, s') => f a s'
    | (.error e, s') => (.error e, s')

/-- Read the state. -/
def get : Handler σ ε σ := fun s => (.ok s, s)

/-- Write the state. -/
def modify (f : σ → σ) : Handler σ ε Unit := fun s => (.ok (), f s)

/-- Stop with an exception. -/
def throw (e : ε) : Handler σ ε α := fun s => (.error e, s)

/-- The value of an optional, or the exception `e` when there is none. -/
def orThrow (e : ε) : Option α → Handler σ ε α
  | some a => pure a
  | none => throw e

/-- Run `x` only if `b` holds. -/
def when (b : Bool) (x : Handler σ ε Unit) : Handler σ ε Unit := if b then x else pure ()

/-! ## How handlers run -/

theorem pure_apply (a : α) (s : σ) : (pure a : Handler σ ε α) s = (.ok a, s) := rfl

theorem bind_apply (x : Handler σ ε α) (f : α → Handler σ ε β) (s : σ) :
    (x >>= f) s =
      match x s with
      | (.ok a, s') => f a s'
      | (.error e, s') => (.error e, s') := rfl

theorem get_apply (s : σ) : (get : Handler σ ε σ) s = (.ok s, s) := rfl

theorem bind_ok {x : Handler σ ε α} {f : α → Handler σ ε β} {s s' : σ} {a : α}
    (h : x s = (.ok a, s')) : (x >>= f) s = f a s' := by
  rw [bind_apply, h]

theorem bind_error {x : Handler σ ε α} {f : α → Handler σ ε β} {s s' : σ} {e : ε}
    (h : x s = (.error e, s')) : (x >>= f) s = (.error e, s') := by
  rw [bind_apply, h]

/-- A handler whose result is only wrapped leaves behind what it left behind. -/
theorem bind_pure_state (x : Handler σ ε α) (f : α → β) (s : σ) :
    ((x >>= fun a => pure (f a)) s).2 = (x s).2 := by
  rw [bind_apply]
  rcases x s with ⟨e | a, s'⟩
  · rfl
  · rfl

/-- It returns what it returned, wrapped. -/
theorem bind_pure_result (x : Handler σ ε α) (f : α → β) (s : σ) :
    ((x >>= fun a => pure (f a)) s).1 = (x s).1.map f := by
  rw [bind_apply]
  rcases x s with ⟨e | a, s'⟩
  · rfl
  · rfl

/-- If both parts of a program relate the state they start in to the one they leave
behind, so does the program, whether it returns or throws. -/
theorem bind_related {R : σ → σ → Prop} (htrans : ∀ {s t u}, R s t → R t u → R s u)
    {x : Handler σ ε α} {f : α → Handler σ ε β} {s : σ} (hx : R s (x s).2)
    (hf : ∀ a t, R t (f a t).2) : R s ((x >>= f) s).2 := by
  rw [bind_apply]
  generalize x s = p at hx
  obtain ⟨e | a, t⟩ := p
  · exact hx
  · exact htrans hx (hf a t)

theorem when_true (x : Handler σ ε Unit) : when true x = x := rfl

/-! ## Two runs -/

/-- Two outcomes are alike: the same result, and states that `R` relates. -/
def Alike (R : σ → σ → Prop) (p q : Except ε α × σ) : Prop := p.1 = q.1 ∧ R p.2 q.2

/-- Handlers that go on alike after a start that was alike end alike. -/
theorem Alike.bind {R S : σ → σ → Prop} {x : Handler σ ε α} {f : α → Handler σ ε β} {s t : σ}
    (hx : Alike R (x s) (x t)) (hRS : ∀ s' t', R s' t' → S s' t')
    (hf : ∀ a s' t', R s' t' → Alike S (f a s') (f a t')) :
    Alike S ((x >>= f) s) ((x >>= f) t) := by
  rw [bind_apply, bind_apply]
  generalize x s = p at hx
  generalize x t = q at hx
  obtain ⟨result, s'⟩ := p
  obtain ⟨result', t'⟩ := q
  obtain ⟨hresult, hstates⟩ := hx
  cases hresult
  cases result with
  | error e => exact ⟨rfl, hRS s' t' hstates⟩
  | ok a => exact hf a s' t' hstates

end Handler

end Lib
