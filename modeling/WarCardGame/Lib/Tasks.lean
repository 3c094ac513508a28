import WarCardGame.Lib.Handler
import WarCardGame.Lib.Machine

/-!
# Tasks: handlers that others may interrupt

A handler runs to its end before anything else happens.  A `Task` does not: it
is a chain of calls, each of which reads and writes the shared state at once,
and between two calls of one task other tasks may make theirs.

* `Task.run`, `run_bind`, `run_atomic` — a task that is left alone is a handler,
  and the handler of a chain is the chain of the handlers.
* `step_ok`, `step_error` — the next call of a chain.
* `Pool`, `pool` — tasks over one state as a machine: an input names the task
  that makes its next call, so a sequence of inputs is an interleaving.
* `next_state`, `next_tasks_self`, `next_tasks_ne` — what a call of one task does
  to the pool.
-/

namespace Lib

/-- A chain of atomic calls that ends with a result.  What comes after a call
may depend on the state the call found. -/
inductive Task (σ ε α : Type) : Type where
  | done (result : Except ε α)
  | call (effect : σ → σ) (next : σ → Task σ ε α)

namespace Task

variable {σ ε α β : Type}

/-- Go on with the result of a task; an exception ends the chain. -/
def bind : Task σ ε α → (α → Task σ ε β) → Task σ ε β
  | done (.ok a), f => f a
  | done (.error e), _ => done (.error e)
  | call effect next, f => call effect fun s => (next s).bind f

instance : Monad (Task σ ε) where
  pure a := done (.ok a)
  bind := bind

/-- A handler that is one call. -/
def atomic (x : Handler σ ε α) : Task σ ε α := call (fun s => (x s).2) fun s => done (x s).1

/-- The value of an optional, or the exception `e` when there is none. -/
def orThrow (e : ε) : Option α → Task σ ε α
  | some a => done (.ok a)
  | none => done (.error e)

/-! ## A task alone -/

/-- The task as a handler: nothing comes between its calls. -/
def run : Task σ ε α → Handler σ ε α
  | done result => fun s => (result, s)
  | call effect next => fun s => (next s).run (effect s)

theorem run_atomic (x : Handler σ ε α) : (atomic x).run = x := rfl

theorem run_pure (a : α) : (pure a : Task σ ε α).run = pure a := rfl

theorem run_orThrow (e : ε) (o : Option α) :
    (orThrow e o : Task σ ε α).run = Handler.orThrow e o := by
  cases o with
  | none => rfl
  | some a => rfl

theorem run_bind (t : Task σ ε α) (f : α → Task σ ε β) :
    (t >>= f).run = t.run >>= fun a => (f a).run := by
  induction t with
  | done result =>
      cases result with
      | ok a => rfl
      | error e => rfl
  | call effect next ih =>
      funext s
      exact congrFun (ih s) (effect s)

/-! ## One call -/

/-- The result of a task that is done. -/
def result? : Task σ ε α → Option (Except ε α)
  | done result => some result
  | call _ _ => none

/-- The next call of a task: what is left of the task, and the state. -/
def step : Task σ ε α → σ → Task σ ε α × σ
  | done result, s => (done result, s)
  | call effect next, s => (next s, effect s)

theorem bind_bind {γ : Type} (t : Task σ ε α) (f : α → Task σ ε β) (g : β → Task σ ε γ) :
    t >>= f >>= g = t >>= fun a => f a >>= g := by
  induction t with
  | done result =>
      cases result with
      | ok a => rfl
      | error e => rfl
  | call effect next ih => exact congrArg (call effect) (funext ih)

section Calls

variable {x : Handler σ ε α} {f : α → Task σ ε β} {s s' : σ}

/-- After a call the task goes on with what the call returned. -/
theorem step_ok {a : α} (h : x s = (.ok a, s')) : (atomic x >>= f).step s = (f a, s') := by
  show (bind (done (x s).1) f, (x s).2) = _
  rw [h]
  rfl

/-- A call that throws ends the task. -/
theorem step_error {e : ε} (h : x s = (.error e, s')) :
    (atomic x >>= f).step s = (done (.error e), s') := by
  show (bind (done (x s).1) f, (x s).2) = _
  rw [h]
  rfl

end Calls

end Task

/-- Tasks over one state. -/
structure Pool (ι σ ε α : Type) where
  state : σ
  tasks : ι → Task σ ε α

variable {ι σ ε α : Type} [DecidableEq ι]

/-- The tasks as a machine: the input says whose call is next.  A task that is
done does nothing. -/
def pool : Machine (Pool ι σ ε α) ι Unit where
  step P i :=
    ({ state := ((P.tasks i).step P.state).2
       tasks := Function.update P.tasks i ((P.tasks i).step P.state).1 }, ())

namespace Pool

variable (P : Pool ι σ ε α) (i : ι)

theorem next_state : (pool.next P i).state = ((P.tasks i).step P.state).2 := rfl

theorem next_tasks_self : (pool.next P i).tasks i = ((P.tasks i).step P.state).1 :=
  Function.update_self ..

theorem next_tasks_ne {j : ι} (h : j ≠ i) : (pool.next P i).tasks j = P.tasks j :=
  Function.update_of_ne h ..

end Pool

end Lib
