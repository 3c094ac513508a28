import WarCardGame.Lib.Machine

/-!
# Clients around a server

Clients send requests to a server, and whatever the server publishes goes to all of
them.  A request that was sent is on its way until the server gets to it: requests
overtake each other, and they can get lost.  Nothing is forged: every request on its
way was sent by the client it is attributed to.

* `Network`, `Network.machine` — the parts, and how they move together: a client
  acts, a client looks at the server, a request is served, a request is lost.
* `Keeps` — what has to be shown of the parts so that a property of the server, of
  each client and of each request on its way survives every move.
* `Keeps.run` — **the invariant rule**: then it survives every run.
-/

namespace Lib

/-- A server with states `σ` that handles requests `ρ`, given choices `χ` that are
made outside, and publishes events `ε`; and a client with states `κ`, acts `α`, and
ways `ν` of looking at the server. -/
structure Network (σ κ ρ ε χ α ν : Type) where
  /-- The server handles a request. -/
  serve : σ → ρ → χ → σ × List ε
  /-- Published events reach a client. -/
  receive : κ → List ε → κ
  /-- A client acts, and may send requests. -/
  act : κ → α → κ × List ρ
  /-- A client looks at the server. -/
  visit : σ → κ → ν → κ

namespace Network

variable {β σ κ ρ ε χ α ν : Type}

/-- The server, the clients, and the requests on their way with their senders. -/
structure State (β σ κ ρ : Type) where
  server : σ
  requests : List (β × ρ)
  clients : β → κ

/-- What can happen next. -/
inductive Move (β χ α ν : Type) where
  | act (client : β) (a : α)
  | visit (client : β) (v : ν)
  /-- The request at position `k` is served. -/
  | serve (k : ℕ) (choice : χ)
  /-- The request at position `k` is lost. -/
  | lose (k : ℕ)

variable [DecidableEq β]

/-- The parts together. -/
def machine (N : Network σ κ ρ ε χ α ν) : Machine (State β σ κ ρ) (Move β χ α ν) Unit where
  step n
    | .act b a =>
        ({ n with
            requests := n.requests ++ (N.act (n.clients b) a).2.map fun r => (b, r)
            clients := Function.update n.clients b (N.act (n.clients b) a).1 }, ())
    | .visit b v =>
        ({ n with clients := Function.update n.clients b (N.visit n.server (n.clients b) v) }, ())
    | .serve k x =>
        match n.requests[k]? with
        | some (_, r) =>
            ({ server := (N.serve n.server r x).1
               requests := n.requests.eraseIdx k
               clients := fun c => N.receive (n.clients c) (N.serve n.server r x).2 }, ())
        | none => (n, ())
    | .lose k => ({ n with requests := n.requests.eraseIdx k }, ())

variable {N : Network σ κ ρ ε χ α ν} {n : State β σ κ ρ}

theorem next_serve {k : ℕ} {b : β} {r : ρ} (h : n.requests[k]? = some (b, r)) (x : χ) :
    N.machine.next n (.serve k x) =
      { server := (N.serve n.server r x).1
        requests := n.requests.eraseIdx k
        clients := fun c => N.receive (n.clients c) (N.serve n.server r x).2 } := by
  simp only [Machine.next, machine, h]

theorem next_serve_none {k : ℕ} (h : n.requests[k]? = none) (x : χ) :
    N.machine.next n (.serve k x) = n := by
  simp only [Machine.next, machine, h]

theorem next_act (b : β) (a : α) :
    N.machine.next n (.act b a) =
      { n with
        requests := n.requests ++ (N.act (n.clients b) a).2.map fun r => (b, r)
        clients := Function.update n.clients b (N.act (n.clients b) a).1 } :=
  rfl

theorem next_visit (b : β) (v : ν) :
    N.machine.next n (.visit b v) =
      { n with clients := Function.update n.clients b (N.visit n.server (n.clients b) v) } :=
  rfl

/-- **One client reacts to a request.**  The request is served, the client `c` acts on
what was published, looks at the server, and its next act sends a request that is
served next. -/
theorem run_reaction {k : ℕ} {b c : β} {r : ρ} (r' : ρ) {x y : χ} {a a' : α} {v : ν}
    (h : n.requests[k]? = some (b, r))
    (hsilent : (N.act (N.receive (n.clients c) (N.serve n.server r x).2) a).2 = [])
    (hsend : (N.act (N.visit (N.serve n.server r x).1
      (N.act (N.receive (n.clients c) (N.serve n.server r x).2) a).1 v) a').2 = [r']) :
    (N.machine.run n [.serve k x, .act c a, .visit c v, .act c a',
      .serve (n.requests.length - 1) y]).server =
        (N.serve (N.serve n.server r x).1 r' y).1 := by
  obtain ⟨hk, -⟩ := List.getElem?_eq_some_iff.1 h
  have hlength : (n.requests.eraseIdx k).length = n.requests.length - 1 :=
    List.length_eraseIdx_of_lt hk
  rw [Machine.run_cons, next_serve h, Machine.run_cons, next_act, Machine.run_cons, next_visit,
    Machine.run_cons, next_act, Machine.run_cons, Machine.run_nil]
  simp only [Function.update_self, hsilent, hsend, List.map_nil, List.append_nil, List.map_cons]
  rw [next_serve (b := c) (r := r')]
  rw [← hlength, List.getElem?_concat_length]

/-! ## Invariants -/

/-- The server satisfies `S`, and relative to its state every client satisfies `C`
and every request on its way satisfies `Q`. -/
structure Sound (S : σ → Prop) (C : σ → β → κ → Prop) (Q : σ → β → ρ → Prop)
    (n : State β σ κ ρ) : Prop where
  server : S n.server
  clients : ∀ b, C n.server b (n.clients b)
  requests : ∀ q ∈ n.requests, Q n.server q.1 q.2

/-- What the parts have to keep, if the clients do only what is `allowed`. -/
structure Keeps (N : Network σ κ ρ ε χ α ν) (S : σ → Prop) (C : σ → β → κ → Prop)
    (Q : σ → β → ρ → Prop) (allowed : β → α → Prop) : Prop where
  serve : ∀ {s b r} x, S s → Q s b r → S (N.serve s r x).1
  request : ∀ {s b r c q} x, S s → Q s b r → Q s c q → Q (N.serve s r x).1 c q
  receive : ∀ {s b r c k} x, S s → Q s b r → C s c k →
    C (N.serve s r x).1 c (N.receive k (N.serve s r x).2)
  act : ∀ {s b k a}, S s → C s b k → allowed b a → C s b (N.act k a).1
  send : ∀ {s b k a}, S s → C s b k → allowed b a → ∀ r ∈ (N.act k a).2, Q s b r
  visit : ∀ {s b k} v, S s → C s b k → C s b (N.visit s k v)

/-- A move in which a client acts is one of the allowed acts. -/
def Move.Allowed (allowed : β → α → Prop) : Move β χ α ν → Prop
  | .act b a => allowed b a
  | _ => True

namespace Keeps

variable {S : σ → Prop} {C : σ → β → κ → Prop} {Q : σ → β → ρ → Prop} {allowed : β → α → Prop}

/-- One move. -/
theorem next (h : N.Keeps S C Q allowed) (hn : Sound S C Q n) {move : Move β χ α ν}
    (hmove : move.Allowed allowed) : Sound S C Q (N.machine.next n move) := by
  cases move with
  | act b a =>
      refine ⟨hn.server, fun c => ?_, fun q hq => ?_⟩
      · show C n.server c (Function.update n.clients b (N.act (n.clients b) a).1 c)
        by_cases hc : c = b
        · subst hc
          rw [Function.update_self]
          exact h.act hn.server (hn.clients c) hmove
        · rw [Function.update_of_ne hc]
          exact hn.clients c
      · rcases List.mem_append.1 hq with hold | hnew
        · exact hn.requests q hold
        · obtain ⟨r, hr, rfl⟩ := List.mem_map.1 hnew
          exact h.send hn.server (hn.clients b) hmove r hr
  | visit b v =>
      refine ⟨hn.server, fun c => ?_, hn.requests⟩
      show C n.server c (Function.update n.clients b (N.visit n.server (n.clients b) v) c)
      by_cases hc : c = b
      · subst hc
        rw [Function.update_self]
        exact h.visit v hn.server (hn.clients c)
      · rw [Function.update_of_ne hc]
        exact hn.clients c
  | serve k x =>
      cases hk : n.requests[k]? with
      | none =>
          rw [next_serve_none hk]
          exact hn
      | some q =>
          obtain ⟨b, r⟩ := q
          have hq : Q n.server b r := hn.requests (b, r) (List.mem_of_getElem? hk)
          rw [next_serve hk]
          refine ⟨h.serve x hn.server hq, fun c => h.receive x hn.server hq (hn.clients c), ?_⟩
          intro p hp
          exact h.request x hn.server hq (hn.requests p (List.mem_of_mem_eraseIdx hp))
  | lose k =>
      exact ⟨hn.server, hn.clients, fun q hq => hn.requests q (List.mem_of_mem_eraseIdx hq)⟩

/-- **What the parts keep, every run keeps.** -/
theorem run (h : N.Keeps S C Q allowed) (hn : Sound S C Q n) {moves : List (Move β χ α ν)}
    (hmoves : ∀ move ∈ moves, move.Allowed allowed) : Sound S C Q (N.machine.run n moves) := by
  induction moves generalizing n with
  | nil => exact hn
  | cons move moves ih =>
      refine ih (h.next hn (hmoves move (List.mem_cons_self ..))) fun m hm => ?_
      exact hmoves m (List.mem_cons_of_mem _ hm)

end Keeps

end Network

end Lib
