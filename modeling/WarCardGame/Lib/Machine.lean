import Mathlib

/-!
# Machines that answer requests

A machine takes an input in a state, moves to another state and gives an output.
Everything a server does, request after request, is a `run` of such a machine.

* `run`, `outputs`, `steps` — the state a sequence of inputs leads to, what came
  out on the way, and the pairs of state and input it went through.
* `run_invariant`, `run_traced` — **invariants**: what one step keeps, a run keeps;
  the invariant may speak of the inputs taken so far.
* `always_iff` — a run stays in good states exactly when all its steps are good.
* `history`, `history_invariant` — **histories**: the record an observer of the
  steps keeps, and what it has to do with the state.
* `run_simulates`, `outputs_simulate` — **simulation**: two machines that stay
  related step by step stay related run by run, and so do their outputs.
* `agree_iff` — **two runs**: from related states they show the same at every point
  exactly when all their steps meet a condition that decides it step by step.
* `keptOutputs_eq` — **purging**: inputs that restore what the others read can be
  taken out of a run without changing what the others give.
-/

namespace Lib

/-- A machine with states `σ`, inputs `ι` and outputs `ο`. -/
structure Machine (σ ι ο : Type) where
  step : σ → ι → σ × ο

namespace Machine

variable {σ ι ο τ κ π : Type} (M : Machine σ ι ο)

/-- The state after an input. -/
def next (s : σ) (i : ι) : σ := (M.step s i).1

/-- The output of an input. -/
def out (s : σ) (i : ι) : ο := (M.step s i).2

/-- The state after a sequence of inputs. -/
def run (s : σ) : List ι → σ
  | [] => s
  | i :: is => run (M.next s i) is

/-- The outputs of a sequence of inputs, in order. -/
def outputs (s : σ) : List ι → List ο
  | [] => []
  | i :: is => M.out s i :: outputs (M.next s i) is

/-- The inputs of a sequence, each with the state in which it is taken. -/
def steps (s : σ) : List ι → List (σ × ι)
  | [] => []
  | i :: is => (s, i) :: steps (M.next s i) is

@[simp] theorem run_nil (s : σ) : M.run s [] = s := rfl

@[simp] theorem run_cons (s : σ) (i : ι) (is : List ι) :
    M.run s (i :: is) = M.run (M.next s i) is := rfl

@[simp] theorem outputs_nil (s : σ) : M.outputs s [] = [] := rfl

@[simp] theorem outputs_cons (s : σ) (i : ι) (is : List ι) :
    M.outputs s (i :: is) = M.out s i :: M.outputs (M.next s i) is := rfl

@[simp] theorem steps_nil (s : σ) : M.steps s [] = [] := rfl

@[simp] theorem steps_cons (s : σ) (i : ι) (is : List ι) :
    M.steps s (i :: is) = (s, i) :: M.steps (M.next s i) is := rfl

theorem run_append (s : σ) (is js : List ι) : M.run s (is ++ js) = M.run (M.run s is) js := by
  induction is generalizing s with
  | nil => rfl
  | cons i is ih => exact ih (M.next s i)

/-- A step of a run splits it: the inputs before, the one taken, those after. -/
theorem mem_steps {s t : σ} {i : ι} {is : List ι} :
    (t, i) ∈ M.steps s is ↔ ∃ pre post, is = pre ++ i :: post ∧ t = M.run s pre := by
  induction is generalizing s with
  | nil => simp
  | cons j js ih =>
      rw [steps_cons, List.mem_cons, ih]
      constructor
      · rintro (h | ⟨pre, post, rfl, rfl⟩)
        · cases h
          exact ⟨[], js, rfl, rfl⟩
        · exact ⟨j :: pre, post, rfl, rfl⟩
      · rintro ⟨pre, post, hsplit, rfl⟩
        cases pre with
        | nil =>
            cases hsplit
            exact Or.inl rfl
        | cons k pre =>
            cases hsplit
            exact Or.inr ⟨pre, post, rfl, rfl⟩

/-! ## Invariants -/

variable {M}

/-- What every step keeps, every run keeps. -/
theorem run_invariant {I : σ → Prop} (hstep : ∀ s i, I s → I (M.next s i)) {s : σ} (hs : I s)
    (is : List ι) : I (M.run s is) := by
  induction is generalizing s with
  | nil => exact hs
  | cons i is ih => exact ih (hstep s i hs)

/-- The same for an invariant that speaks of the inputs taken so far. -/
theorem run_traced {I : List ι → σ → Prop} {s : σ} (hs : I [] s)
    (hstep : ∀ pre t i, I pre t → I (pre ++ [i]) (M.next t i)) (is : List ι) :
    I is (M.run s is) := by
  induction is using List.reverseRecOn with
  | nil => exact hs
  | append_singleton is i ih =>
      rw [run_append]
      exact hstep is (M.run s is) i ih

/-- If a step out of a good state leads to a good state exactly when it meets
`C`, a run stays in good states exactly when all its steps meet `C`. -/
theorem always_iff {P : σ → Prop} {C : σ → ι → Prop}
    (hstep : ∀ s i, P s → (P (M.next s i) ↔ C s i)) {s : σ} (hs : P s) (is : List ι) :
    (∀ pre, pre <+: is → P (M.run s pre)) ↔ ∀ x ∈ M.steps s is, C x.1 x.2 := by
  induction is generalizing s with
  | nil =>
      constructor
      · intro _ x hx
        exact absurd hx List.not_mem_nil
      · intro _ pre hpre
        rw [List.prefix_nil.1 hpre]
        exact hs
  | cons i is ih =>
      constructor
      · intro h x hx
        have hnext : P (M.next s i) := h [i] (by simp)
        rcases List.mem_cons.1 hx with rfl | hrest
        · exact (hstep s i hs).1 hnext
        · refine (ih hnext).1 (fun pre hpre => ?_) x hrest
          exact h (i :: pre) (List.cons_prefix_cons.2 ⟨rfl, hpre⟩)
      · intro h pre hpre
        have hnext : P (M.next s i) := (hstep s i hs).2 (h (s, i) (List.mem_cons_self ..))
        cases pre with
        | nil => exact hs
        | cons j pre =>
            obtain ⟨rfl, hrest⟩ := List.cons_prefix_cons.1 hpre
            exact (ih hnext).2 (fun x hx => h x (List.mem_cons_of_mem _ hx)) pre hrest

/-! ## Histories -/

/-- What an observer who updates a record `p` at every step knows at the end. -/
def history (M : Machine σ ι ο) (f : π → σ → ι → π) (p : π) (s : σ) : List ι → π
  | [] => p
  | i :: is => history M f (f p s i) (M.next s i) is

/-- A relation between record and state that every step which meets `C` keeps,
every run of such steps keeps. -/
theorem history_invariant {f : π → σ → ι → π} {I : π → σ → Prop} {C : σ → ι → Prop}
    (hstep : ∀ p s i, I p s → C s i → I (f p s i) (M.next s i)) {p : π} {s : σ} (h : I p s)
    {is : List ι} (hC : ∀ x ∈ M.steps s is, C x.1 x.2) : I (M.history f p s is) (M.run s is) := by
  induction is generalizing p s with
  | nil => exact h
  | cons i is ih =>
      refine ih (hstep p s i h (hC (s, i) (List.mem_cons_self ..))) fun x hx => ?_
      exact hC x (List.mem_cons_of_mem _ hx)

/-! ## Simulation -/

/-- Machines that stay related along one input stay related along any sequence
of inputs from a class `C`. -/
theorem run_simulates {N : Machine τ κ π} {R : σ → τ → Prop} {C : ι → Prop} {f : ι → κ}
    (hstep : ∀ s t i, C i → R s t → R (M.next s i) (N.next t (f i))) {s : σ} {t : τ} (hst : R s t)
    {is : List ι} (hC : ∀ i ∈ is, C i) : R (M.run s is) (N.run t (is.map f)) := by
  induction is generalizing s t with
  | nil => exact hst
  | cons i is ih =>
      exact ih (hstep s t i (hC i (List.mem_cons_self ..)) hst)
        fun j hj => hC j (List.mem_cons_of_mem _ hj)

/-- If their outputs on one input agree under two readings, so do those of a
run. -/
theorem outputs_simulate {ρ : Type} {N : Machine τ κ π} {R : σ → τ → Prop} {C : ι → Prop}
    {f : ι → κ} {φ : ο → ρ} {ψ : π → ρ}
    (hstep : ∀ s t i, C i → R s t →
      R (M.next s i) (N.next t (f i)) ∧ φ (M.out s i) = ψ (N.out t (f i)))
    {s : σ} {t : τ} (hst : R s t) {is : List ι} (hC : ∀ i ∈ is, C i) :
    (M.outputs s is).map φ = (N.outputs t (is.map f)).map ψ := by
  induction is generalizing s t with
  | nil => rfl
  | cons i is ih =>
      obtain ⟨hnext, hout⟩ := hstep s t i (hC i (List.mem_cons_self ..)) hst
      rw [List.map_cons, outputs_cons, outputs_cons, List.map_cons, List.map_cons, hout,
        ih hnext fun j hj => hC j (List.mem_cons_of_mem _ hj)]

/-! ## Two runs -/

/-- Let a step that meets `C` keep two states related, and one that does not make
their views differ.  Then two runs from related states show the same view at every
point exactly when all steps of the first one meet `C`. -/
theorem agree_iff {γ : Type} (view : σ → γ) {R : σ → σ → Prop} {D : ι → Prop} {C : σ → ι → Prop}
    (hview : ∀ s t, R s t → view t = view s)
    (hkeep : ∀ s t i, D i → R s t → C s i → R (M.next s i) (M.next t i))
    (hbreak : ∀ s t i, D i → R s t → ¬ C s i → view (M.next t i) ≠ view (M.next s i))
    {s t : σ} (hst : R s t) {is : List ι} (hD : ∀ i ∈ is, D i) :
    (∀ pre, pre <+: is → view (M.run t pre) = view (M.run s pre)) ↔
      ∀ x ∈ M.steps s is, C x.1 x.2 := by
  induction is generalizing s t with
  | nil =>
      constructor
      · intro _ x hx
        exact absurd hx List.not_mem_nil
      · intro _ pre hpre
        rw [List.prefix_nil.1 hpre]
        exact hview s t hst
  | cons i is ih =>
      have hi : D i := hD i (List.mem_cons_self ..)
      have hrest : ∀ j ∈ is, D j := fun j hj => hD j (List.mem_cons_of_mem _ hj)
      constructor
      · intro h x hx
        have hC : C s i := by
          by_contra hnot
          exact hbreak s t i hi hst hnot (h [i] (by simp))
        rcases List.mem_cons.1 hx with rfl | hlater
        · exact hC
        · refine (ih (hkeep s t i hi hst hC) hrest).1 (fun pre hpre => ?_) x hlater
          exact h (i :: pre) (List.cons_prefix_cons.2 ⟨rfl, hpre⟩)
      · intro h pre hpre
        have hnext := hkeep s t i hi hst (h (s, i) (List.mem_cons_self ..))
        cases pre with
        | nil => exact hview s t hst
        | cons j pre =>
            obtain ⟨rfl, hlater⟩ := List.cons_prefix_cons.1 hpre
            exact (ih hnext hrest).2 (fun x hx => h x (List.mem_cons_of_mem _ hx)) pre hlater

/-! ## Purging -/

/-- The outputs of the inputs that `keep` selects. -/
def keptOutputs (M : Machine σ ι ο) (keep : ι → Bool) (s : σ) : List ι → List ο
  | [] => []
  | i :: is =>
      if keep i then M.out s i :: keptOutputs M keep (M.next s i) is
      else keptOutputs M keep (M.next s i) is

/-- Whenever a kept input is taken, the state looks as the last kept input left
it (as it looked at the start, for the first one). -/
def restores {γ : Type} (M : Machine σ ι ο) (keep : ι → Bool) (view : σ → γ) (seen : γ) (s : σ) :
    List ι → Prop
  | [] => True
  | i :: is =>
      if keep i then view s = seen ∧ restores M keep view (view (M.next s i)) (M.next s i) is
      else restores M keep view seen (M.next s i) is

instance decidableRestores {γ : Type} [DecidableEq γ] (M : Machine σ ι ο) (keep : ι → Bool)
    (view : σ → γ) (seen : γ) (s : σ) : ∀ is, Decidable (M.restores keep view seen s is)
  | [] => .isTrue trivial
  | i :: is =>
      have := decidableRestores M keep view (view (M.next s i)) (M.next s i) is
      have := decidableRestores M keep view seen (M.next s i) is
      inferInstanceAs (Decidable
        (if keep i then view s = seen ∧ M.restores keep view (view (M.next s i)) (M.next s i) is
          else M.restores keep view seen (M.next s i) is))

/-- **Purging.**  Let the outputs of kept inputs, and what they do to `view` and
`own`, depend on `view` and `own` only, and let no dropped input change `own`.
Then the kept inputs of a run whose dropped inputs restore `view` give what they
give alone. -/
theorem keptOutputs_eq {γ δ : Type} {keep : ι → Bool} (view : σ → γ) (own : σ → δ)
    {I : σ → Prop} {C : ι → Prop} (hI : ∀ s i, C i → I s → I (M.next s i))
    (hkept : ∀ s t i, keep i = true → C i → I s → I t → view s = view t → own s = own t →
      M.out s i = M.out t i ∧ view (M.next s i) = view (M.next t i) ∧
        own (M.next s i) = own (M.next t i))
    (hdropped : ∀ s i, keep i = false → C i → I s → own (M.next s i) = own s)
    {s t : σ} (hs : I s) (ht : I t) (hown : own s = own t) {is : List ι} (hC : ∀ i ∈ is, C i)
    (hrestores : M.restores keep view (view t) s is) :
    M.keptOutputs keep s is = M.outputs t (is.filter keep) := by
  induction is generalizing s t with
  | nil => rfl
  | cons i is ih =>
      have hi : C i := hC i (List.mem_cons_self ..)
      have hrest : ∀ j ∈ is, C j := fun j hj => hC j (List.mem_cons_of_mem _ hj)
      cases hkeep : keep i with
      | true =>
          rw [restores, if_pos hkeep] at hrestores
          obtain ⟨hview, hlater⟩ := hrestores
          obtain ⟨hout, hview', hown'⟩ := hkept s t i hkeep hi hs ht hview hown
          rw [hview'] at hlater
          rw [keptOutputs, if_pos hkeep, List.filter_cons_of_pos hkeep, outputs_cons, hout,
            ih (hI s i hi hs) (hI t i hi ht) hown' hrest hlater]
      | false =>
          rw [restores, if_neg (by simp [hkeep])] at hrestores
          have hown' := (hdropped s i hkeep hi hs).trans hown
          rw [keptOutputs, if_neg (by simp [hkeep]), List.filter_cons_of_neg (by simp [hkeep]),
            ih (hI s i hi hs) ht hown' hrest hrestores]

end Machine

end Lib
