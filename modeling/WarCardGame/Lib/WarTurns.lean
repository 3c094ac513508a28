import WarCardGame.Lib.WarEndings

/-!
# Turns of a game of War

A move out of turn does nothing, so of a sequence of moves only those count that are
made in turn: the first move of player 1, the first one of player 2 after it, and so
on.  How many there are is `turnsTaken`, and the game depends on nothing else.

* `Game.run_eq_iterate` — **the turns are all that counts**: a game is where so many
  moves in turn take it.
* `rounds` — how many pairs are put down in a game, read off the two hands.
* `Game.over_iff` — a game is over exactly when twice as many turns were taken.
* `rounds_le` — and there are no more rounds than cards in a hand.
-/

namespace Lib.War

open Lib

/-- The move of the other side. -/
def Move.other : Move → Move
  | .play1 => .play2
  | .play2 => .play1

/-- How many of the moves are made in turn, if `next` is the move whose turn it is. -/
def turnsTaken (next : Move) : List Move → ℕ
  | [] => 0
  | move :: moves =>
      if move = next then turnsTaken next.other moves + 1 else turnsTaken next moves

variable {α β : Type} [LinearOrder β] (rank : α → β) (short : ℕ → ℕ → Option Side)

namespace Game

variable {g : Game α}

/-- The move whose turn it is. -/
def turn (g : Game α) : Move := if g.table.isNone then .play1 else .play2

/-- The game after a move in turn. -/
def advance (g : Game α) : Game α := g.step rank short g.turn

/-- A move out of turn does nothing. -/
theorem step_out_of_turn {move : Move} (h : move ≠ g.turn) : g.step rank short move = g := by
  cases move with
  | play1 =>
      rcases step_play1 rank short g with ⟨a, l1, htable, -⟩ | ⟨-, hstep⟩
      · simp [turn, htable] at h
      · exact hstep
  | play2 =>
      rcases step_play2 rank short g with ⟨a, b, l2, htable, -⟩ | ⟨-, hstep, -⟩
      · simp [turn, htable] at h
      · exact hstep

/-- After a move in turn it is the other side's turn, unless the game is over. -/
theorem turn_advance (h : g.Balanced) (hover : ¬ g.Over) :
    (g.advance rank short).turn = g.turn.other := by
  cases htable : g.table with
  | none =>
      have hturn : g.turn = .play1 := by simp [turn, htable]
      rw [advance, hturn]
      rcases step_play1 rank short g with ⟨a, l1, -, -, hstep⟩ | ⟨hno, -⟩
      · rw [hstep]
        rfl
      · -- without a card for player 1 the game would be over
        have hnil : g.hand1 = [] := hno.resolve_left fun hsome => hsome htable
        refine absurd (h.over ?_) hover
        rw [Balanced, htable, hnil] at h
        exact List.length_eq_zero_iff.1 h
  | some a =>
      have hturn : g.turn = .play2 := by simp [turn, htable]
      rw [advance, hturn]
      rcases step_play2 rank short g with ⟨c, b, l2, -, -, hstep, -⟩ | ⟨hno, -⟩
      · rw [hstep, turn, settle_table]
        rfl
      · refine absurd (h.over (hno.resolve_left ?_)) hover
        rw [htable]
        simp

theorem Over.advance (h : g.Over) : g.advance rank short = g := h.step rank short _

theorem Balanced.advance (h : g.Balanced) : (g.advance rank short).Balanced :=
  h.step rank short _

/-- **The turns are all that counts.** -/
theorem run_eq_iterate (h : g.Balanced) (moves : List Move) :
    (listGame rank short).run g moves =
      (Game.advance rank short)^[turnsTaken g.turn moves] g := by
  induction moves generalizing g with
  | nil => rfl
  | cons move moves ih =>
      rw [Machine.run_cons]
      show (listGame rank short).run (g.step rank short move) moves = _
      by_cases hmove : move = g.turn
      · rw [hmove, turnsTaken, if_pos rfl, Function.iterate_succ_apply]
        show (listGame rank short).run (g.advance rank short) moves = _
        by_cases hover : g.Over
        · rw [hover.advance, Function.iterate_fixed (hover.advance rank short)]
          exact hover.run rank short moves
        · rw [ih (h.advance rank short), turn_advance rank short h hover]
      · rw [step_out_of_turn rank short hmove, ih h, turnsTaken, if_neg hmove]

end Game

/-! ## Rounds -/

/-- A war leaves no more cards than there were. -/
theorem war_rest1_length_le (tied l1 l2 : List α) :
    (war rank tied l1 l2).rest1.length ≤ l1.length := by
  fun_induction war rank tied l1 l2 with
  | case1 tied x1 x2 x3 l1 y1 y2 y3 l2 side hside =>
      show l1.length ≤ l1.length + 3
      omega
  | case2 tied x1 x2 x3 l1 y1 y2 y3 l2 hside ih =>
      show _ ≤ l1.length + 3
      omega
  | case3 tied l1 l2 hfew => exact Nat.zero_le _

theorem battle_rest1_length_le (a b : α) (l1 l2 : List α) :
    (battle rank a b l1 l2).rest1.length ≤ l1.length := by
  unfold battle
  cases higher rank a b with
  | some side => exact le_rfl
  | none => exact war_rest1_length_le rank [] l1 l2

/-- How many pairs are put down in the game of two hands. -/
def rounds : List α → List α → ℕ
  | a :: l1, b :: l2 =>
      rounds (battle rank a b l1 l2).rest1 (battle rank a b l1 l2).rest2 + 1
  | _, _ => 0
termination_by l1 _ => l1.length
decreasing_by exact Nat.lt_succ_of_le (battle_rest1_length_le rank a b l1 l2)

theorem rounds_cons (a b : α) (l1 l2 : List α) :
    rounds rank (a :: l1) (b :: l2) =
      rounds rank (battle rank a b l1 l2).rest1 (battle rank a b l1 l2).rest2 + 1 := by
  rw [rounds]

theorem rounds_nil (l2 : List α) : rounds rank [] l2 = 0 := by
  rw [rounds]
  simp

/-- Every round takes a card from each hand. -/
theorem rounds_le (l1 l2 : List α) : rounds rank l1 l2 ≤ l1.length := by
  fun_induction rounds rank l1 l2 with
  | case1 a l1 b l2 ih =>
      have hle := battle_rest1_length_le rank a b l1 l2
      exact Nat.succ_le_succ (ih.trans hle)
  | case2 l1 l2 hfew => exact Nat.zero_le _

namespace Game

variable {g : Game α}

/-- Two moves in turn are a round. -/
theorem advance_twice {a b : α} {l1 l2 : List α} (htable : g.table = none)
    (hhand1 : g.hand1 = a :: l1) (hhand2 : g.hand2 = b :: l2) :
    ((g.advance rank short).advance rank short).table = none ∧
      ((g.advance rank short).advance rank short).hand1 = (battle rank a b l1 l2).rest1 ∧
      ((g.advance rank short).advance rank short).hand2 = (battle rank a b l1 l2).rest2 := by
  obtain ⟨hand1, hand2, table, pile1, pile2, dropped, stalemate⟩ := g
  simp only at htable hhand1 hhand2
  subst htable hhand1 hhand2
  show (settle short _ a b (battle rank a b l1 l2)).table = none ∧ _
  refine ⟨settle_table .., ?_, ?_⟩
  · exact settle_hand1 ..
  · exact settle_hand2 ..

/-- A game without cards is over, however often it is asked. -/
theorem over_iterate_nil (h : g.Balanced) (htable : g.table = none) (hnil : g.hand1 = []) (k : ℕ) :
    ((Game.advance rank short)^[k] g).Over := by
  have hover : g.Over := by
    refine h.over (List.length_eq_zero_iff.1 ?_)
    rw [Balanced, htable, hnil] at h
    exact h
  rw [Function.iterate_fixed (hover.advance rank short)]
  exact hover

/-- **When a game is over**: after two turns for each round. -/
theorem over_iff (n : ℕ) : ∀ {g : Game α} (k : ℕ), g.Balanced → g.table = none →
    g.hand1.length ≤ n →
    (((Game.advance rank short)^[k] g).Over ↔ 2 * rounds rank g.hand1 g.hand2 ≤ k) := by
  induction n with
  | zero =>
      intro g k h htable hlength
      have hnil : g.hand1 = [] := List.length_eq_zero_iff.1 (Nat.le_zero.1 hlength)
      rw [hnil, rounds_nil]
      exact iff_of_true (over_iterate_nil rank short h htable hnil k) (Nat.zero_le _)
  | succ n ih =>
      intro g k h htable hlength
      cases hhand1 : g.hand1 with
      | nil =>
          rw [rounds_nil]
          exact iff_of_true (over_iterate_nil rank short h htable hhand1 k) (Nat.zero_le _)
      | cons a l1 =>
          obtain ⟨b, l2, hhand2⟩ : ∃ b l2, g.hand2 = b :: l2 := by
            refine List.exists_cons_of_length_pos ?_
            rw [Balanced, hhand1] at h
            simp [h]
          obtain ⟨htable', hrest1, hrest2⟩ := advance_twice rank short htable hhand1 hhand2
          rw [hhand2, rounds_cons]
          -- the first two turns are the first round
          rcases k with _ | _ | k
          · refine iff_of_false (fun hover => ?_) (by omega)
            rw [Function.iterate_zero_apply, Over, hhand1] at hover
            cases hover.1
          · refine iff_of_false (fun hover => ?_) (by omega)
            have hnot : ¬ g.Over := fun hend => List.cons_ne_nil a l1 (hhand1.symm.trans hend.1)
            have hturn : (g.advance rank short).turn = .play2 := by
              rw [turn_advance rank short h hnot]
              simp [turn, htable, Move.other]
            have hnone : (g.advance rank short).table = none := hover.2.2
            simp [turn, hnone] at hturn
          · have hle := battle_rest1_length_le rank a b l1 l2
            rw [Function.iterate_succ_apply, Function.iterate_succ_apply,
              ih k ((h.advance rank short).advance rank short) htable' ?_, hrest1, hrest2]
            · omega
            · rw [hhand1, List.length_cons] at hlength
              rw [hrest1]
              omega

end Game

end Lib.War
