import WarCardGame.Lib.Machine

/-!
# The game of War on two lists

Two players hold a list of cards each, and every card has a rank.  Player 1
puts down the first card of the hand, player 2 answers with the first of theirs,
and the higher rank takes the pair.  On a tie there is a war: each draws three
more cards, and the third pair decides, or leads to another war.  A war for which
there are not enough cards is decided by the sizes of the piles, by a rule
`short` that the game is given (`largerPile`, say).

The winner of a battle gets the pair that started it and the cards of the last
war.  The cards of the wars before it, which tied, are handed to nobody: they are
`dropped`.

* `battle`, `Game.step`, `listGame` — the game, as a machine whose outputs are
  the sizes of the piles each time a winner is announced.
* `battle_split` — a battle takes equally many cards from the front of both
  hands, and accounts for every one of them.
* `Game.Balanced` — player 2 holds as many cards as player 1, the one on the
  table included; every move keeps it.
* `Game.cards_run` — no card leaves the game.
* `Game.dropped_iff` — cards are dropped in a run exactly when one of its moves
  ends a battle in which a war tied.
-/

namespace Lib.War

open Lib

/-- The two sides of a game. -/
inductive Side where
  | player1
  | player2
  deriving DecidableEq, Repr

/-- What a player can ask for. -/
inductive Move where
  | play1
  | play2
  deriving DecidableEq, Repr

variable {α β : Type} [LinearOrder β]

/-! ## Battles -/

/-- The cards of both hands in the order in which they are drawn. -/
def pairs : List α → List α → List α
  | x :: xs, y :: ys => x :: y :: pairs xs ys
  | _, _ => []

/-- The side with the higher card, if there is one. -/
def higher (rank : α → β) (a b : α) : Option Side :=
  if rank b < rank a then some .player1 else if rank a < rank b then some .player2 else none

/-- How a battle ends. -/
structure Battle (α : Type) where
  /-- The side with the higher card of the deciding pair, if the cards sufficed. -/
  winner : Option Side
  /-- The cards of the last war. -/
  drawn : List α
  /-- The cards of the wars before it. -/
  tied : List α
  rest1 : List α
  rest2 : List α
  deriving DecidableEq, Repr

/-- A war over two hands, after wars that cost the cards `tied`. -/
def war (rank : α → β) : List α → List α → List α → Battle α
  | tied, x1 :: x2 :: x3 :: l1, y1 :: y2 :: y3 :: l2 =>
      match higher rank x3 y3 with
      | some side => ⟨some side, pairs [x1, x2, x3] [y1, y2, y3], tied, l1, l2⟩
      | none => war rank (tied ++ pairs [x1, x2, x3] [y1, y2, y3]) l1 l2
  | tied, l1, l2 => ⟨none, pairs l1 l2, tied, [], []⟩

/-- A battle that starts with the pair `a`, `b`. -/
def battle (rank : α → β) (a b : α) (l1 l2 : List α) : Battle α :=
  match higher rank a b with
  | some side => ⟨some side, [], [], l1, l2⟩
  | none => war rank [] l1 l2

/-! ## The game -/

/-- The state of a game. -/
structure Game (α : Type) where
  hand1 : List α
  hand2 : List α
  /-- Player 1's card, while it waits for player 2's. -/
  table : Option α
  pile1 : List α
  pile2 : List α
  /-- The cards nobody got, although somebody won the battle. -/
  dropped : List α
  /-- The cards nobody got in a war that ran out of cards while the piles were
  equal. -/
  stalemate : List α
  deriving DecidableEq, Repr

namespace Game

/-- A game as it is dealt. -/
def deal (hand1 hand2 : List α) : Game α := ⟨hand1, hand2, none, [], [], [], []⟩

/-- Put cards on a side's pile. -/
def give (g : Game α) (cards : List α) : Option Side → Game α
  | some .player1 => { g with pile1 := g.pile1 ++ cards }
  | some .player2 => { g with pile2 := g.pile2 ++ cards }
  | none => g

/-- A battle that ran out of cards while the piles were equal. -/
def evenly (g : Game α) (r : Battle α) : Prop :=
  r.winner = none ∧ g.pile1.length = g.pile2.length

instance (g : Game α) (r : Battle α) : Decidable (g.evenly r) :=
  inferInstanceAs (Decidable (_ ∧ _))

/-- The side that gets the cards of a battle. -/
def taker (short : ℕ → ℕ → Option Side) (g : Game α) (r : Battle α) : Option Side :=
  r.winner.or (short g.pile1.length g.pile2.length)

/-- The cards of a battle that nobody gets. -/
def unclaimed (short : ℕ → ℕ → Option Side) (g : Game α) (a b : α) (r : Battle α) : List α :=
  r.tied ++ (if g.taker short r = none then a :: b :: r.drawn else [])

/-- The game after a battle over the pair `a`, `b`. -/
def settle (short : ℕ → ℕ → Option Side) (g : Game α) (a b : α) (r : Battle α) : Game α :=
  give
    { g with
      hand1 := r.rest1
      hand2 := r.rest2
      table := none
      dropped := g.dropped ++ (if g.evenly r then [] else g.unclaimed short a b r)
      stalemate := g.stalemate ++ (if g.evenly r then g.unclaimed short a b r else []) }
    (a :: b :: r.drawn) (g.taker short r)

/-- The game after a move; a move out of turn or without a card does nothing. -/
def step (rank : α → β) (short : ℕ → ℕ → Option Side) (g : Game α) : Move → Game α
  | .play1 =>
      match g.table, g.hand1 with
      | none, a :: l1 => { g with hand1 := l1, table := some a }
      | _, _ => g
  | .play2 =>
      match g.table, g.hand2 with
      | some a, b :: l2 => g.settle short a b (battle rank a b g.hand1 l2)
      | _, _ => g

/-- The sizes of the piles for which a winner is announced in a move: those
before the cards of a war that runs out of cards are handed out, and those at the
end of a round that player 2 started with the last card. -/
def announces (rank : α → β) (short : ℕ → ℕ → Option Side) (g : Game α) : Move → List (ℕ × ℕ)
  | .play1 => []
  | .play2 =>
      match g.table, g.hand2 with
      | some a, b :: l2 =>
          let r := battle rank a b g.hand1 l2
          let g' := g.settle short a b r
          (if r.winner = none then [(g.pile1.length, g.pile2.length)] else []) ++
            (if l2.isEmpty then [(g'.pile1.length, g'.pile2.length)] else [])
      | _, _ => []

end Game

/-- The game as a machine. -/
def listGame (rank : α → β) (short : ℕ → ℕ → Option Side) :
    Machine (Game α) Move (List (ℕ × ℕ)) where
  step g move := (g.step rank short move, g.announces rank short move)

/-- The side with more cards, for piles of the given sizes. -/
def largerPile (n1 n2 : ℕ) : Option Side :=
  if n2 < n1 then some .player1 else if n1 < n2 then some .player2 else none

/-! ## What a battle takes -/

variable (rank : α → β)

theorem higher_of_gt {a b : α} (h : rank b < rank a) : higher rank a b = some .player1 := if_pos h

theorem higher_of_lt {a b : α} (h : rank a < rank b) : higher rank a b = some .player2 := by
  rw [higher, if_neg (not_lt.2 h.le), if_pos h]

theorem higher_of_eq {a b : α} (h : rank a = rank b) : higher rank a b = none := by
  rw [higher, if_neg (not_lt.2 h.le), if_neg (not_lt.2 h.ge)]

theorem pairs_perm : ∀ {l1 l2 : List α}, l1.length = l2.length →
    (pairs l1 l2).Perm (l1 ++ l2) := by
  intro l1
  induction l1 with
  | nil =>
      intro l2 h
      rw [List.length_nil, eq_comm, List.length_eq_zero_iff] at h
      subst h
      exact List.Perm.refl _
  | cons x xs ih =>
      intro l2 h
      cases l2 with
      | nil => cases h
      | cons y ys =>
          have hperm := ih (Nat.succ.inj h)
          rw [pairs, List.cons_append]
          refine List.Perm.cons x ?_
          exact (hperm.cons y).trans List.perm_middle.symm

/-- With fewer than three cards left a war runs out of cards. -/
theorem war_short (tied : List α) {l1 l2 : List α} (hlength : l1.length = l2.length)
    (hshort : l1.length < 3) : war rank tied l1 l2 = ⟨none, pairs l1 l2, tied, [], []⟩ := by
  match l1, l2, hlength, hshort with
  | [], [], _, _ => rfl
  | [_], [_], _, _ => rfl
  | [_, _], [_, _], _, _ => rfl

/-- With three cards the third pair decides, or there is another war. -/
theorem war_cons (tied : List α) (x1 x2 x3 y1 y2 y3 : α) (l1 l2 : List α) :
    war rank tied (x1 :: x2 :: x3 :: l1) (y1 :: y2 :: y3 :: l2) =
      match higher rank x3 y3 with
      | some side => ⟨some side, pairs [x1, x2, x3] [y1, y2, y3], tied, l1, l2⟩
      | none => war rank (tied ++ pairs [x1, x2, x3] [y1, y2, y3]) l1 l2 := rfl

/-- Hands of equal length either have three cards each, or fewer than three. -/
theorem three_or_fewer {l1 l2 : List α} (h : l1.length = l2.length) :
    (∃ x1 x2 x3 r1 y1 y2 y3 r2, l1 = x1 :: x2 :: x3 :: r1 ∧ l2 = y1 :: y2 :: y3 :: r2 ∧
      r1.length = r2.length) ∨ l1.length < 3 := by
  match l1, l2, h with
  | [], _, _ => exact Or.inr (by simp)
  | [_], _, _ => exact Or.inr (by simp)
  | [_, _], _, _ => exact Or.inr (by simp)
  | x1 :: x2 :: x3 :: r1, y1 :: y2 :: y3 :: r2, h =>
      exact Or.inl ⟨x1, x2, x3, r1, y1, y2, y3, r2, rfl, rfl, by simpa using h⟩

/-- What a war does to the hands: equally many cards are taken from both, all of
them when there is no winner, and they are the cards drawn last and the ones that
tied. -/
structure Split (l1 l2 : List α) (tied : List α) (r : Battle α) : Prop where
  split : ∃ c1 c2, l1 = c1 ++ r.rest1 ∧ l2 = c2 ++ r.rest2 ∧ c1.length = c2.length ∧
    (tied ++ (c1 ++ c2)).Perm (r.tied ++ r.drawn)
  exhausted : r.winner = none → r.rest1 = [] ∧ r.rest2 = []

theorem war_split : ∀ (n : ℕ) {l1 l2 : List α} (tied : List α), l1.length = n →
    l1.length = l2.length → Split l1 l2 tied (war rank tied l1 l2) := by
  intro n
  induction n using Nat.strong_induction_on with
  | _ n ih =>
      intro l1 l2 tied hn h
      rcases three_or_fewer h with ⟨x1, x2, x3, r1, y1, y2, y3, r2, rfl, rfl, hr⟩ | hfew
      · rw [war_cons]
        have hdrawn : (pairs [x1, x2, x3] [y1, y2, y3]).Perm ([x1, x2, x3] ++ [y1, y2, y3]) :=
          pairs_perm rfl
        cases higher rank x3 y3 with
        | some side =>
            refine ⟨⟨[x1, x2, x3], [y1, y2, y3], rfl, rfl, rfl, ?_⟩, fun h => by cases h⟩
            exact hdrawn.symm.append_left tied
        | none =>
            -- the next war starts with this one's cards among the tied ones
            have hlt : r1.length < n := by simp at hn; omega
            obtain ⟨⟨c1, c2, h1, h2, hc, hperm⟩, hexhausted⟩ :=
              ih r1.length hlt (tied ++ pairs [x1, x2, x3] [y1, y2, y3]) rfl hr
            refine ⟨⟨[x1, x2, x3] ++ c1, [y1, y2, y3] ++ c2, ?_, ?_, ?_, ?_⟩, hexhausted⟩
            · show x1 :: x2 :: x3 :: r1 = x1 :: x2 :: x3 :: (c1 ++ _)
              rw [← h1]
            · show y1 :: y2 :: y3 :: r2 = y1 :: y2 :: y3 :: (c2 ++ _)
              rw [← h2]
            · simp [hc]
            · refine List.Perm.trans ?_ hperm
              refine List.Perm.trans ?_ ((hdrawn.symm.append_left tied).append_right (c1 ++ c2))
              simp only [List.append_assoc]
              refine List.Perm.append_left tied (List.Perm.append_left [x1, x2, x3] ?_)
              exact List.perm_append_comm_assoc c1 [y1, y2, y3] c2
      · rw [war_short rank tied h hfew]
        refine ⟨⟨l1, l2, by simp, by simp, h, ?_⟩, fun _ => ⟨rfl, rfl⟩⟩
        exact (pairs_perm h).symm.append_left tied

/-- **What a battle takes.** -/
theorem battle_split (a b : α) {l1 l2 : List α} (h : l1.length = l2.length) :
    Split l1 l2 [] (battle rank a b l1 l2) := by
  unfold battle
  cases higher rank a b with
  | some side => exact ⟨⟨[], [], rfl, rfl, rfl, List.Perm.refl _⟩, fun h => by cases h⟩
  | none => exact war_split rank _ [] rfl h

theorem battle_rest_length (a b : α) {l1 l2 : List α} (h : l1.length = l2.length) :
    (battle rank a b l1 l2).rest1.length = (battle rank a b l1 l2).rest2.length := by
  obtain ⟨c1, c2, h1, h2, hc, -⟩ := (battle_split rank a b h).split
  have hl1 := congrArg List.length h1
  have hl2 := congrArg List.length h2
  rw [List.length_append] at hl1 hl2
  omega

/-! ## Moves -/

namespace Game

variable (short : ℕ → ℕ → Option Side) {g : Game α}

@[simp] theorem give_hand1 (cards : List α) (side : Option Side) :
    (g.give cards side).hand1 = g.hand1 := by
  rcases side with _ | _ | _ <;> rfl

@[simp] theorem give_hand2 (cards : List α) (side : Option Side) :
    (g.give cards side).hand2 = g.hand2 := by
  rcases side with _ | _ | _ <;> rfl

@[simp] theorem give_table (cards : List α) (side : Option Side) :
    (g.give cards side).table = g.table := by
  rcases side with _ | _ | _ <;> rfl

@[simp] theorem give_dropped (cards : List α) (side : Option Side) :
    (g.give cards side).dropped = g.dropped := by
  rcases side with _ | _ | _ <;> rfl

@[simp] theorem give_stalemate (cards : List α) (side : Option Side) :
    (g.give cards side).stalemate = g.stalemate := by
  rcases side with _ | _ | _ <;> rfl

theorem give_pile1 (cards : List α) (side : Option Side) :
    (g.give cards side).pile1 = g.pile1 ++ (if side = some .player1 then cards else []) := by
  rcases side with _ | _ | _ <;> simp [give]

theorem give_pile2 (cards : List α) (side : Option Side) :
    (g.give cards side).pile2 = g.pile2 ++ (if side = some .player2 then cards else []) := by
  rcases side with _ | _ | _ <;> simp [give]

section Settle

variable (g) (a b : α) (r : Battle α)

@[simp] theorem settle_hand1 : (g.settle short a b r).hand1 = r.rest1 := by simp [settle]

@[simp] theorem settle_hand2 : (g.settle short a b r).hand2 = r.rest2 := by simp [settle]

@[simp] theorem settle_table : (g.settle short a b r).table = none := by simp [settle]

theorem settle_pile1 : (g.settle short a b r).pile1 =
    g.pile1 ++ (if g.taker short r = some .player1 then a :: b :: r.drawn else []) := by
  rw [settle, give_pile1]

theorem settle_pile2 : (g.settle short a b r).pile2 =
    g.pile2 ++ (if g.taker short r = some .player2 then a :: b :: r.drawn else []) := by
  rw [settle, give_pile2]

end Settle

/-- Player 1's move puts down a card, or does nothing. -/
theorem step_play1 (g : Game α) :
    (∃ a l1, g.table = none ∧ g.hand1 = a :: l1 ∧
      g.step rank short .play1 = { g with hand1 := l1, table := some a }) ∨
    ((g.table ≠ none ∨ g.hand1 = []) ∧ g.step rank short .play1 = g) := by
  obtain ⟨hand1, hand2, table, pile1, pile2, dropped, stalemate⟩ := g
  cases table with
  | some a => exact Or.inr ⟨Or.inl (by simp), rfl⟩
  | none =>
      cases hand1 with
      | nil => exact Or.inr ⟨Or.inr rfl, rfl⟩
      | cons a l1 => exact Or.inl ⟨a, l1, rfl, rfl, rfl⟩

/-- Player 2's move fights a battle, or does nothing. -/
theorem step_play2 (g : Game α) :
    (∃ a b l2, g.table = some a ∧ g.hand2 = b :: l2 ∧
      g.step rank short .play2 = g.settle short a b (battle rank a b g.hand1 l2) ∧
      g.announces rank short .play2 =
        (if (battle rank a b g.hand1 l2).winner = none then [(g.pile1.length, g.pile2.length)]
          else []) ++
        (if l2.isEmpty then [((g.settle short a b (battle rank a b g.hand1 l2)).pile1.length,
          (g.settle short a b (battle rank a b g.hand1 l2)).pile2.length)] else [])) ∨
    ((g.table = none ∨ g.hand2 = []) ∧ g.step rank short .play2 = g ∧
      g.announces rank short .play2 = []) := by
  obtain ⟨hand1, hand2, table, pile1, pile2, dropped, stalemate⟩ := g
  cases table with
  | none => exact Or.inr ⟨Or.inl rfl, rfl, rfl⟩
  | some a =>
      cases hand2 with
      | nil => exact Or.inr ⟨Or.inr rfl, rfl, rfl⟩
      | cons b l2 => exact Or.inl ⟨a, b, l2, rfl, rfl, rfl, rfl⟩

/-- Player 2 holds as many cards as player 1, the one on the table included. -/
def Balanced (g : Game α) : Prop := g.hand2.length = g.hand1.length + g.table.toList.length

theorem balanced_deal {h1 h2 : List α} (h : h1.length = h2.length) : (deal h1 h2).Balanced := by
  simp [Balanced, deal, h]

/-- The hands behind a pair are equally long. -/
theorem Balanced.hands (h : g.Balanced) {a b : α} {l2 : List α} (htable : g.table = some a)
    (hhand2 : g.hand2 = b :: l2) : g.hand1.length = l2.length := by
  have hlength := h
  rw [Balanced, htable, hhand2] at hlength
  simpa using hlength.symm

theorem Balanced.step (h : g.Balanced) (move : Move) : (g.step rank short move).Balanced := by
  cases move with
  | play1 =>
      rcases step_play1 rank short g with ⟨a, l1, htable, hhand1, hstep⟩ | ⟨-, hstep⟩ <;>
        rw [hstep]
      · rw [Balanced, htable, hhand1] at h
        simpa [Balanced] using h
      · exact h
  | play2 =>
      rcases step_play2 rank short g with
        ⟨a, b, l2, htable, hhand2, hstep, -⟩ | ⟨-, hstep, -⟩ <;> rw [hstep]
      · have hrest := battle_rest_length rank a b (h.hands htable hhand2)
        simp [Balanced, hrest]
      · exact h

/-! ## Where the cards are -/

/-- All the cards of a game, wherever they are. -/
def cards (g : Game α) : List α :=
  g.hand1 ++ g.hand2 ++ g.table.toList ++ g.pile1 ++ g.pile2 ++ g.dropped ++ g.stalemate

theorem settle_dropped (g : Game α) (a b : α) (r : Battle α) :
    (g.settle short a b r).dropped =
      g.dropped ++ (if g.evenly r then [] else g.unclaimed short a b r) := by
  simp [settle]

theorem settle_stalemate (g : Game α) (a b : α) (r : Battle α) :
    (g.settle short a b r).stalemate =
      g.stalemate ++ (if g.evenly r then g.unclaimed short a b r else []) := by
  simp [settle]

section Accounting

variable [DecidableEq α]

/-- A battle moves cards about. -/
theorem cards_settle {a b : α} {l2 : List α} (htable : g.table = some a)
    (hhand2 : g.hand2 = b :: l2) (hlength : g.hand1.length = l2.length) :
    (g.settle short a b (battle rank a b g.hand1 l2)).cards.Perm g.cards := by
  obtain ⟨c1, c2, h1, h2, -, hperm⟩ := (battle_split rank a b hlength).split
  generalize battle rank a b g.hand1 l2 = r at *
  refine List.perm_iff_count.2 fun k => ?_
  have hdrawn := hperm.count_eq k
  have hhand1 := congrArg (List.count k) h1
  have hrest2 := congrArg (List.count k) h2
  simp only [List.nil_append, List.count_append] at hdrawn hhand1 hrest2
  simp only [cards, settle_hand1, settle_hand2, settle_table, settle_pile1, settle_pile2,
    settle_dropped, settle_stalemate, unclaimed, htable, hhand2, List.count_append,
    Option.toList_none, Option.toList_some, List.count_nil, List.count_cons]
  rcases htaker : g.taker short r with _ | side
  · by_cases heven : g.evenly r
    · simp [heven, List.count_cons]
      omega
    · simp [heven, List.count_cons]
      omega
  · cases side <;> by_cases heven : g.evenly r <;> simp [heven, List.count_cons] <;> omega

theorem cards_step (h : g.Balanced) (move : Move) :
    (g.step rank short move).cards.Perm g.cards := by
  cases move with
  | play1 =>
      rcases step_play1 rank short g with ⟨a, l1, htable, hhand1, hstep⟩ | ⟨-, hstep⟩ <;> rw [hstep]
      refine List.perm_iff_count.2 fun k => ?_
      simp only [cards, htable, hhand1, List.count_append, Option.toList_none, Option.toList_some,
        List.count_nil, List.count_cons]
      omega
  | play2 =>
      rcases step_play2 rank short g with
        ⟨a, b, l2, htable, hhand2, hstep, -⟩ | ⟨-, hstep, -⟩ <;> rw [hstep]
      exact cards_settle rank short htable hhand2 (h.hands htable hhand2)

/-- No card leaves the game. -/
theorem cards_run {h1 h2 : List α} (h : h1.length = h2.length) (moves : List Move) :
    ((listGame rank short).run (deal h1 h2) moves).cards.Perm (h1 ++ h2) := by
  have hinv := Machine.run_invariant (M := listGame rank short)
    (I := fun g => g.Balanced ∧ g.cards.Perm (h1 ++ h2))
    (fun g move hg => ⟨Balanced.step rank short hg.1 move,
      (cards_step rank short hg.1 move).trans hg.2⟩)
    ⟨balanced_deal h, by simp [cards, deal]⟩ moves
  exact hinv.2

end Accounting

/-- A move loses cards if it ends a battle in which a war tied, unless the cards
ran out while the piles were equal. -/
def loses (rank : α → β) (g : Game α) : Move → Prop
  | .play1 => False
  | .play2 => ∃ a b l2, g.table = some a ∧ g.hand2 = b :: l2 ∧
      (battle rank a b g.hand1 l2).tied ≠ [] ∧ ¬ g.evenly (battle rank a b g.hand1 l2)

/-- If only equal piles leave a war that runs out of cards without a taker, the
cards that are dropped are those a move loses. -/
theorem dropped_step_iff (hshort : ∀ n1 n2, short n1 n2 = none → n1 = n2) (g : Game α)
    (hg : g.dropped = []) (move : Move) :
    (g.step rank short move).dropped = [] ↔ ¬ g.loses rank move := by
  cases move with
  | play1 =>
      rcases step_play1 rank short g with ⟨a, l1, -, -, hstep⟩ | ⟨-, hstep⟩ <;> rw [hstep] <;>
        simp [hg, loses]
  | play2 =>
      rcases step_play2 rank short g with
        ⟨a, b, l2, htable, hhand2, hstep, -⟩ | ⟨hno, hstep, -⟩ <;> rw [hstep]
      · rw [settle_dropped, hg, List.nil_append]
        simp only [loses, htable, hhand2, Option.some.injEq, List.cons.injEq]
        generalize hr : battle rank a b g.hand1 l2 = r
        by_cases heven : g.evenly r
        · rw [if_pos heven]
          refine ⟨fun _ => ?_, fun _ => rfl⟩
          rintro ⟨a', b', l2', rfl, ⟨rfl, rfl⟩, -, hnot⟩
          rw [hr] at hnot
          exact hnot heven
        · have htaker : g.taker short r ≠ none := by
            intro hnone
            rw [taker, Option.or_eq_none_iff] at hnone
            exact heven ⟨hnone.1, hshort _ _ hnone.2⟩
          rw [if_neg heven, unclaimed, if_neg htaker, List.append_nil]
          constructor
          · rintro htied ⟨a', b', l2', rfl, ⟨rfl, rfl⟩, hne, -⟩
            rw [hr] at hne
            exact hne htied
          · intro hnot
            by_contra htied
            exact hnot ⟨a, b, l2, rfl, ⟨rfl, rfl⟩, by rw [hr]; exact htied, by rw [hr]; exact heven⟩
      · refine ⟨fun _ => ?_, fun _ => hg⟩
        rintro ⟨a, b, l2, htable, hhand2, -⟩
        rcases hno with hnone | hnil
        · rw [hnone] at htable
          cases htable
        · rw [hnil] at hhand2
          cases hhand2

/-- Cards are dropped in battles, which clear the table. -/
theorem dropped_step_of_table (g : Game α) (move : Move)
    (h : (g.step rank short move).table ≠ none) :
    (g.step rank short move).dropped = g.dropped := by
  cases move with
  | play1 =>
      rcases step_play1 rank short g with ⟨a, l1, -, -, hstep⟩ | ⟨-, hstep⟩ <;> rw [hstep]
  | play2 =>
      rcases step_play2 rank short g with ⟨a, b, l2, -, -, hstep, -⟩ | ⟨-, hstep, -⟩ <;>
        rw [hstep] at h ⊢
      exact absurd (settle_table ..) h

/-- **Which runs drop cards.** -/
theorem dropped_iff (hshort : ∀ n1 n2, short n1 n2 = none → n1 = n2) (h1 h2 : List α)
    (moves : List Move) :
    (∀ pre, pre <+: moves → ((listGame rank short).run (deal h1 h2) pre).table = none →
      ((listGame rank short).run (deal h1 h2) pre).dropped = []) ↔
    ∀ x ∈ (listGame rank short).steps (deal h1 h2) moves, ¬ x.1.loses rank x.2 := by
  rw [← Machine.always_iff (M := listGame rank short) (P := fun g => g.dropped = [])
    (fun g move hg => dropped_step_iff rank short hshort g hg move) rfl moves]
  refine ⟨fun h pre => ?_, fun h pre hpre _ => h pre hpre⟩
  -- a card on the table was put there after the last battle
  induction pre using List.reverseRecOn with
  | nil => exact fun _ => rfl
  | append_singleton pre move ih =>
      intro hpre
      by_cases htable : ((listGame rank short).run (deal h1 h2) (pre ++ [move])).table = none
      · exact h _ hpre htable
      · rw [Machine.run_append] at htable ⊢
        exact (dropped_step_of_table rank short _ move htable).trans
          (ih ((List.prefix_append pre [move]).trans hpre))

end Game

end Lib.War
