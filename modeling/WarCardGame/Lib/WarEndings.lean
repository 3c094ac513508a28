import WarCardGame.Lib.War

/-!
# How a game of War ends

A game ends with the round that takes the last cards, and a winner is announced
in that round only.  It can be announced there twice, once or not at all: a war
that runs out of cards announces a winner, and so does a round that player 2
started with the last card.

* `LastRound` — the round that ends a game, read off the two hands.
* `Game.toldAfter_run` — a game that is played to its end announces what its last
  round announces, whatever moves were tried on the way.
* `Game.announced_once_iff` — so it depends on the last round only whether the
  winner is announced exactly once.
* `Game.announced_order` — the sizes of the piles for which a winner is announced
  compare as the piles do at the end.
-/

namespace Lib.War

open Lib

variable {α β : Type} [LinearOrder β] (rank : α → β) (short : ℕ → ℕ → Option Side)

/-- `LastRound rank h1 h2 a b l1 l2`: the game of the hands `h1` and `h2` ends with
the pair `a`, `b`, behind which the players hold `l1` and `l2`. -/
inductive LastRound : List α → List α → α → α → List α → List α → Prop where
  | last {a b : α} {l1 l2 : List α} (hrest : (battle rank a b l1 l2).rest2 = []) :
      LastRound (a :: l1) (b :: l2) a b l1 l2
  | next {a b a' b' : α} {l1 l2 l1' l2' : List α}
      (hrest : (battle rank a b l1 l2).rest2 ≠ [])
      (hlast : LastRound (battle rank a b l1 l2).rest1 (battle rank a b l1 l2).rest2
        a' b' l1' l2') :
      LastRound (a :: l1) (b :: l2) a' b' l1' l2'

variable {rank} in
/-- A game has one last round. -/
theorem LastRound.unique {h1 h2 l1 l2 l1' l2' : List α} {a b a' b' : α}
    (h : LastRound rank h1 h2 a b l1 l2) (h' : LastRound rank h1 h2 a' b' l1' l2') :
    a = a' ∧ b = b' ∧ l1 = l1' ∧ l2 = l2' := by
  induction h with
  | last hrest =>
      cases h' with
      | last _ => exact ⟨rfl, rfl, rfl, rfl⟩
      | next hrest' _ => exact absurd hrest hrest'
  | next hrest _ ih =>
      cases h' with
      | last hrest' => exact absurd hrest' hrest
      | next _ hlast => exact ih hlast

variable {rank} in
theorem LastRound.hand2_ne_nil {h1 h2 l1 l2 : List α} {a b : α}
    (h : LastRound rank h1 h2 a b l1 l2) : h2 ≠ [] := by
  cases h <;> exact List.cons_ne_nil _ _

/-- How often a round announces a winner, with the cards `l2` left to player 2. -/
def Battle.announcements (r : Battle α) (l2 : List α) : ℕ :=
  (if r.winner = none then 1 else 0) + (if l2.isEmpty then 1 else 0)

/-- A round announces its winner once if it is decided on the last pair, or if it
is a war that runs out of cards and has a card to start with. -/
theorem Battle.announcements_eq_one (r : Battle α) (l2 : List α) :
    r.announcements l2 = 1 ↔ (l2 = [] ↔ r.winner ≠ none) := by
  unfold Battle.announcements
  by_cases hwinner : r.winner = none <;> cases l2 <;> simp [hwinner]

namespace Game

variable {g : Game α}

/-- Nobody holds a card, and none waits on the table. -/
def Over (g : Game α) : Prop := g.hand1 = [] ∧ g.hand2 = [] ∧ g.table = none

theorem Balanced.over (h : g.Balanced) (hhand2 : g.hand2 = []) : g.Over := by
  rw [Balanced, hhand2, List.length_nil] at h
  have hhand1 : g.hand1.length = 0 := by omega
  have htable : g.table.toList.length = 0 := by omega
  exact ⟨List.length_eq_zero_iff.1 hhand1, hhand2, by simpa using htable⟩

/-- Nothing happens after the end. -/
theorem Over.step (h : g.Over) (move : Move) : g.step rank short move = g := by
  obtain ⟨hhand1, -, htable⟩ := h
  cases move with
  | play1 =>
      rcases step_play1 rank short g with ⟨a, l1, -, hcons, -⟩ | ⟨-, hstep⟩
      · rw [hhand1] at hcons
        cases hcons
      · exact hstep
  | play2 =>
      rcases step_play2 rank short g with ⟨a, b, l2, hsome, -⟩ | ⟨-, hstep, -⟩
      · rw [htable] at hsome
        cases hsome
      · exact hstep

theorem Over.run (h : g.Over) (moves : List Move) : (listGame rank short).run g moves = g :=
  Machine.run_invariant (M := listGame rank short) (I := fun g' => g' = g)
    (fun _ move hg => by rw [hg]; exact h.step rank short move) rfl moves

/-- A move that announces a winner is the one that ends the game. -/
theorem Balanced.announces (h : g.Balanced) (move : Move)
    (hne : g.announces rank short move ≠ []) :
    move = .play2 ∧ (g.step rank short move).Over := by
  cases move with
  | play1 => exact absurd rfl hne
  | play2 =>
      rcases step_play2 rank short g with
        ⟨a, b, l2, htable, hhand2, hstep, hannounces⟩ | ⟨-, -, hannounces⟩
      · refine ⟨rfl, (h.step rank short .play2).over ?_⟩
        obtain ⟨⟨c1, c2, -, h2, -⟩, hexhausted⟩ := battle_split rank a b (h.hands htable hhand2)
        rw [hstep, settle_hand2]
        by_cases hwinner : (battle rank a b g.hand1 l2).winner = none
        · exact (hexhausted hwinner).2
        · -- then it is the last card of player 2 that announces
          cases l2 with
          | nil => exact (List.append_eq_nil_iff.1 h2.symm).2
          | cons c l2 => simp [hannounces, hwinner] at hne
      · exact absurd hannounces hne

/-- How often a move that fights a battle announces a winner. -/
theorem length_announces {a b : α} {l2 : List α} (htable : g.table = some a)
    (hhand2 : g.hand2 = b :: l2) :
    (g.announces rank short .play2).length = (battle rank a b g.hand1 l2).announcements l2 := by
  simp only [Game.announces, htable, hhand2, Battle.announcements, List.length_append]
  congr 1 <;> split <;> rfl

/-- The game still has `n` announcements to make if it is played to its end. -/
def ToldAfter (g : Game α) (n : ℕ) : Prop :=
  (g.hand2 = [] ∧ n = 0) ∨
    ∃ a b l1 l2, LastRound rank (g.table.toList ++ g.hand1) g.hand2 a b l1 l2 ∧
      n = (battle rank a b l1 l2).announcements l2

/-- A battle announces something only if it is the last round. -/
theorem toldAfter_settle (h : g.Balanced) {a b : α} {l2 : List α} (htable : g.table = some a)
    (hhand2 : g.hand2 = b :: l2) {n : ℕ}
    (hn : ToldAfter rank (g.settle short a b (battle rank a b g.hand1 l2)) n) :
    ToldAfter rank g ((battle rank a b g.hand1 l2).announcements l2 + n) := by
  obtain ⟨⟨c1, c2, -, h2, -⟩, hexhausted⟩ := battle_split rank a b (h.hands htable hhand2)
  unfold ToldAfter at hn ⊢
  rw [settle_hand1, settle_hand2, settle_table, Option.toList_none, List.nil_append] at hn
  rw [htable, hhand2, Option.toList_some, List.singleton_append]
  rcases hn with ⟨hrest, rfl⟩ | ⟨a', b', l1', l2', hlast, rfl⟩
  · exact Or.inr ⟨a, b, g.hand1, l2, .last hrest, rfl⟩
  · have hrest := hlast.hand2_ne_nil
    have hwinner : (battle rank a b g.hand1 l2).winner ≠ none :=
      fun hnone => hrest (hexhausted hnone).2
    have hl2 : l2 ≠ [] := by
      rintro rfl
      exact hrest (List.append_eq_nil_iff.1 h2.symm).2
    refine Or.inr ⟨a', b', l1', l2', .next hrest hlast, ?_⟩
    simp [Battle.announcements, hwinner, hl2]

theorem toldAfter_step (h : g.Balanced) (move : Move) {n : ℕ}
    (hn : ToldAfter rank (g.step rank short move) n) :
    ToldAfter rank g ((g.announces rank short move).length + n) := by
  cases move with
  | play1 =>
      have hzero : (g.announces rank short .play1).length + n = n := Nat.zero_add n
      rw [hzero]
      rcases step_play1 rank short g with ⟨a, l1, htable, hhand1, hstep⟩ | ⟨-, hstep⟩ <;>
        rw [hstep] at hn
      · -- the card moves from the hand to the table
        unfold ToldAfter at hn ⊢
        rw [htable, hhand1]
        exact hn
      · exact hn
  | play2 =>
      rcases step_play2 rank short g with
        ⟨a, b, l2, htable, hhand2, hstep, -⟩ | ⟨-, hstep, hannounces⟩ <;> rw [hstep] at hn
      · rw [length_announces rank short htable hhand2]
        exact toldAfter_settle rank short h htable hhand2 hn
      · rw [hannounces, List.length_nil, Nat.zero_add]
        exact hn

/-- **A game that is played to its end announces what its last round
announces.** -/
theorem toldAfter_run (h : g.Balanced) (moves : List Move)
    (hover : ((listGame rank short).run g moves).hand2 = []) :
    ToldAfter rank g ((listGame rank short).outputs g moves).flatten.length := by
  induction moves generalizing g with
  | nil => exact Or.inl ⟨hover, rfl⟩
  | cons move moves ih =>
      rw [Machine.outputs_cons, List.flatten_cons, List.length_append]
      exact toldAfter_step rank short h move (ih (Balanced.step rank short h move) hover)

/-- **Which games announce their winner exactly once.** -/
theorem announced_once_iff {h1 h2 : List α} (h : h1.length = h2.length) (moves : List Move)
    (hover : ((listGame rank short).run (deal h1 h2) moves).hand2 = []) :
    ((listGame rank short).outputs (deal h1 h2) moves).flatten.length = 1 ↔
      ∃ a b l1 l2, LastRound rank h1 h2 a b l1 l2 ∧
        (l2 = [] ↔ (battle rank a b l1 l2).winner ≠ none) := by
  have htold := toldAfter_run rank short (balanced_deal h) moves hover
  generalize ((listGame rank short).outputs (deal h1 h2) moves).flatten.length = n at htold ⊢
  rcases htold with ⟨hnil, rfl⟩ | ⟨a, b, l1, l2, hlast, rfl⟩
  · constructor
    · intro hzero
      cases hzero
    · rintro ⟨a, b, l1, l2, hlast, -⟩
      exact absurd hnil hlast.hand2_ne_nil
  · rw [Battle.announcements_eq_one]
    constructor
    · exact fun hiff => ⟨a, b, l1, l2, hlast, hiff⟩
    · rintro ⟨a', b', l1', l2', hlast', hiff⟩
      obtain ⟨rfl, rfl, rfl, rfl⟩ := hlast.unique hlast'
      exact hiff

/-! ## What is announced -/

/-- If the cards of a war that runs out of cards go to the larger pile, the order
of the piles does not change. -/
theorem settle_order (g : Game α) (a b : α) {r : Battle α} (hwinner : r.winner = none) :
    compare (g.settle largerPile a b r).pile1.length (g.settle largerPile a b r).pile2.length =
      compare g.pile1.length g.pile2.length := by
  rw [settle_pile1, settle_pile2, taker, hwinner, Option.none_or, largerPile]
  rcases lt_trichotomy g.pile1.length g.pile2.length with hlt | heq | hgt
  · have hafter : g.pile1.length < g.pile2.length + (r.drawn.length + 1 + 1) := by omega
    simp [not_lt.2 hlt.le, hlt, compare_lt_iff_lt.2 hafter, compare_lt_iff_lt.2 hlt]
  · simp [heq]
  · have hafter : g.pile2.length < g.pile1.length + (r.drawn.length + 1 + 1) := by omega
    simp [hgt, compare_gt_iff_gt.2 hafter, compare_gt_iff_gt.2 hgt]

/-- The announced sizes compare as the piles do after the move. -/
theorem announces_order (g : Game α) (move : Move) {sizes : ℕ × ℕ}
    (hsizes : sizes ∈ g.announces rank largerPile move) :
    compare sizes.1 sizes.2 = compare (g.step rank largerPile move).pile1.length
      (g.step rank largerPile move).pile2.length := by
  cases move with
  | play1 => exact absurd hsizes List.not_mem_nil
  | play2 =>
      rcases step_play2 rank largerPile g with
        ⟨a, b, l2, htable, hhand2, hstep, hannounces⟩ | ⟨-, -, hannounces⟩
      · rw [hannounces, List.mem_append] at hsizes
        rw [hstep]
        rcases hsizes with hshortage | hlast
        · split_ifs at hshortage with hwinner
          · rw [List.mem_singleton] at hshortage
            rw [hshortage, settle_order g a b hwinner]
          · exact absurd hshortage List.not_mem_nil
        · split_ifs at hlast
          · rw [List.mem_singleton] at hlast
            rw [hlast]
          · exact absurd hlast List.not_mem_nil
      · rw [hannounces] at hsizes
        exact absurd hsizes List.not_mem_nil

/-- **All announcements of a run compare as the piles do at its end.** -/
theorem announced_order (h : g.Balanced) (moves : List Move) {sizes : ℕ × ℕ}
    (hsizes : sizes ∈ ((listGame rank largerPile).outputs g moves).flatten) :
    compare sizes.1 sizes.2 = compare ((listGame rank largerPile).run g moves).pile1.length
      ((listGame rank largerPile).run g moves).pile2.length := by
  induction moves generalizing g with
  | nil => exact absurd hsizes List.not_mem_nil
  | cons move moves ih =>
      rw [Machine.outputs_cons, List.flatten_cons, List.mem_append] at hsizes
      rw [Machine.run_cons]
      rcases hsizes with hnow | hlater
      · -- the move that announces ends the game
        have hover := (h.announces rank largerPile move (List.ne_nil_of_mem hnow)).2
        have hstays : (listGame rank largerPile).run
            ((listGame rank largerPile).next g move) moves = g.step rank largerPile move :=
          hover.run rank largerPile moves
        rw [hstays]
        exact announces_order rank g move hnow
      · exact ih (Balanced.step rank largerPile h move) hlater

end Game

end Lib.War
