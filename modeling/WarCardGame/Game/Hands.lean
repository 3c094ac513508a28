import WarCardGame.Lib.War
import WarCardGame.Service.Effects

/-!
# Hands as lists

The card table keeps a hand in three columns: who owns a card, where it stands
in the hand, and whether it was put down.  `Holding playerId taken rest cards`
reads them as two lists: the player's rows are `taken`, which were put down, and
`rest`, which were not, in the order of `deal_order`.

* `Holding.cardsOf` — every query for the hand returns these two lists, whatever
  order the database finds the rows in.
* `Holding.put` — putting down the next card moves it from `rest` to `taken`.
* `Hands.drawWarCards` — the loop of a war takes the cards of both hands pair by
  pair, and if they run out it is player 1 who finds the empty hand.
-/

namespace WarCardGame

open Lib

/-- The rows of a player, as the cards put down and the cards still held. -/
structure Holding (playerId : ℤ) (taken rest cards : List CardsEntity) : Prop where
  rows : (cards.filter fun c => c.players = some playerId).Perm
    (taken.map CardsEntity.setPlayed ++ rest)
  order : (taken ++ rest).Pairwise fun a b => a.dealOrder < b.dealOrder
  unplayed : ∀ c ∈ taken ++ rest, c.isPlayed = false

namespace Holding

variable {playerId : ℤ} {taken rest cards : List CardsEntity}

/-- A query for the hand returns it in order. -/
theorem cardsOf (h : Holding playerId taken rest cards) (rows : CardOrder) :
    CardsRepository.cardsOf rows playerId cards = taken.map CardsEntity.setPlayed ++ rest := by
  refine sorted_eq_of_perm CardsEntity.dealOrder ((rows.perm _).trans h.rows) ?_
  obtain ⟨htaken, hrest, hboth⟩ := List.pairwise_append.1 h.order
  refine List.pairwise_append.2 ⟨List.pairwise_map.2 htaken, hrest, ?_⟩
  intro a ha b hb
  obtain ⟨c, hc, rfl⟩ := List.mem_map.1 ha
  exact hboth c hc b hb

/-- A card still held is a row of the player. -/
theorem mem_cards (h : Holding playerId taken rest cards) {c : CardsEntity} (hc : c ∈ rest) :
    c ∈ cards ∧ c.players = some playerId := by
  have hmem := h.rows.mem_iff.2 (List.mem_append_right _ hc)
  rw [List.mem_filter] at hmem
  exact ⟨hmem.1, by simpa using hmem.2⟩

/-- Putting down the next card. -/
theorem put {c : CardsEntity} (h : Holding playerId taken (c :: rest) cards)
    (hkeys : (cards.map CardsEntity.cardId).Nodup) :
    Holding playerId (taken ++ [c]) rest (Rows.save CardsEntity.cardId c.setPlayed cards) := by
  obtain ⟨hc, howner⟩ := h.mem_cards (List.mem_cons_self ..)
  obtain ⟨before, after, hsplit, hsave, -⟩ := Rows.exists_split CardsEntity.cardId hkeys hc
  refine ⟨?_, by simpa using h.order, by simpa using h.unplayed⟩
  have hrows := h.rows
  rw [hsplit, List.filter_append, List.filter_cons_of_pos (by simpa using howner)] at hrows
  have hrest := (List.perm_middle.symm.trans (hrows.trans List.perm_middle)).cons_inv
  rw [hsave c.setPlayed rfl, List.filter_append,
    List.filter_cons_of_pos (by simp [CardsEntity.setPlayed, howner])]
  refine List.perm_middle.trans ((hrest.cons c.setPlayed).trans ?_)
  simpa using List.perm_middle.symm

/-- Putting down a card of somebody else. -/
theorem other (h : Holding playerId taken rest cards) {c : CardsEntity} (hc : c ∈ cards)
    (howner : c.players ≠ some playerId) (hkeys : (cards.map CardsEntity.cardId).Nodup) :
    Holding playerId taken rest (Rows.save CardsEntity.cardId c.setPlayed cards) := by
  refine ⟨?_, h.order, h.unplayed⟩
  rw [Rows.filter_save_of_not]
  · exact h.rows
  · simp [CardsEntity.setPlayed, howner]
  · intro x hx hkey
    have hxc : x = c := Rows.eq_of_key_eq CardsEntity.cardId hkeys hx hc hkey
    simpa [hxc] using howner

end Holding

/-- The loop over a hand stops at the first card still held. -/
theorem playFirst_taken (taken : List CardsEntity) {c : CardsEntity} (rest : List CardsEntity)
    (hc : c.isPlayed = false) :
    playFirst (taken.map CardsEntity.setPlayed ++ c :: rest) =
      some (c.setPlayed, (taken ++ [c]).map CardsEntity.setPlayed ++ rest) := by
  induction taken with
  | nil => simp [playFirst, hc]
  | cons t ts ih =>
      have hplayed : t.setPlayed.isPlayed = true := rfl
      simp only [List.map_cons, List.cons_append, playFirst, hplayed, if_true]
      rw [ih]
      rfl

theorem playFirst_taken_nil (taken : List CardsEntity) :
    playFirst (taken.map CardsEntity.setPlayed ++ []) = none := by
  rw [playFirst_eq_none]
  intro c hc
  rw [List.append_nil] at hc
  obtain ⟨d, -, rfl⟩ := List.mem_map.1 hc
  rfl

namespace Holding

variable {playerId : ℤ} {taken rest : List CardsEntity} {w : World}

theorem drawNextCard_cons (rows : CardOrder) {c : CardsEntity}
    (h : Holding playerId taken (c :: rest) w.cards) :
    drawNextCard rows playerId w = (.ok (some c.setPlayed), w.saveCard c.setPlayed) := by
  rw [drawNextCard_apply, h.cardsOf, playFirst_taken taken rest (h.unplayed c (by simp))]

theorem drawNextCard_nil (rows : CardOrder) (h : Holding playerId taken [] w.cards) :
    drawNextCard rows playerId w = (.ok none, w) := by
  rw [drawNextCard_apply, h.cardsOf, playFirst_taken_nil]

end Holding

/-! ## Two hands -/

/-- The hands of the two players of a game. -/
structure Hands (player1Id player2Id : ℤ) (taken1 rest1 taken2 rest2 cards : List CardsEntity) :
    Prop where
  keys : (cards.map CardsEntity.cardId).Nodup
  differ : player1Id ≠ player2Id
  hand1 : Holding player1Id taken1 rest1 cards
  hand2 : Holding player2Id taken2 rest2 cards

namespace Hands

variable {player1Id player2Id : ℤ} {taken1 rest1 taken2 rest2 cards : List CardsEntity}

theorem symm (h : Hands player1Id player2Id taken1 rest1 taken2 rest2 cards) :
    Hands player2Id player1Id taken2 rest2 taken1 rest1 cards :=
  ⟨h.keys, h.differ.symm, h.hand2, h.hand1⟩

theorem put1 {c : CardsEntity}
    (h : Hands player1Id player2Id taken1 (c :: rest1) taken2 rest2 cards) :
    Hands player1Id player2Id (taken1 ++ [c]) rest1 taken2 rest2
      (Rows.save CardsEntity.cardId c.setPlayed cards) := by
  obtain ⟨hc, howner⟩ := h.hand1.mem_cards (List.mem_cons_self ..)
  refine ⟨by rw [Rows.map_key_save]; exact h.keys, h.differ, h.hand1.put h.keys,
    h.hand2.other hc ?_ h.keys⟩
  rw [howner]
  simpa using h.differ

theorem put2 {c : CardsEntity}
    (h : Hands player1Id player2Id taken1 rest1 taken2 (c :: rest2) cards) :
    Hands player1Id player2Id taken1 rest1 (taken2 ++ [c]) rest2
      (Rows.save CardsEntity.cardId c.setPlayed cards) :=
  h.symm.put1.symm

/-- **The loop of a war.**  Hands of equal length give their cards pair by pair;
if they run out, it is player 1's draw that finds nothing. -/
theorem drawWarCards (rows : CardOrder) :
    ∀ (n : ℕ) (warCards : List CardsEntity) {taken1 taken2 l1 l2 : List CardsEntity} {w : World},
      Hands player1Id player2Id taken1 l1 taken2 l2 w.cards → l1.length = l2.length →
      (n ≤ l1.length ∧ ∃ cards',
        WarCardGame.drawWarCards rows player1Id player2Id n warCards w =
          (.ok (.drawn (warCards ++ (War.pairs (l1.take n) (l2.take n)).map CardsEntity.setPlayed)),
            { w with cards := cards' }) ∧
        Hands player1Id player2Id (taken1 ++ l1.take n) (l1.drop n) (taken2 ++ l2.take n)
          (l2.drop n) cards') ∨
      (l1.length < n ∧ ∃ cards',
        WarCardGame.drawWarCards rows player1Id player2Id n warCards w =
          (.ok (.player1Out (warCards ++ (War.pairs l1 l2).map CardsEntity.setPlayed)),
            { w with cards := cards' }) ∧
        Hands player1Id player2Id (taken1 ++ l1) [] (taken2 ++ l2) [] cards') := by
  intro n
  induction n with
  | zero =>
      intro warCards taken1 taken2 l1 l2 w h hlength
      refine Or.inl ⟨Nat.zero_le _, w.cards, ?_, by simpa using h⟩
      simp [WarCardGame.drawWarCards, War.pairs, Handler.pure_apply]
  | succ n ih =>
      intro warCards taken1 taken2 l1 l2 w h hlength
      cases l1 with
      | nil =>
          obtain rfl : l2 = [] := List.length_eq_zero_iff.1 hlength.symm
          refine Or.inr ⟨by simp, w.cards, ?_, by simpa using h⟩
          rw [WarCardGame.drawWarCards, Handler.bind_ok (h.hand1.drawNextCard_nil rows)]
          simp [War.pairs, Handler.pure_apply]
      | cons x l1 =>
          obtain ⟨y, l2, rfl⟩ := List.exists_cons_of_length_eq_add_one hlength.symm
          have h1 : Hands player1Id player2Id (taken1 ++ [x]) l1 taken2 (y :: l2)
              (w.saveCard x.setPlayed).cards := h.put1
          have h2 : Hands player1Id player2Id (taken1 ++ [x]) l1 (taken2 ++ [y]) l2
              ((w.saveCard x.setPlayed).saveCard y.setPlayed).cards := h1.put2
          rw [drawWarCards_turn (h.hand1.drawNextCard_cons rows) (h1.hand2.drawNextCard_cons rows)]
          rcases ih (warCards ++ [x.setPlayed, y.setPlayed]) h2 (Nat.succ.inj hlength) with
            ⟨hle, cards', hdraw, hhands⟩ | ⟨hlt, cards', hdraw, hhands⟩
          · refine Or.inl ⟨by simpa using hle, cards', ?_, by simpa using hhands⟩
            rw [hdraw]
            simp [War.pairs, World.saveCard]
          · refine Or.inr ⟨by simpa using hlt, cards', ?_, by simpa using hhands⟩
            rw [hdraw]
            simp [War.pairs, World.saveCard]

end Hands

end WarCardGame
