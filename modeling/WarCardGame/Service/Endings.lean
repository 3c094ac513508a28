import WarCardGame.Service.Effects

/-!
# How a round ends

Up to its last step a round works on the card table alone: whose cards are drawn,
at which level, and whether a hand is found empty, depends neither on the game nor
on the players' rows.  `drawsFrom` is the loop of `war` as a function of the card
table, and `RoundEnds` relates the table and the played pair to the end of the
round.

* `drawWarCards_apply` — the loop of `war` is `drawsFrom`.
* `WarEnds`, `RoundEnds` — **how a war and a round end**: with which cards on the
  table, and with a side that takes them or a hand that is empty.
* `exists_warEnds`, `exists_roundEnds` — every war and every round ends.
* `RoundEnds.gameRound_eq` — what is left of the round is `conclude`, the only part
  that reads the rows of the game and of the players.
-/

namespace WarCardGame

open Lib

/-! ## Draws on the card table -/

/-- `drawNextCard` on the card table: the player's next card, marked, and the table
it is marked in. -/
def drawFrom (rows : CardOrder) (playerId : ℤ) (table : List CardsEntity) :
    Option (CardsEntity × List CardsEntity) :=
  (playFirst (CardsRepository.cardsOf rows playerId table)).map fun play =>
    (play.1, Rows.save CardsEntity.cardId play.1 table)

/-- `drawWarCards` on the card table. -/
def drawsFrom (rows : CardOrder) (player1Id player2Id : ℤ) :
    ℕ → List CardsEntity → List CardsEntity → WarDraw × List CardsEntity
  | 0, warCards, table => (.drawn warCards, table)
  | n + 1, warCards, table =>
      match drawFrom rows player1Id table with
      | none => (.player1Out warCards, table)
      | some (card1, table1) =>
          match drawFrom rows player2Id table1 with
          | none => (.player2Out (warCards ++ [card1]), table1)
          | some (card2, table2) =>
              drawsFrom rows player1Id player2Id n (warCards ++ [card1] ++ [card2]) table2

theorem drawNextCard_eq_drawFrom (rows : CardOrder) (playerId : ℤ) (w : World) :
    drawNextCard rows playerId w =
      match drawFrom rows playerId w.cards with
      | some (card, table) => (.ok (some card), { w with cards := table })
      | none => (.ok none, w) := by
  rw [drawNextCard_apply, drawFrom]
  cases playFirst (CardsRepository.cardsOf rows playerId w.cards) with
  | none => rfl
  | some play => rfl

/-- The loop of `war` changes the card table and nothing else. -/
theorem drawWarCards_apply (rows : CardOrder) (player1Id player2Id : ℤ) (n : ℕ)
    (warCards : List CardsEntity) (w : World) :
    drawWarCards rows player1Id player2Id n warCards w =
      (.ok (drawsFrom rows player1Id player2Id n warCards w.cards).1,
        { w with cards := (drawsFrom rows player1Id player2Id n warCards w.cards).2 }) := by
  induction n generalizing warCards w with
  | zero => rfl
  | succ n ih =>
      rw [drawWarCards, drawsFrom, Handler.bind_apply, drawNextCard_eq_drawFrom]
      rcases drawFrom rows player1Id w.cards with _ | ⟨card1, table1⟩
      · rfl
      simp only
      rw [Handler.bind_apply, drawNextCard_eq_drawFrom]
      simp only
      rcases drawFrom rows player2Id table1 with _ | ⟨card2, table2⟩
      · rfl
      · exact ih _ _

/-- The cards collected when the loop of `war` ends. -/
def WarDraw.cards : WarDraw → List CardsEntity
  | .drawn warCards => warCards
  | .player1Out warCards => warCards
  | .player2Out warCards => warCards

/-- No card leaves the table while cards are drawn. -/
theorem length_le_drawsFrom (rows : CardOrder) (player1Id player2Id : ℤ) (n : ℕ)
    (warCards table : List CardsEntity) :
    warCards.length ≤ (drawsFrom rows player1Id player2Id n warCards table).1.cards.length := by
  induction n generalizing warCards table with
  | zero => exact le_rfl
  | succ n ih =>
      rw [drawsFrom]
      rcases drawFrom rows player1Id table with _ | ⟨card1, table1⟩
      · exact le_rfl
      simp only
      rcases drawFrom rows player2Id table1 with _ | ⟨card2, table2⟩
      · simp [WarDraw.cards]
      · refine le_trans ?_ (ih _ _)
        simp

/-- A draw leaves no unplayed row that was not there before. -/
theorem mem_of_drawFrom {rows : CardOrder} {playerId : ℤ} {table table' : List CardsEntity}
    {card c : CardsEntity} (h : drawFrom rows playerId table = some (card, table'))
    (hc : c ∈ table') (hunplayed : c.isPlayed = false) : c ∈ table := by
  rw [drawFrom, Option.map_eq_some_iff] at h
  obtain ⟨⟨card', hand⟩, hplay, heq⟩ := h
  cases heq
  rcases (Rows.mem_save CardsEntity.cardId).1 hc with ⟨hold, -⟩ | ⟨rfl, -⟩
  · exact hold
  · obtain ⟨-, c₀, -, -, -, -, rfl, -⟩ := playFirst_eq_some hplay
    cases hunplayed

theorem mem_of_drawsFrom {rows : CardOrder} {player1Id player2Id : ℤ} {n : ℕ}
    {warCards table : List CardsEntity} {c : CardsEntity}
    (hc : c ∈ (drawsFrom rows player1Id player2Id n warCards table).2)
    (hunplayed : c.isPlayed = false) : c ∈ table := by
  induction n generalizing warCards table with
  | zero => exact hc
  | succ n ih =>
      rw [drawsFrom] at hc
      rcases h1 : drawFrom rows player1Id table with _ | ⟨card1, table1⟩ <;> rw [h1] at hc
      · exact hc
      simp only at hc
      rcases h2 : drawFrom rows player2Id table1 with _ | ⟨card2, table2⟩ <;> rw [h2] at hc
      · exact mem_of_drawFrom h1 hc hunplayed
      · exact mem_of_drawFrom h1 (mem_of_drawFrom h2 (ih hc) hunplayed) hunplayed

/-! ## Endings -/

/-- How a round ends: a player takes the cards, or a war finds a hand empty. -/
inductive Ending where
  | player1Wins
  | player2Wins
  | player1Out
  | player2Out
  deriving DecidableEq, Repr

/-- A war that starts with the card table `table` ends with the cards `cards` on
the table and the card table `table'`. -/
inductive WarEnds (rows : CardOrder) (player1Id player2Id : ℤ) (pair : List CardsEntity) :
    List CardsEntity → Ending → List CardsEntity → List CardsEntity → Prop where
  | player1Out {table cards table' : List CardsEntity}
      (hdraw : drawsFrom rows player1Id player2Id 3 pair table = (.player1Out cards, table')) :
      WarEnds rows player1Id player2Id pair table .player1Out cards table'
  | player2Out {table cards table' : List CardsEntity}
      (hdraw : drawsFrom rows player1Id player2Id 3 pair table = (.player2Out cards, table')) :
      WarEnds rows player1Id player2Id pair table .player2Out cards table'
  | player1Wins {table cards table' : List CardsEntity} {a b : CardsEntity}
      (hdraw : drawsFrom rows player1Id player2Id 3 pair table =
        (.drawn (cards ++ [a, b]), table')) (hrank : b.rank < a.rank) :
      WarEnds rows player1Id player2Id pair table .player1Wins (cards ++ [a, b]) table'
  | player2Wins {table cards table' : List CardsEntity} {a b : CardsEntity}
      (hdraw : drawsFrom rows player1Id player2Id 3 pair table =
        (.drawn (cards ++ [a, b]), table')) (hrank : a.rank < b.rank) :
      WarEnds rows player1Id player2Id pair table .player2Wins (cards ++ [a, b]) table'
  /-- The next level draws anew, with the played pair as its first cards. -/
  | again {table cards table' : List CardsEntity} {a b : CardsEntity} {e : Ending}
      {cards' table'' : List CardsEntity}
      (hdraw : drawsFrom rows player1Id player2Id 3 pair table =
        (.drawn (cards ++ [a, b]), table')) (htie : a.rank = b.rank)
      (hrest : WarEnds rows player1Id player2Id pair table' e cards' table'') :
      WarEnds rows player1Id player2Id pair table e cards' table''

/-- A round ends: the higher card takes the pair, and a tie goes to a war. -/
inductive RoundEnds (rows : CardOrder) (player1Id player2Id : ℤ) (card1 card2 : CardsEntity)
    (table : List CardsEntity) : Ending → List CardsEntity → List CardsEntity → Prop where
  | player1Wins (hrank : card2.rank < card1.rank) :
      RoundEnds rows player1Id player2Id card1 card2 table .player1Wins [card1, card2] table
  | player2Wins (hrank : card1.rank < card2.rank) :
      RoundEnds rows player1Id player2Id card1 card2 table .player2Wins [card1, card2] table
  | war {e : Ending} {cards table' : List CardsEntity} (htie : card1.rank = card2.rank)
      (hwar : WarEnds rows player1Id player2Id [card1, card2] table e cards table') :
      RoundEnds rows player1Id player2Id card1 card2 table e cards table'

section Endings

variable {rows : CardOrder} {player1Id player2Id : ℤ} {pair table cards table' : List CardsEntity}
  {e : Ending}

/-- The cards of a war are at least the played pair. -/
theorem WarEnds.length_le (h : WarEnds rows player1Id player2Id pair table e cards table') :
    pair.length ≤ cards.length := by
  have hlevel : ∀ {table : List CardsEntity} {d : WarDraw × List CardsEntity},
      drawsFrom rows player1Id player2Id 3 pair table = d → pair.length ≤ d.1.cards.length := by
    rintro table d rfl
    exact length_le_drawsFrom rows player1Id player2Id 3 pair table
  induction h with
  | player1Out hdraw => exact hlevel hdraw
  | player2Out hdraw => exact hlevel hdraw
  | player1Wins hdraw hrank => exact hlevel hdraw
  | player2Wins hdraw hrank => exact hlevel hdraw
  | again hdraw htie hrest ih => exact ih

/-- A round that ends has cards to take. -/
theorem RoundEnds.cards_ne_nil {card1 card2 : CardsEntity}
    (h : RoundEnds rows player1Id player2Id card1 card2 table e cards table') : cards ≠ [] := by
  cases h with
  | player1Wins hrank => simp
  | player2Wins hrank => simp
  | war htie hwar =>
      have hle := hwar.length_le
      rintro rfl
      simp at hle

/-- A round leaves no unplayed row that was not there before. -/
theorem WarEnds.mem_of_unplayed (h : WarEnds rows player1Id player2Id pair table e cards table')
    {c : CardsEntity} (hc : c ∈ table') (hunplayed : c.isPlayed = false) : c ∈ table := by
  have hlevel : ∀ {table : List CardsEntity} {d : WarDraw × List CardsEntity},
      drawsFrom rows player1Id player2Id 3 pair table = d → c ∈ d.2 → c ∈ table := by
    rintro table d rfl hc
    exact mem_of_drawsFrom hc hunplayed
  induction h with
  | player1Out hdraw => exact hlevel hdraw hc
  | player2Out hdraw => exact hlevel hdraw hc
  | player1Wins hdraw hrank => exact hlevel hdraw hc
  | player2Wins hdraw hrank => exact hlevel hdraw hc
  | again hdraw htie hrest ih => exact hlevel hdraw (ih hc)

theorem RoundEnds.mem_of_unplayed {card1 card2 c : CardsEntity}
    (h : RoundEnds rows player1Id player2Id card1 card2 table e cards table') (hc : c ∈ table')
    (hunplayed : c.isPlayed = false) : c ∈ table := by
  cases h with
  | player1Wins hrank => exact hc
  | player2Wins hrank => exact hc
  | war htie hwar => exact hwar.mem_of_unplayed hc hunplayed

/-! ## Every war ends -/

/-- The pair the two players have put down. -/
def World.playedPair (w : World) : List CardsEntity := w.playedCard1.toList ++ w.playedCard2.toList

theorem warDraw_apply (rows : CardOrder) (player1Id player2Id : ℤ) (w : World) :
    warDraw rows player1Id player2Id w =
      (.ok (drawsFrom rows player1Id player2Id 3 w.playedPair w.cards).1,
        { w with cards := (drawsFrom rows player1Id player2Id 3 w.playedPair w.cards).2 }) :=
  drawWarCards_apply rows player1Id player2Id 3 w.playedPair w

/-- What a level of a war draws, on the card table. -/
theorem drawsFrom_of_warDraw {w w' : World} {d : WarDraw}
    (h : warDraw rows player1Id player2Id w = (.ok d, w')) :
    drawsFrom rows player1Id player2Id 3 w.playedPair w.cards = (d, w'.cards) ∧
      w'.playedPair = w.playedPair := by
  rw [warDraw_apply] at h
  cases h
  exact ⟨rfl, rfl⟩

/-- Every war ends. -/
theorem exists_warEnds (rows : CardOrder) (player1Id player2Id : ℤ) (w : World) :
    ∃ e cards table', WarEnds rows player1Id player2Id w.playedPair w.cards e cards table' := by
  refine war_induction rows player1Id player2Id (motive := fun w => ∃ e cards table',
    WarEnds rows player1Id player2Id w.playedPair w.cards e cards table') (fun w ih => ?_) w
  rcases war_cases rows player1Id player2Id 0 w with
    ⟨cs, w', hdraw, -⟩ | ⟨cs, w', hdraw, -⟩ | ⟨cs, a, b, w', hdraw, hrank, -⟩ |
    ⟨cs, a, b, w', hdraw, hrank, -⟩ | ⟨cs, a, b, w', hdraw, htie, -⟩ <;>
    obtain ⟨htable, hpair⟩ := drawsFrom_of_warDraw hdraw
  · exact ⟨_, _, _, WarEnds.player1Out htable⟩
  · exact ⟨_, _, _, WarEnds.player2Out htable⟩
  · exact ⟨_, _, _, WarEnds.player1Wins htable hrank⟩
  · exact ⟨_, _, _, WarEnds.player2Wins htable hrank⟩
  · obtain ⟨e, cards, table', hrest⟩ := ih _ w' hdraw
    have hnext : WarEnds rows player1Id player2Id w.playedPair w'.cards e cards table' :=
      hpair ▸ hrest
    exact ⟨e, cards, table', WarEnds.again htable htie hnext⟩

/-- Every round ends. -/
theorem exists_roundEnds (rows : CardOrder) (player1Id player2Id : ℤ) {w : World}
    {card1 card2 : CardsEntity} (h1 : w.playedCard1 = some card1)
    (h2 : w.playedCard2 = some card2) :
    ∃ e cards table', RoundEnds rows player1Id player2Id card1 card2 w.cards e cards table' := by
  rcases lt_trichotomy card1.rank card2.rank with hlt | htie | hgt
  · exact ⟨_, _, _, RoundEnds.player2Wins hlt⟩
  · obtain ⟨e, cards, table', hwar⟩ := exists_warEnds rows player1Id player2Id w
    have hpair : w.playedPair = [card1, card2] := by simp [World.playedPair, h1, h2]
    exact ⟨e, cards, table', RoundEnds.war htie (hpair ▸ hwar)⟩
  · exact ⟨_, _, _, RoundEnds.player1Wins hgt⟩

end Endings

/-! ## What is left to do -/

/-- The last step of a round, once its cards are drawn: the only one that reads the
rows of the game and of the players. -/
def conclude (gameId player1Id player2Id : ℤ) (cards : List CardsEntity) : Ending → Service Unit
  | .player1Wins => capture1 cards
  | .player2Wins => capture2 cards
  | .player1Out => do
      declareWinnerAndAddWarCards gameId player1Id player2Id cards
      convertAndSend (.gameWar warText)
  | .player2Out => declareWinnerAndAddWarCards gameId player1Id player2Id cards

@[simp] theorem World.send_nil (w : World) : w.send [] = w := by
  simp [World.send]

section Conclusion

variable {rows : CardOrder} {player1Id player2Id : ℤ} {cards table' : List CardsEntity} {e : Ending}

/-- A war is its draws, announced level by level, and the last step. -/
theorem WarEnds.war_eq (gameId : ℤ) {pair table : List CardsEntity}
    (h : WarEnds rows player1Id player2Id pair table e cards table') {w : World}
    (hpair : w.playedPair = pair) (htable : w.cards = table) :
    ∃ ms, (∀ m ∈ ms, m = .gameWar warText) ∧ war rows player1Id player2Id gameId w =
      conclude gameId player1Id player2Id cards e ({ w with cards := table' }.send ms) := by
  induction h generalizing w with
  | player1Out hdraw =>
      refine ⟨[], by simp, ?_⟩
      rw [World.send_nil]
      exact war_player1Out gameId (by rw [warDraw_apply, hpair, htable, hdraw])
  | player2Out hdraw =>
      refine ⟨[], by simp, ?_⟩
      rw [World.send_nil]
      exact war_player2Out gameId (by rw [warDraw_apply, hpair, htable, hdraw])
  | player1Wins hdraw hrank =>
      refine ⟨[], by simp, ?_⟩
      rw [World.send_nil]
      exact (war_drawn gameId _ (by rw [warDraw_apply, hpair, htable, hdraw])).1 hrank
  | player2Wins hdraw hrank =>
      refine ⟨[], by simp, ?_⟩
      rw [World.send_nil]
      exact (war_drawn gameId _ (by rw [warDraw_apply, hpair, htable, hdraw])).2.1 hrank
  | @again table cs table₁ a b e cards table₂ hdraw htie hrest ih =>
      -- the level below starts where this one has drawn, with one more message sent
      obtain ⟨ms, hms, hwar⟩ :=
        ih (w := { w with cards := table₁ }.send [.gameWar warText]) hpair rfl
      refine ⟨.gameWar warText :: ms, by simpa using hms, ?_⟩
      rw [(war_drawn gameId cs (by rw [warDraw_apply, hpair, htable, hdraw])).2.2 htie, hwar]
      simp [World.send]

/-- **A round is its draws and the last step.** -/
theorem RoundEnds.gameRound_eq (gameId : ℤ) {w : World} {card1 card2 : CardsEntity}
    (h : RoundEnds rows player1Id player2Id card1 card2 w.cards e cards table')
    (h1 : w.playedCard1 = some card1) (h2 : w.playedCard2 = some card2) :
    ∃ ms, (∀ m ∈ ms, m = .gameWar warText) ∧ gameRound rows player1Id player2Id gameId w =
      conclude gameId player1Id player2Id cards e ({ w with cards := table' }.send ms) := by
  have hpair : w.playedPair = [card1, card2] := by simp [World.playedPair, h1, h2]
  rcases gameRound_cases rows player1Id player2Id gameId w with
    ⟨hnull, -⟩ | ⟨c1, c2, hc1, hc2, hrank, hround⟩ | ⟨c1, c2, hc1, hc2, hrank, hround⟩ |
    ⟨c1, c2, hc1, hc2, hrank, hround⟩
  · simp [h1, h2] at hnull
  all_goals
    obtain rfl := Option.some.inj (h1.symm.trans hc1)
    obtain rfl := Option.some.inj (h2.symm.trans hc2)
    rw [hround]
  · cases h with
    | player1Wins => exact ⟨[], by simp, by rw [World.send_nil]; rfl⟩
    | player2Wins hlt => omega
    | war htie => omega
  · cases h with
    | player1Wins hlt => omega
    | player2Wins => exact ⟨[], by simp, by rw [World.send_nil]; rfl⟩
    | war htie => omega
  · cases h with
    | player1Wins hlt => omega
    | player2Wins hlt => omega
    | war htie hwar =>
        obtain ⟨ms, hms, heq⟩ := hwar.war_eq gameId (w := w.send [.gameWar warText]) hpair rfl
        refine ⟨.gameWar warText :: ms, by simpa using hms, ?_⟩
        rw [heq]
        simp [World.send]

end Conclusion

end WarCardGame
