import WarCardGame.Game.Rounds
import WarCardGame.Server.Lobby
import WarCardGame.Server.Piles

/-!
# Every outcome of a request of player 2

`/cards/playCardPlayer2Test` takes three ids from the client and looks at one of
them before it writes.  This module says what the request does for arbitrary ids.

* `PutsDown`, `Round.Accepted` — player 2 has a card to put down, and the request is
  accepted with the round `r`.
* `playCard2_outcome` — the request changes nothing, finds no card of player 1 on
  the table, or is accepted.
* `Round.Accepted.succeeds`, `.out_missing`, `.win_missing` — the outcome of an
  accepted request, with the three rows stored and without.
* `playCard2_atomic_iff` — when a request that fails has changed nothing.
* `announced_winner_stored_iff` — when the winner it announces is the stored one.
-/

namespace WarCardGame

open Lib
open Lib.War (Side)

/-! ## The last step of a round -/

/-- The side that takes the cards, unless the war ran out of cards. -/
def Ending.winner : Ending → Option Side
  | .player1Wins => some .player1
  | .player2Wins => some .player2
  | .player1Out | .player2Out => none

/-- The state after `cards` went to a side's pile. -/
def World.given (w : World) (side : Option Side) (cards : List CardsEntity) : World :=
  match side with
  | some .player1 => w.captured1 cards
  | some .player2 => w.captured2 cards
  | none => w

theorem World.award_eq_given (w : World) (username1 username2 : String) (n1 n2 : ℕ)
    (cards : List CardsEntity) :
    w.award username1 username2 (winnerText username1 username2 n1 n2) cards =
      w.given (recipient username1 username2 n1 n2) cards := by
  unfold World.award recipient
  split_ifs <;> rfl

theorem Stored.given {player1Id player2Id gameId : ℤ} {player1 player2 : PlayersEntity} {w : World}
    (h : Stored player1Id player2Id gameId player1 player2 w) (side : Option Side)
    (cards : List CardsEntity) :
    Stored player1Id player2Id gameId player1 player2 (w.given side cards) := by
  rcases side with _ | _ | _ <;> exact h.same rfl rfl

/-- Captured cards are no announcement of a winner. -/
theorem winnerTexts_given (w : World) (side : Option Side) (cards : List CardsEntity) :
    winnerTexts (w.given side cards).sent = winnerTexts w.sent := by
  rcases side with _ | _ | _
  · rfl
  · exact (winnerTexts_append _ _).trans (List.append_nil _)
  · exact (winnerTexts_append _ _).trans (List.append_nil _)

/-- Nor are the messages of a war. -/
theorem winnerTexts_war {ms : List Message} (h : ∀ m ∈ ms, m = .gameWar warText) :
    winnerTexts ms = [] := by
  refine List.filterMap_eq_nil_iff.2 fun m hm => ?_
  rw [h m hm]

section Conclusion

variable {gameId player1Id player2Id : ℤ} {player1 player2 : PlayersEntity} {w : World} {e : Ending}

/-- A side that wins takes the cards, whatever rows are stored. -/
theorem conclude_winner (gameId player1Id player2Id : ℤ) {side : Side}
    (h : e.winner = some side) (cards : List CardsEntity) (w : World) :
    conclude gameId player1Id player2Id cards e w = (.ok (), w.given (some side) cards) := by
  cases e <;> cases h <;> rfl

/-- A war without cards ends in an exception if a row is missing. -/
theorem conclude_out_missing (h : e.winner = none)
    (hmissing : GameRepository.rowOf w.games gameId = none ∨
      PlayerRepository.rowOf w.players player1Id = none ∨
      PlayerRepository.rowOf w.players player2Id = none) (cards : List CardsEntity) :
    conclude gameId player1Id player2Id cards e w = (.error .noSuchElementException, w) := by
  have hdeclare := declareWinnerAndAddWarCards_missing hmissing cards
  cases e with
  | player1Wins => cases h
  | player2Wins => cases h
  | player1Out => exact Handler.bind_error hdeclare
  | player2Out => exact hdeclare

/-- With the rows stored, its cards go to the recipient and the winner is
announced. -/
theorem conclude_out_stored (h : e.winner = none)
    (hstored : Stored player1Id player2Id gameId player1 player2 w) (cards : List CardsEntity) :
    ∃ ms, conclude gameId player1Id player2Id cards e w =
        (.ok (), (w.given (recipient player1.username player2.username
          w.player1CapturedCards.length w.player2CapturedCards.length) cards).send ms) ∧
      winnerTexts ms = [winnerText player1.username player2.username
        w.player1CapturedCards.length w.player2CapturedCards.length] := by
  have hdeclare := hstored.declareWinnerAndAddWarCards_eq cards
  simp only [World.award_eq_given] at hdeclare
  cases e with
  | player1Wins => cases h
  | player2Wins => cases h
  | player1Out =>
      refine ⟨[.gameWar warText, .gameWinner (winnerText player1.username player2.username
        w.player1CapturedCards.length w.player2CapturedCards.length), .gameWar warText], ?_, rfl⟩
      refine (Handler.bind_ok hdeclare).trans ?_
      rw [convertAndSend_apply, World.send_send]
      rfl
  | player2Out => exact ⟨_, hdeclare, rfl⟩

end Conclusion

/-! ## Accepted requests -/

/-- What happens in a round: the two cards put down, player 2's hand with the card
marked, how the round ends, with which cards on the table and which card table. -/
structure Round where
  card1 : CardsEntity
  card2 : CardsEntity
  hand : List CardsEntity
  ending : Ending
  cards : List CardsEntity
  table : List CardsEntity

/-- Player 2 is stored, has the turn, and has a card to put down. -/
structure PutsDown (rows : CardOrder) (player2Id : ℤ) (card : CardsEntity)
    (hand : List CardsEntity) (w : World) : Prop where
  stored : ∃ player2, PlayerRepository.rowOf w.players player2Id = some player2
  turn : w.player2Turn = true
  play : playFirst (CardsRepository.cardsOf rows player2Id w.cards) = some (card, hand)

/-- A request of player 2 with these ids is accepted, and its round is `r`. -/
structure Round.Accepted (r : Round) (rows : CardOrder) (player1Id player2Id : ℤ) (w : World) :
    Prop extends PutsDown rows player2Id r.card2 r.hand w where
  card1 : w.playedCard1 = some r.card1
  ends : RoundEnds rows player1Id player2Id r.card1 r.card2
    (Rows.save CardsEntity.cardId r.card2 w.cards) r.ending r.cards r.table

/-- The state in which the cards of a round are drawn. -/
def Round.drawn (r : Round) (w : World) : World := { w.putDown2 r.card2 with cards := r.table }

/-- The state after the cards went to a side and the turn back to player 1. -/
def Round.after (r : Round) (side : Option Side) (w : World) : World :=
  ((r.drawn w).given side r.cards).turnBack

/-- The state after a round for which a row is missing: what was drawn stays drawn, and a
side that has won has the cards, with the turn back at player 1. -/
def Round.left (r : Round) (w : World) : World :=
  match r.ending.winner with
  | some side => r.after (some side) w
  | none => r.drawn w

theorem Round.cards_left (r : Round) (w : World) : (r.left w).cards = r.table := by
  unfold Round.left
  rcases r.ending.winner with _ | _ | _ <;> rfl

theorem Round.left_quiet (r : Round) (w : World) : (r.left w.quiet).quiet = (r.left w).quiet := by
  unfold Round.left
  rcases r.ending.winner with _ | _ | _ <;> rfl

/-- Who takes the cards of a round when the rows are stored. -/
def Round.taker (r : Round) (username1 username2 : String) (w : World) : Option Side :=
  match r.ending.winner with
  | some side => some side
  | none => recipient username1 username2 w.player1CapturedCards.length
      w.player2CapturedCards.length

/-- **The ways through `playCard2`, for arbitrary ids.**  No card is put down, nothing
changes, and the request fails only if an id is `null` or player 2 is not stored; or
there is no card of player 1 to play against; or the request is accepted. -/
theorem playCard2_outcome (rows : CardOrder) (request : PlayCardRequest) (w : World) :
    (∃ result, playCard2 rows request w = (result, w) ∧ ∀ player1Id player2Id gameId,
      request = ⟨some player1Id, some player2Id, some gameId⟩ →
        (∀ card hand, ¬ PutsDown rows player2Id card hand w) ∧
        ∀ player2, PlayerRepository.rowOf w.players player2Id = some player2 →
          ∃ response, result = .ok response) ∨
    (∃ player1Id player2Id gameId card hand,
      request = ⟨some player1Id, some player2Id, some gameId⟩ ∧
      PutsDown rows player2Id card hand w ∧ w.playedCard1 = none ∧
      playCard2 rows request w = (.error .nullPointerException, w.putDown2 card)) ∨
    ∃ player1Id player2Id gameId r, request = ⟨some player1Id, some player2Id, some gameId⟩ ∧
      Round.Accepted r rows player1Id player2Id w := by
  by_cases hnull : request.player1Id = none ∨ request.player2Id = none ∨ request.gameId = none
  · refine Or.inl ⟨_, playCard2_null rows w hnull, ?_⟩
    rintro player1Id player2Id gameId rfl
    simp at hnull
  obtain ⟨_ | player1Id, _ | player2Id, _ | gameId⟩ := request
  all_goals try simp at hnull
  rw [playCard2_apply]
  rcases hrow : PlayerRepository.rowOf w.players player2Id with _ | player2
  · refine Or.inl ⟨_, rfl, ?_⟩
    rintro _ _ _ ⟨⟩
    refine ⟨fun card hand hdown => ?_, fun player2 hstored => ?_⟩
    · obtain ⟨player2, hstored⟩ := hdown.stored
      cases hrow.symm.trans hstored
    · cases hrow.symm.trans hstored
  cases hturn : w.player2Turn with
  | false =>
      refine Or.inl ⟨_, rfl, ?_⟩
      rintro _ _ _ ⟨⟩
      refine ⟨fun card hand hdown => ?_, fun _ _ => ⟨_, rfl⟩⟩
      cases hturn.symm.trans hdown.turn
  | true =>
      simp only [if_true]
      rcases hplay : playFirst (CardsRepository.cardsOf rows player2Id w.cards) with
        _ | ⟨card, hand⟩
      · refine Or.inl ⟨_, rfl, ?_⟩
        rintro _ _ _ ⟨⟩
        refine ⟨fun card hand hdown => ?_, fun _ _ => ⟨_, rfl⟩⟩
        cases hplay.symm.trans hdown.play
      have hdown : PutsDown rows player2Id card hand w := ⟨⟨player2, hrow⟩, hturn, hplay⟩
      refine Or.inr ?_
      rcases hcard1 : w.playedCard1 with _ | card1
      · refine Or.inl ⟨player1Id, player2Id, gameId, card, hand, rfl, hdown, rfl, ?_⟩
        rcases gameRound_cases rows player1Id player2Id gameId (w.putDown2 card) with
          ⟨-, h⟩ | ⟨c1, c2, h1, -⟩ | ⟨c1, c2, h1, -⟩ | ⟨c1, c2, h1, -⟩
        · exact Handler.bind_error h
        all_goals cases hcard1.symm.trans h1
      · obtain ⟨e, cards, table, hends⟩ :=
          exists_roundEnds rows player1Id player2Id (w := w.putDown2 card) hcard1 rfl
        exact Or.inr ⟨player1Id, player2Id, gameId, ⟨card1, card, hand, e, cards, table⟩, rfl,
          hdown, hcard1, hends⟩

namespace Round.Accepted

variable {r : Round} {rows : CardOrder} {player1Id player2Id : ℤ} {w : World}

/-- The messages sent before do not matter. -/
theorem quiet_iff : r.Accepted rows player1Id player2Id w.quiet ↔
    r.Accepted rows player1Id player2Id w :=
  ⟨fun h => ⟨⟨h.stored, h.turn, h.play⟩, h.card1, h.ends⟩,
    fun h => ⟨⟨h.stored, h.turn, h.play⟩, h.card1, h.ends⟩⟩

/-- Player 2 is stored, so the rows of an accepted request are all there, or the game
or player 1 is missing. -/
theorem stored_or_missing (h : r.Accepted rows player1Id player2Id w) (gameId : ℤ) :
    (∃ player1 player2, Stored player1Id player2Id gameId player1 player2 w) ∨
      (GameRepository.rowOf w.games gameId = none ∨
        PlayerRepository.rowOf w.players player1Id = none) := by
  obtain ⟨player2, h2⟩ := h.stored
  rcases rows_stored_or_missing gameId player1Id player2Id w with
    ⟨game, player1, player2, hgame, h1, h2⟩ | hmissing
  · exact Or.inl ⟨player1, player2, ⟨game, hgame⟩, h1, h2⟩
  · exact Or.inr (by simpa [h2] using hmissing)

/-- An accepted request draws the cards of its round, concludes it and gives the
turn back. -/
theorem playCard2_eq (h : r.Accepted rows player1Id player2Id w) (gameId : ℤ) :
    ∃ ms response, (∀ m ∈ ms, m = .gameWar warText) ∧
      playCard2 rows ⟨some player1Id, some player2Id, some gameId⟩ w =
        (do
          conclude gameId player1Id player2Id r.cards r.ending
          finishRound player1Id player2Id gameId r.hand
          return response : Service (Option PlayCardResponse)) ((r.drawn w).send ms) := by
  obtain ⟨player2, hrow⟩ := h.stored
  obtain ⟨ms, hms, hround⟩ := h.ends.gameRound_eq gameId (w := w.putDown2 r.card2) h.card1 rfl
  refine ⟨ms, some { card := some r.card2, turn := true, playerSession := player2.sessionId }, hms,
    ?_⟩
  rw [playCard2_apply, hrow, h.turn, h.play]
  simp only [if_true]
  rw [Handler.bind_apply, hround, Handler.bind_apply]
  rfl

/-- A war without cards, and a row missing: the request fails, and what was drawn
stays drawn. -/
theorem out_missing (h : r.Accepted rows player1Id player2Id w) {gameId : ℤ}
    (hout : r.ending.winner = none)
    (hmissing : GameRepository.rowOf w.games gameId = none ∨
      PlayerRepository.rowOf w.players player1Id = none) :
    ∃ ms, (∀ m ∈ ms, m = .gameWar warText) ∧
      playCard2 rows ⟨some player1Id, some player2Id, some gameId⟩ w =
        (.error .noSuchElementException, (r.drawn w).send ms) := by
  obtain ⟨ms, response, hms, heq⟩ := h.playCard2_eq gameId
  refine ⟨ms, hms, heq.trans (Handler.bind_error (conclude_out_missing hout ?_ r.cards))⟩
  exact hmissing.imp_right Or.inl

/-- A side wins, and a row is missing: the cards are captured and the turn goes
back, no winner is announced, and the request fails only if it had to announce
one. -/
theorem win_missing (h : r.Accepted rows player1Id player2Id w) {gameId : ℤ} {side : Side}
    (hwin : r.ending.winner = some side)
    (hmissing : GameRepository.rowOf w.games gameId = none ∨
      PlayerRepository.rowOf w.players player1Id = none) :
    ∃ result v, playCard2 rows ⟨some player1Id, some player2Id, some gameId⟩ w = (result, v) ∧
      v.quiet = (r.after (some side) w).quiet ∧ winnerTexts v.sent = winnerTexts w.sent ∧
      ((∃ e, result = .error e) ↔ allCardsPlayed r.hand = true) := by
  obtain ⟨ms, response, hms, heq⟩ := h.playCard2_eq gameId
  have hconclude := conclude_winner gameId player1Id player2Id hwin r.cards ((r.drawn w).send ms)
  rw [Handler.bind_ok hconclude] at heq
  set v := ((r.drawn w).send ms).given (some side) r.cards with hv
  have hrows : v.games = w.games ∧ v.players = w.players := by
    cases side <;> exact ⟨rfl, rfl⟩
  have hquiet : v.turnBack.quiet = (r.after (some side) w).quiet := by
    cases side <;> rfl
  have htexts : winnerTexts v.turnBack.sent = winnerTexts w.sent := by
    show winnerTexts v.sent = _
    rw [hv, winnerTexts_given]
    show winnerTexts (w.sent ++ ms) = _
    rw [winnerTexts_append, winnerTexts_war hms, List.append_nil]
  rcases finishRound_cases player1Id player2Id gameId r.hand v with
    ⟨hall, hfinish⟩ | ⟨game, p1, p2, -, hgame, h1, -, -⟩ | ⟨hall, -, hfinish⟩
  · rw [Handler.bind_ok hfinish] at heq
    exact ⟨_, _, heq, hquiet, htexts, by simp [hall]⟩
  · rw [hrows.1] at hgame
    rw [hrows.2] at h1
    simp [hgame, h1] at hmissing
  · rw [Handler.bind_error hfinish] at heq
    exact ⟨_, _, heq, hquiet, htexts, by simp [hall]⟩

/-- Whether it fails or not, a request without one of the rows leaves the same state. -/
theorem next_missing (h : r.Accepted rows player1Id player2Id w) {gameId : ℤ}
    (hmissing : GameRepository.rowOf w.games gameId = none ∨
      PlayerRepository.rowOf w.players player1Id = none) :
    (playCard2 rows ⟨some player1Id, some player2Id, some gameId⟩ w).2.quiet =
      (r.left w).quiet := by
  unfold Round.left
  rcases hwinner : r.ending.winner with _ | side
  · obtain ⟨ms, -, heq⟩ := h.out_missing hwinner hmissing
    rw [heq]
    rfl
  · obtain ⟨result, v, heq, hquiet, -⟩ := h.win_missing hwinner hmissing
    rw [heq]
    exact hquiet

/-- **With the three rows stored an accepted request succeeds.**  The cards go to the
taker, the turn goes back, and a winner is announced for a war without cards and for
a hand that is all played. -/
theorem succeeds (h : r.Accepted rows player1Id player2Id w) {gameId : ℤ}
    {player1 player2 : PlayersEntity}
    (hstored : Stored player1Id player2Id gameId player1 player2 w) :
    ∃ response v, playCard2 rows ⟨some player1Id, some player2Id, some gameId⟩ w =
        (.ok response, v) ∧
      v.quiet = (r.after (r.taker player1.username player2.username w) w).quiet ∧
      winnerTexts v.sent = winnerTexts w.sent ++
        (if r.ending.winner = none then [winnerText player1.username player2.username
          w.player1CapturedCards.length w.player2CapturedCards.length] else []) ++
        (if allCardsPlayed r.hand then [winnerText player1.username player2.username
          v.player1CapturedCards.length v.player2CapturedCards.length] else []) := by
  obtain ⟨ms, response, hms, heq⟩ := h.playCard2_eq gameId
  have hdrawn : Stored player1Id player2Id gameId player1 player2 ((r.drawn w).send ms) :=
    hstored.same rfl rfl
  obtain ⟨ms', hconclude, htexts⟩ : ∃ ms',
      conclude gameId player1Id player2Id r.cards r.ending ((r.drawn w).send ms) =
        (.ok (), (((r.drawn w).send ms).given (r.taker player1.username player2.username w)
          r.cards).send ms') ∧
      winnerTexts ms' = if r.ending.winner = none then [winnerText player1.username
        player2.username w.player1CapturedCards.length w.player2CapturedCards.length] else [] := by
    unfold Round.taker
    rcases hwinner : r.ending.winner with _ | side
    · obtain ⟨ms', hconclude, htexts⟩ := conclude_out_stored hwinner hdrawn r.cards
      exact ⟨ms', hconclude, htexts⟩
    · refine ⟨[], ?_, rfl⟩
      rw [conclude_winner gameId player1Id player2Id hwinner, World.send_nil]
  rw [Handler.bind_ok hconclude] at heq
  generalize r.taker player1.username player2.username w = side at heq ⊢
  have hfinal : Stored player1Id player2Id gameId player1 player2
      ((((r.drawn w).send ms).given side r.cards).send ms') :=
    (hdrawn.given side r.cards).same rfl rfl
  rw [Handler.bind_ok (hfinal.finishRound_eq r.hand)] at heq
  refine ⟨_, _, heq, ?_, ?_⟩
  · rcases side with _ | _ | _ <;> rfl
  · show winnerTexts (((((r.drawn w).send ms).given side r.cards).sent ++ ms') ++ _) = _
    rw [winnerTexts_append, winnerTexts_append, winnerTexts_given, htexts]
    show winnerTexts (w.sent ++ ms) ++ _ ++ _ = _
    rw [winnerTexts_append, winnerTexts_war hms, List.append_nil]
    cases allCardsPlayed r.hand <;> rfl

/-- The card player 2 put down is marked in the table the round leaves. -/
theorem table_ne (h : r.Accepted rows player1Id player2Id w) : r.table ≠ w.cards := by
  intro heq
  obtain ⟨c, hc, -, hunplayed, hcard⟩ := mem_of_playFirst h.play
  have hmem := h.ends.mem_of_unplayed (heq ▸ hc) hunplayed
  rcases (Rows.mem_save CardsEntity.cardId).1 hmem with ⟨-, hne⟩ | ⟨hsame, -⟩
  · exact hne (by rw [hcard]; rfl)
  · rw [hsame, hcard] at hunplayed
    cases hunplayed

end Round.Accepted

/-! ## Requests that fail -/

/-- The cards, the turn and the piles are as before. -/
structure Untouched (w w' : World) : Prop where
  cards : w'.cards = w.cards
  player1Turn : w'.player1Turn = w.player1Turn
  player2Turn : w'.player2Turn = w.player2Turn
  player1CapturedCards : w'.player1CapturedCards = w.player1CapturedCards
  player2CapturedCards : w'.player2CapturedCards = w.player2CapturedCards

/-- The request is accepted, but player 1 or the game is not stored, and the round
comes to the point where their rows are read: its war runs out of cards, or player
2's hand is all played. -/
def FailsLate (rows : CardOrder) (request : PlayCardRequest) (w : World) : Prop :=
  ∃ player1Id player2Id gameId r, request = ⟨some player1Id, some player2Id, some gameId⟩ ∧
    Round.Accepted r rows player1Id player2Id w ∧
    (GameRepository.rowOf w.games gameId = none ∨
      PlayerRepository.rowOf w.players player1Id = none) ∧
    (r.ending.winner = none ∨ allCardsPlayed r.hand = true)

theorem failsLate_quiet {rows : CardOrder} {request : PlayCardRequest} {w : World} :
    FailsLate rows request w.quiet ↔ FailsLate rows request w := by
  simp only [FailsLate, Round.Accepted.quiet_iff]
  rfl

/-- A request that fails late has marked cards. -/
theorem FailsLate.fails {rows : CardOrder} {request : PlayCardRequest} {w : World}
    (h : FailsLate rows request w) :
    (∃ e, (playCard2 rows request w).1 = .error e) ∧
      (playCard2 rows request w).2.cards ≠ w.cards := by
  obtain ⟨player1Id, player2Id, gameId, r, rfl, haccepted, hmissing, hread⟩ := h
  have hcards := congrArg World.cards (haccepted.next_missing hmissing)
  refine ⟨?_, fun hsame => haccepted.table_ne ?_⟩
  · rcases hwinner : r.ending.winner with _ | side
    · obtain ⟨ms, -, heq⟩ := haccepted.out_missing hwinner hmissing
      rw [heq]
      exact ⟨_, rfl⟩
    · obtain ⟨result, v, heq, -, -, hfails⟩ := haccepted.win_missing hwinner hmissing
      rw [heq]
      exact hfails.2 (by simpa [hwinner] using hread)
  · rw [← r.cards_left w, ← hsame]
    exact hcards.symm

/-- An accepted request that does not fail late does not fail. -/
theorem Round.Accepted.ok_of_not_failsLate {r : Round} {rows : CardOrder} {w : World}
    {player1Id player2Id gameId : ℤ} (h : r.Accepted rows player1Id player2Id w)
    (hlate : ¬ FailsLate rows ⟨some player1Id, some player2Id, some gameId⟩ w) :
    ¬ ∃ e, (playCard2 rows ⟨some player1Id, some player2Id, some gameId⟩ w).1 = .error e := by
  rintro ⟨e, herror⟩
  rcases h.stored_or_missing gameId with ⟨player1, player2, hstored⟩ | hmissing
  · obtain ⟨response, v, heq, -⟩ := h.succeeds hstored
    rw [heq] at herror
    cases herror
  rcases hwinner : r.ending.winner with _ | side
  · exact hlate ⟨_, _, _, r, rfl, h, hmissing, Or.inl hwinner⟩
  · obtain ⟨result, v, heq, -, -, hfails⟩ := h.win_missing hwinner hmissing
    rw [heq] at herror
    exact hlate ⟨_, _, _, r, rfl, h, hmissing, Or.inr (hfails.1 ⟨e, herror⟩)⟩

/-- **When a request of player 2 that fails has changed nothing.**  After any
requests and for arbitrary ids: exactly if it does not fail late.  With the rows of both
players and of the game stored it does not fail at all.  And if it fails late, its cards
stay drawn, and a side that has won the round keeps them, with the turn back at player 1. -/
theorem playCard2_atomic_iff (deck : Deck) (calls : List Call) (call : Call)
    (request : PlayCardRequest) (hrequest : call.request = .playCardPlayer2 request) :
    let w := server.run (World.initial deck) calls
    (((∃ e, (server.out w call).response = .error e) → Untouched w (server.next w call)) ↔
      ¬ FailsLate call.rows request w) ∧
    (∀ player1Id player2Id gameId player1 player2,
      request = ⟨some player1Id, some player2Id, some gameId⟩ →
      Stored player1Id player2Id gameId player1 player2 w →
      ∃ response, (server.out w call).response = .ok response) ∧
    ∀ player1Id player2Id gameId r,
      request = ⟨some player1Id, some player2Id, some gameId⟩ →
      Round.Accepted r call.rows player1Id player2Id w →
      GameRepository.rowOf w.games gameId = none ∨
        PlayerRepository.rowOf w.players player1Id = none →
      (server.next w call).quiet = (r.left w).quiet := by
  intro w
  have hpiles : Piles w := piles_run deck calls
  have hresponse : ∀ e, (server.out w call).response = .error e ↔
      (playCard2 call.rows request w.quiet).1 = .error e := by
    intro e
    rw [response_playCard2 hrequest]
    cases (playCard2 call.rows request w.quiet).1 <;> simp [Except.map]
  rw [next_playCard2 hrequest, ← failsLate_quiet]
  simp only [hresponse]
  refine and_assoc.1 ⟨?_, ?_⟩
  · rcases playCard2_outcome call.rows request w.quiet with
      ⟨result, heq, hnot⟩ | ⟨_, _, _, _, _, -, hdown, hnone, -⟩ |
      ⟨player1Id, player2Id, gameId, r, rfl, haccepted⟩
    · constructor
      · rw [heq]
        refine iff_of_true (fun _ => ⟨rfl, rfl, rfl, rfl, rfl⟩) ?_
        rintro ⟨player1Id, player2Id, gameId, r, hids, haccepted, -⟩
        exact (hnot player1Id player2Id gameId hids).1 _ _ haccepted.toPutsDown
      · intro player1Id player2Id gameId player1 player2 hids hstored
        obtain ⟨response, rfl⟩ := (hnot player1Id player2Id gameId hids).2 player2 hstored.player2
        exact ⟨.playCard response, by rw [response_playCard2 hrequest, heq]; rfl⟩
    · exact absurd hnone (hpiles.playedCard1 hdown.turn)
    · constructor
      · by_cases hlate : FailsLate call.rows ⟨some player1Id, some player2Id, some gameId⟩ w.quiet
        · obtain ⟨herror, hcards⟩ := hlate.fails
          exact iff_of_false (fun h => hcards (h herror).cards) (not_not.2 hlate)
        · exact iff_of_true (fun herror => absurd herror (haccepted.ok_of_not_failsLate hlate))
            hlate
      · rintro _ _ _ player1 player2 ⟨⟩ hstored
        obtain ⟨response, v, heq, -⟩ := haccepted.succeeds (hstored.same rfl rfl)
        exact ⟨.playCard response, by rw [response_playCard2 hrequest, heq]; rfl⟩
  · rintro player1Id player2Id gameId r rfl haccepted hmissing
    rw [← Round.left_quiet]
    exact (Round.Accepted.quiet_iff.2 haccepted).next_missing hmissing

/-- Two players have been dealt their hands, and player 1 has put down a card. -/
def player1HasPlayed : List Call :=
  [⟨.createGameAndPlayer ⟨some "player1", some "session1"⟩, .same, .same⟩,
    ⟨.joinGame ⟨some 1, some "player2", some "session2"⟩, .same, .same⟩,
    ⟨.dealCardsPlayer1 (some "session1"), .same, .same⟩,
    ⟨.dealCardsPlayer2 (some "session2"), .same, .same⟩,
    ⟨.playCardPlayer1 1, .same, .same⟩]

/-- Player 2 answers with the ids of the game, and the request does not fail. -/
theorem playCard2_atomic_ownGame :
    ∃ response, (server.out (server.run (World.initial migratedDeck) player1HasPlayed)
      ⟨.playCardPlayer2 ⟨some 1, some 2, some 1⟩, .same, .same⟩).response = .ok response := by
  refine (playCard2_atomic_iff migratedDeck player1HasPlayed _ _ rfl).2.1 1 2 1
    ⟨1, "player1", some "session1"⟩ ⟨2, "player2", some "session2"⟩ rfl
    ⟨⟨⟨1, some 1, some 2, none, .newGame⟩, ?_⟩, ?_, ?_⟩ <;> decide +kernel

/-- With the id of a player 1 who is not stored, the tie goes to a war without cards:
the request fails, and the card of player 2 is marked. -/
theorem playCard2_fails_halfway :
    let w := server.run (World.initial migratedDeck) player1HasPlayed
    let call : Call := ⟨.playCardPlayer2 ⟨some 3, some 2, some 1⟩, .same, .same⟩
    (server.out w call).response = .error .noSuchElementException ∧
      ((server.next w call).cards.filter (·.isPlayed)).map CardsEntity.cardId = [1, 27] ∧
      (w.cards.filter (·.isPlayed)).map CardsEntity.cardId = [1] := by
  decide +kernel

/-! ## Winners -/

/-- The player `declareWinner` chooses for piles of the given sizes. -/
def chosen (player1 player2 : PlayersEntity) (n1 n2 : ℕ) : Option PlayersEntity :=
  if n2 < n1 then some player1 else if n1 < n2 then some player2 else none

theorem winnerText_of_chosen {player1 player2 player : PlayersEntity} {n1 n2 : ℕ}
    (h : chosen player1 player2 n1 n2 = some player) :
    winnerText player1.username player2.username n1 n2 = player.username := by
  unfold chosen at h
  unfold winnerText
  split_ifs at h ⊢ <;> cases h <;> rfl

/-- The announced text is the tie, or the name of the chosen player. -/
theorem winnerText_cases (player1 player2 : PlayersEntity) (n1 n2 : ℕ) :
    winnerText player1.username player2.username n1 n2 = tieText ∨
      ∃ player, chosen player1 player2 n1 n2 = some player ∧
        winnerText player1.username player2.username n1 n2 = player.username := by
  rcases hchosen : chosen player1 player2 n1 n2 with _ | player
  · refine Or.inl ?_
    unfold chosen at hchosen
    unfold winnerText
    split_ifs at hchosen ⊢
    rfl
  · exact Or.inr ⟨player, rfl, winnerText_of_chosen hchosen⟩

/-- `declareWinner` chooses the player while the request is handled: in a war that
runs out of cards, with the piles as they were before the request, or after the last
card of player 2's hand, with the piles as the request leaves them. -/
inductive Declares (w : World) (call : Call) (player1Id player2Id gameId : ℤ)
    (player : PlayersEntity) : Prop where
  | war (r : Round) (player1 player2 : PlayersEntity)
      (haccepted : r.Accepted call.rows player1Id player2Id w)
      (hstored : Stored player1Id player2Id gameId player1 player2 w)
      (hout : r.ending.winner = none)
      (hchosen : chosen player1 player2 w.player1CapturedCards.length
        w.player2CapturedCards.length = some player)
  | lastCard (r : Round) (player1 player2 : PlayersEntity)
      (haccepted : r.Accepted call.rows player1Id player2Id w)
      (hstored : Stored player1Id player2Id gameId player1 player2 w)
      (hall : allCardsPlayed r.hand = true)
      (hchosen : chosen player1 player2 (server.next w call).player1CapturedCards.length
        (server.next w call).player2CapturedCards.length = some player)

/-- The player it chooses is one of the two. -/
theorem Declares.stored {w : World} {call : Call} {player1Id player2Id gameId : ℤ}
    {player : PlayersEntity} (h : Declares w call player1Id player2Id gameId player) :
    ∃ player1 player2, Stored player1Id player2Id gameId player1 player2 w ∧
      (player = player1 ∨ player = player2) := by
  have hone : ∀ {player1 player2 : PlayersEntity} {n1 n2 : ℕ},
      chosen player1 player2 n1 n2 = some player → player = player1 ∨ player = player2 := by
    intro player1 player2 n1 n2 hchosen
    unfold chosen at hchosen
    split_ifs at hchosen <;> cases hchosen <;> simp
  cases h with
  | war r player1 player2 haccepted hstored hout hchosen =>
      exact ⟨player1, player2, hstored, hone hchosen⟩
  | lastCard r player1 player2 haccepted hstored hall hchosen =>
      exact ⟨player1, player2, hstored, hone hchosen⟩

/-- The stored row of the game has the player as its winner. -/
def StoredWinner (w : World) (gameId : ℤ) (player : PlayersEntity) : Prop :=
  ∃ game, GameRepository.rowOf w.games gameId = some game ∧ game.winner = some player.playerId

theorem mem_winnerTexts {text : String} {ms : List Message} :
    text ∈ winnerTexts ms ↔ .gameWinner text ∈ ms := by
  unfold winnerTexts
  rw [List.mem_filterMap]
  constructor
  · rintro ⟨m, hm, htext⟩
    cases m with
    | gameWinner t =>
        cases htext
        exact hm
    | _ => cases htext
  · intro h
    exact ⟨_, h, rfl⟩

/-- What an accepted request with the rows stored announces. -/
theorem Round.Accepted.winnerTexts_sent {r : Round} {call : Call} {w : World}
    {player1Id player2Id gameId : ℤ} {player1 player2 : PlayersEntity}
    (hrequest : call.request = .playCardPlayer2 ⟨some player1Id, some player2Id, some gameId⟩)
    (h : r.Accepted call.rows player1Id player2Id w)
    (hstored : Stored player1Id player2Id gameId player1 player2 w) :
    winnerTexts (server.out w call).sent =
      (if r.ending.winner = none then [winnerText player1.username player2.username
        w.player1CapturedCards.length w.player2CapturedCards.length] else []) ++
      (if allCardsPlayed r.hand then [winnerText player1.username player2.username
        (server.next w call).player1CapturedCards.length
        (server.next w call).player2CapturedCards.length] else []) := by
  obtain ⟨response, v, heq, -, htexts⟩ := (quiet_iff.2 h).succeeds (hstored.same rfl rfl)
  have hnext : server.next w call = v := by rw [next_playCard2 hrequest, heq]
  have hsent : (server.out w call).sent = (server.next w call).sent := rfl
  rw [hsent, hnext]
  exact htexts

/-- A request that is not accepted with the rows stored announces nothing. -/
theorem winnerTexts_eq_nil {call : Call} {w : World} {request : PlayCardRequest}
    (hrequest : call.request = .playCardPlayer2 request)
    (hnot : ∀ player1Id player2Id gameId r player1 player2,
      request = ⟨some player1Id, some player2Id, some gameId⟩ →
      Round.Accepted r call.rows player1Id player2Id w →
      ¬ Stored player1Id player2Id gameId player1 player2 w) :
    winnerTexts (server.out w call).sent = [] := by
  show winnerTexts (server.next w call).sent = []
  rw [next_playCard2 hrequest]
  rcases playCard2_outcome call.rows request w.quiet with
    ⟨result, heq, -⟩ | ⟨_, _, _, card, _, -, -, -, heq⟩ |
    ⟨player1Id, player2Id, gameId, r, rfl, haccepted⟩
  · rw [heq]
    rfl
  · rw [heq]
    rfl
  rcases haccepted.stored_or_missing gameId with ⟨player1, player2, hstored⟩ | hmissing
  · exfalso
    exact hnot _ _ _ r player1 player2 rfl (Round.Accepted.quiet_iff.1 haccepted)
      (hstored.same rfl rfl)
  rcases hwinner : r.ending.winner with _ | side
  · obtain ⟨ms, hms, heq⟩ := haccepted.out_missing hwinner hmissing
    rw [heq]
    exact winnerTexts_war hms
  · obtain ⟨result, v, heq, -, htexts, -⟩ := haccepted.win_missing hwinner hmissing
    rw [heq]
    exact htexts

/-- **When the announced winner is the stored one.**  After any requests, a request
of player 2 announces nothing but ties and the players `declareWinner` chooses, and
all of these.  Such a player is the stored winner of the game afterwards exactly if
it was so before, since no play writes the row; a leave by one of two players does
store the other one. -/
theorem announced_winner_stored_iff (deck : Deck) (calls : List Call) (call : Call)
    (player1Id player2Id gameId : ℤ)
    (hrequest : call.request = .playCardPlayer2 ⟨some player1Id, some player2Id, some gameId⟩) :
    let w := server.run (World.initial deck) calls
    (∀ text, .gameWinner text ∈ (server.out w call).sent → text = tieText ∨
      ∃ player, Declares w call player1Id player2Id gameId player ∧ text = player.username) ∧
    (∀ player, Declares w call player1Id player2Id gameId player →
      .gameWinner player.username ∈ (server.out w call).sent ∧
      (StoredWinner (server.next w call) gameId player ↔ StoredWinner w gameId player)) ∧
    ∀ (leave : Call) (session : Option String) (game : GameEntity) (leaver player : PlayersEntity),
      leave.request = .leaveGame ⟨some gameId, session⟩ →
      GameRepository.rowOf w.games gameId = some game →
      sessionLookup w.players session = .ok (some leaver) →
      (game.player1 = some leaver.playerId ∧ game.player2 = some player.playerId) ∨
        (game.player2 = some leaver.playerId ∧ game.player1 = some player.playerId) →
      StoredWinner (server.next w leave) gameId player := by
  intro w
  have htables : Tables w := tables_run deck calls
  refine ⟨fun text htext => ?_, fun player hdeclares => ⟨?_, ?_⟩, ?_⟩
  · rw [← mem_winnerTexts] at htext
    by_cases haccepted : ∃ r player1 player2, Round.Accepted r call.rows player1Id player2Id w ∧
        Stored player1Id player2Id gameId player1 player2 w
    · obtain ⟨r, player1, player2, haccepted, hstored⟩ := haccepted
      rw [haccepted.winnerTexts_sent hrequest hstored, List.mem_append, List.mem_ite_nil_right,
        List.mem_ite_nil_right, List.mem_singleton, List.mem_singleton] at htext
      rcases htext with ⟨hout, rfl⟩ | ⟨hall, rfl⟩
      · rcases winnerText_cases player1 player2 w.player1CapturedCards.length
          w.player2CapturedCards.length with htie | ⟨player, hchosen, hname⟩
        · exact Or.inl htie
        · exact Or.inr ⟨player, .war r player1 player2 haccepted hstored hout hchosen, hname⟩
      · rcases winnerText_cases player1 player2 (server.next w call).player1CapturedCards.length
          (server.next w call).player2CapturedCards.length with htie | ⟨player, hchosen, hname⟩
        · exact Or.inl htie
        · exact Or.inr ⟨player, .lastCard r player1 player2 haccepted hstored hall hchosen, hname⟩
    · rw [winnerTexts_eq_nil hrequest] at htext
      · exact absurd htext List.not_mem_nil
      · rintro _ _ _ r player1 player2 ⟨⟩ hr hstored
        exact haccepted ⟨r, player1, player2, hr, hstored⟩
  · rw [← mem_winnerTexts]
    cases hdeclares with
    | war r player1 player2 haccepted hstored hout hchosen =>
        rw [haccepted.winnerTexts_sent hrequest hstored, if_pos hout, winnerText_of_chosen hchosen]
        simp
    | lastCard r player1 player2 haccepted hstored hall hchosen =>
        rw [haccepted.winnerTexts_sent hrequest hstored, if_pos hall, winnerText_of_chosen hchosen]
        simp
  · have hgames := ((step_next w call).rows_of_isPlay (by rw [hrequest]; rfl)).2
    rw [StoredWinner, hgames]
    rfl
  · intro leave session game leaver player hleave hgame hleaver hseats
    exact htables.leave_stores_winner hleave hgame hleaver hseats

/-- A shuffle that swaps the first card with the third one. -/
def swapped : CardOrder where
  apply
    | a :: b :: c :: rest => c :: b :: a :: rest
    | cards => cards
  perm
    | a :: b :: c :: rest => (List.reverse_perm [a, b, c]).append_right rest
    | [] => List.Perm.refl _
    | [_] => List.Perm.refl _
    | [_, _] => List.Perm.refl _

/-- Player 2 has taken the first pair, and player 1 has put down the second card: the
war it leads to goes on until the hands are empty. -/
def beforeTheLastWar : List Call :=
  [⟨.createGameAndPlayer ⟨some "player1", some "session1"⟩, .same, .same⟩,
    ⟨.joinGame ⟨some 1, some "player2", some "session2"⟩, .same, .same⟩,
    ⟨.dealCardsPlayer1 (some "session1"), .same, .same⟩,
    ⟨.dealCardsPlayer2 (some "session2"), .same, swapped⟩,
    ⟨.playCardPlayer1 1, .same, .same⟩,
    ⟨.playCardPlayer2 ⟨some 1, some 2, some 1⟩, .same, .same⟩,
    ⟨.playCardPlayer1 1, .same, .same⟩]

/-- Player 1 has left game 1, which stores player 2 as its winner.  Player 3 creates
another game and plays against player 2, who names game 1 in the requests. -/
def afterALeave : List Call :=
  [⟨.createGameAndPlayer ⟨some "player1", some "session1"⟩, .same, .same⟩,
    ⟨.joinGame ⟨some 1, some "player2", some "session2"⟩, .same, .same⟩,
    ⟨.leaveGame ⟨some 1, some "session1"⟩, .same, .same⟩,
    ⟨.createGameAndPlayer ⟨some "player3", some "session3"⟩, .same, .same⟩,
    ⟨.dealCardsPlayer1 (some "session3"), .same, .same⟩,
    ⟨.dealCardsPlayer2 (some "session2"), .same, swapped⟩,
    ⟨.playCardPlayer1 3, .same, .same⟩,
    ⟨.playCardPlayer2 ⟨some 3, some 2, some 1⟩, .same, .same⟩,
    ⟨.playCardPlayer1 3, .same, .same⟩]

/-- The announcement of player 2 is a choice of `declareWinner`, and player 2 is the
stored winner of the game, before and after. -/
theorem announced_winner_afterALeave :
    let w := server.run (World.initial migratedDeck) afterALeave
    let call : Call := ⟨.playCardPlayer2 ⟨some 3, some 2, some 1⟩, .same, .same⟩
    ∃ player, Declares w call 3 2 1 player ∧ player.username = "player2" ∧
      StoredWinner w 1 player ∧ StoredWinner (server.next w call) 1 player := by
  intro w call
  have h := announced_winner_stored_iff migratedDeck afterALeave call 3 2 1 rfl
  have hsent : .gameWinner "player2" ∈ (server.out w call).sent := by decide +kernel
  rcases h.1 "player2" hsent with htie | ⟨player, hdeclares, hname⟩
  · exact absurd htie (by decide)
  have h1 : PlayerRepository.rowOf w.players 3 = some ⟨3, "player3", some "session3"⟩ := by
    decide +kernel
  have h2 : PlayerRepository.rowOf w.players 2 = some ⟨2, "player2", some "session2"⟩ := by
    decide +kernel
  have hgame : GameRepository.rowOf w.games 1 = some ⟨1, none, some 2, some 2, .gameEnded⟩ := by
    decide +kernel
  obtain ⟨player1, player2, hstored, hplayer⟩ := hdeclares.stored
  cases h1.symm.trans hstored.player1
  cases h2.symm.trans hstored.player2
  rcases hplayer with rfl | rfl
  · exact absurd hname (by decide)
  · have hwinner : StoredWinner w 1 ⟨2, "player2", some "session2"⟩ := ⟨_, hgame, rfl⟩
    exact ⟨_, hdeclares, rfl, hwinner, (h.2.1 _ hdeclares).2.2 hwinner⟩

/-- Player 2 is announced as the winner, and the stored game has none. -/
theorem announced_winner_not_stored :
    let w := server.run (World.initial migratedDeck) beforeTheLastWar
    let call : Call := ⟨.playCardPlayer2 ⟨some 1, some 2, some 1⟩, .same, .same⟩
    .gameWinner "player2" ∈ (server.out w call).sent ∧
      w.player1CapturedCards.length < w.player2CapturedCards.length ∧
      (server.next w call).games = [⟨1, some 1, some 2, none, .newGame⟩] := by
  decide +kernel

end WarCardGame
