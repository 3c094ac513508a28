import WarCardGame.Lib.War
import WarCardGame.Server.Step

/-!
# Plays as the server sees them

What `/cards/playCardPlayer1Test` and `/cards/playCardPlayer2Test` do when the
rows they name are stored.

* `gameRound_ok` — with the three rows stored and a card of each player on the
  table a round never throws.
* `playCard1_step` — player 1's request is refused and changes nothing, or it
  puts down the next card.
* `playCard2_step` — the same for player 2, whose card starts a round that is
  brought to its end.
* `playCard1_answered`, `playCard2_answered` — neither ends in an exception.
* `Step.rows_of_isPlay` — whatever rows are stored, a play leaves players and games as they
  are.
-/

namespace WarCardGame

open Lib
open Lib.War (Side)

/-- The three rows a round reads are stored. -/
structure Stored (player1Id player2Id gameId : ℤ) (player1 player2 : PlayersEntity) (w : World) :
    Prop where
  game : ∃ game, GameRepository.rowOf w.games gameId = some game
  player1 : PlayerRepository.rowOf w.players player1Id = some player1
  player2 : PlayerRepository.rowOf w.players player2Id = some player2

namespace Stored

variable {player1Id player2Id gameId : ℤ} {player1 player2 : PlayersEntity} {w w' : World}

theorem same (h : Stored player1Id player2Id gameId player1 player2 w)
    (hgames : w'.games = w.games) (hplayers : w'.players = w.players) :
    Stored player1Id player2Id gameId player1 player2 w' :=
  ⟨by rw [hgames]; exact h.game, by rw [hplayers]; exact h.player1,
    by rw [hplayers]; exact h.player2⟩

theorem frame (h : Stored player1Id player2Id gameId player1 player2 w) (hframe : RoundFrame w w') :
    Stored player1Id player2Id gameId player1 player2 w' :=
  h.same hframe.games hframe.players

theorem declareWinnerAndAddWarCards_eq (h : Stored player1Id player2Id gameId player1 player2 w)
    (warCards : List CardsEntity) :
    declareWinnerAndAddWarCards gameId player1Id player2Id warCards w =
      (.ok (),
        let winner := winnerText player1.username player2.username
          w.player1CapturedCards.length w.player2CapturedCards.length
        (w.award player1.username player2.username winner warCards).send
          [.gameWar warText, .gameWinner winner]) := by
  obtain ⟨game, hgame⟩ := h.game
  exact declareWinnerAndAddWarCards_apply hgame h.player1 h.player2 warCards

theorem finishRound_eq (h : Stored player1Id player2Id gameId player1 player2 w)
    (hand : List CardsEntity) :
    finishRound player1Id player2Id gameId hand w =
      (.ok (), w.turnBack.send (if allCardsPlayed hand then
        [.gameWinner (winnerText player1.username player2.username w.player1CapturedCards.length
          w.player2CapturedCards.length)] else [])) := by
  obtain ⟨game, hgame⟩ := h.game
  rcases finishRound_cases player1Id player2Id gameId hand w with
    ⟨hall, hfinish⟩ | ⟨game', p1, p2, hall, -, h1, h2, hfinish⟩ | ⟨-, hmissing, -⟩
  · rw [hfinish, hall]
    simp [World.send]
  · cases h1.symm.trans h.player1
    cases h2.symm.trans h.player2
    rw [hfinish, hall, if_pos rfl]
  · rw [hgame, h.player1, h.player2] at hmissing
    simp at hmissing

end Stored

/-- With the three rows stored a war never throws. -/
theorem war_ok (rows : CardOrder) {player1Id player2Id gameId : ℤ}
    {player1 player2 : PlayersEntity} {w : World}
    (h : Stored player1Id player2Id gameId player1 player2 w) :
    (war rows player1Id player2Id gameId w).1 = .ok () := by
  refine war_induction rows player1Id player2Id
    (motive := fun w => Stored player1Id player2Id gameId player1 player2 w →
      (war rows player1Id player2Id gameId w).1 = .ok ()) ?_ w h
  clear h w
  intro w ih h
  rcases war_cases rows player1Id player2Id gameId w with
    ⟨cs, w', hdraw, hwar⟩ | ⟨cs, w', hdraw, hwar⟩ | ⟨cs, a, b, w', hdraw, -, hwar⟩ |
    ⟨cs, a, b, w', hdraw, -, hwar⟩ | ⟨cs, a, b, w', hdraw, -, hwar⟩ <;>
    have hstored := h.frame (RoundFrame.drawWarCards rows player1Id player2Id 3 hdraw) <;> rw [hwar]
  · rw [Handler.bind_ok (hstored.declareWinnerAndAddWarCards_eq cs)]
    rfl
  · rw [hstored.declareWinnerAndAddWarCards_eq cs]
  · exact ih _ _ hdraw (hstored.frame (RoundFrame.send w' _))

/-- With the three rows stored and both cards on the table a round never
throws. -/
theorem gameRound_ok (rows : CardOrder) {player1Id player2Id gameId : ℤ}
    {player1 player2 : PlayersEntity} {w : World}
    (h : Stored player1Id player2Id gameId player1 player2 w) (h1 : w.playedCard1 ≠ none)
    (h2 : w.playedCard2 ≠ none) : (gameRound rows player1Id player2Id gameId w).1 = .ok () := by
  rcases gameRound_cases rows player1Id player2Id gameId w with
    ⟨hnull, -⟩ | ⟨c1, c2, -, -, -, hround⟩ | ⟨c1, c2, -, -, -, hround⟩ | ⟨c1, c2, -, -, -, hround⟩
  · rcases hnull with hnull | hnull
    · exact absurd hnull h1
    · exact absurd hnull h2
  · rw [hround]
  · rw [hround]
  · rw [hround]
    exact war_ok rows (h.frame (RoundFrame.send w _))

/-! ## Accepted plays -/

/-- A card that was accepted from a side. -/
structure Play where
  side : Side
  card : CardsEntity
  deriving DecidableEq, Repr

/-- The play a request made, if it was accepted: a play request answered with a
card. -/
def acceptedPlay (call : Call) (outcome : Outcome) : Option Play :=
  match call.request, outcome.response with
  | .playCardPlayer1 _, .ok (.playCard (some response)) => response.card.map (Play.mk .player1)
  | .playCardPlayer2 _, .ok (.playCard (some response)) => response.card.map (Play.mk .player2)
  | _, _ => none

/-- An accepted play was answered. -/
theorem isOk_of_acceptedPlay {call : Call} {outcome : Outcome} {play : Play}
    (h : acceptedPlay call outcome = some play) : outcome.response.isOk = true := by
  unfold acceptedPlay at h
  split at h
  · rename_i hresponse
    rw [hresponse]
    rfl
  · rename_i hresponse
    rw [hresponse]
    rfl
  · cases h

/-- A request that plays a card. -/
def Request.isPlay : Request → Bool
  | .playCardPlayer1 _ => true
  | .playCardPlayer2 _ => true
  | _ => false

/-- No play touches the players or the games. -/
theorem Step.rows_of_isPlay {w w' : World} {call : Call} (hstep : Step w call w')
    (hplay : call.request.isPlay = true) : w'.players = w.players ∧ w'.games = w.games := by
  cases hstep with
  | unchanged ms => exact ⟨rfl, rfl⟩
  | play1 playerId c => exact ⟨rfl, rfl⟩
  | roundFailed player1Id player2Id gameId c e _ _ _ _ _ _ hround =>
      have hframe := RoundFrame.of_gameRound hround
      exact ⟨hframe.players, hframe.games⟩
  | round player1Id player2Id gameId c v ms _ _ _ _ _ hround =>
      have hframe := RoundFrame.of_gameRound hround
      exact ⟨hframe.players, hframe.games⟩
  | deal session player hand hrequest =>
      rcases hrequest with hrequest | hrequest <;> simp [hrequest, Request.isPlay] at hplay
  | create request name session hrequest => simp [hrequest, Request.isPlay] at hplay
  | joinFull request gameId name session game hrequest =>
      simp [hrequest, Request.isPlay] at hplay
  | join request gameId name session game hrequest => simp [hrequest, Request.isPlay] at hplay
  | leaveRefused gameId session game player ms hrequest =>
      simp [hrequest, Request.isPlay] at hplay
  | leave gameId session game player ms hrequest => simp [hrequest, Request.isPlay] at hplay

theorem players_run_of_isPlay {w : World} {calls : List Call}
    (hplays : ∀ call ∈ calls, call.request.isPlay = true) :
    (server.run w calls).players = w.players := by
  induction calls generalizing w with
  | nil => rfl
  | cons call calls ih =>
      have hcall := List.forall_mem_cons.1 hplays
      rw [Machine.run_cons, ih hcall.2]
      exact ((step_next w call).rows_of_isPlay hcall.1).1

/-- **A request of player 1** is refused without a trace, or puts down the next
card. -/
theorem playCard1_step {call : Call} {playerId : ℤ}
    (hrequest : call.request = .playCardPlayer1 playerId) {w : World} {player1 : PlayersEntity}
    (hplayer1 : PlayerRepository.rowOf w.players playerId = some player1) :
    ((w.player1Turn = false ∨
        playFirst (CardsRepository.cardsOf call.rows playerId w.cards) = none) ∧
      server.next w call = w.quiet ∧ acceptedPlay call (server.out w call) = none ∧
      (server.out w call).response.isOk = true) ∨
    ∃ card hand, w.player1Turn = true ∧
      playFirst (CardsRepository.cardsOf call.rows playerId w.cards) = some (card, hand) ∧
      server.next w call = w.quiet.putDown1 card ∧
      acceptedPlay call (server.out w call) = some ⟨.player1, card⟩ := by
  have hrow : PlayerRepository.rowOf w.quiet.players playerId = some player1 := hplayer1
  simp only [next_playCard1 hrequest, acceptedPlay, hrequest, response_playCard1 hrequest,
    playCard1_apply, hrow]
  rw [show w.quiet.player1Turn = w.player1Turn from rfl,
    show w.quiet.cards = w.cards from rfl]
  cases hturn : w.player1Turn with
  | false => exact Or.inl ⟨Or.inl rfl, rfl, rfl, rfl⟩
  | true =>
      rcases hplay : playFirst (CardsRepository.cardsOf call.rows playerId w.cards) with
        _ | ⟨card, hand⟩
      · exact Or.inl ⟨Or.inr rfl, rfl, rfl, rfl⟩
      · exact Or.inr ⟨card, hand, rfl, rfl, rfl, rfl⟩

/-- **A request of player 2** is refused without a trace, or puts down the next
card, plays the round and gives the turn back. -/
theorem playCard2_step {call : Call} {player1Id player2Id gameId : ℤ}
    (hrequest : call.request = .playCardPlayer2 ⟨some player1Id, some player2Id, some gameId⟩)
    {w : World} {player1 player2 : PlayersEntity}
    (hstored : Stored player1Id player2Id gameId player1 player2 w)
    (hcard1 : w.player2Turn = true → w.playedCard1 ≠ none) :
    ((w.player2Turn = false ∨
        playFirst (CardsRepository.cardsOf call.rows player2Id w.cards) = none) ∧
      server.next w call = w.quiet ∧ acceptedPlay call (server.out w call) = none ∧
      (server.out w call).response.isOk = true) ∨
    ∃ card hand w', w.player2Turn = true ∧
      playFirst (CardsRepository.cardsOf call.rows player2Id w.cards) = some (card, hand) ∧
      gameRound call.rows player1Id player2Id gameId (w.quiet.putDown2 card) = (.ok (), w') ∧
      server.next w call = w'.turnBack.send (if allCardsPlayed hand then
        [.gameWinner (winnerText player1.username player2.username w'.player1CapturedCards.length
          w'.player2CapturedCards.length)] else []) ∧
      acceptedPlay call (server.out w call) = some ⟨.player2, card⟩ := by
  have hrow : PlayerRepository.rowOf w.quiet.players player2Id = some player2 := hstored.player2
  simp only [next_playCard2 hrequest, acceptedPlay, hrequest, response_playCard2 hrequest,
    playCard2_apply, hrow]
  rw [show w.quiet.player2Turn = w.player2Turn from rfl,
    show w.quiet.cards = w.cards from rfl]
  cases hturn : w.player2Turn with
  | false => exact Or.inl ⟨Or.inl rfl, rfl, rfl, rfl⟩
  | true =>
      simp only [if_true]
      rcases hplay : playFirst (CardsRepository.cardsOf call.rows player2Id w.cards) with
        _ | ⟨card, hand⟩
      · exact Or.inl ⟨Or.inr rfl, rfl, rfl, rfl⟩
      refine Or.inr ?_
      have hdown : Stored player1Id player2Id gameId player1 player2 (w.quiet.putDown2 card) :=
        hstored.same rfl rfl
      have hok := gameRound_ok call.rows hdown (hcard1 hturn) (Option.some_ne_none card)
      have hframe := gameRound_frame call.rows player1Id player2Id gameId (w.quiet.putDown2 card)
      rcases hround : gameRound call.rows player1Id player2Id gameId (w.quiet.putDown2 card) with
        ⟨e | u, w'⟩
      · rw [hround] at hok
        cases hok
      rw [hround] at hframe
      simp only
      rw [Handler.bind_ok hround, Handler.bind_ok ((hdown.frame hframe).finishRound_eq hand)]
      exact ⟨card, hand, w', trivial, rfl, hround, rfl, rfl⟩

/-- A request of player 1 whose row is stored is answered. -/
theorem playCard1_answered {call : Call} {playerId : ℤ}
    (hrequest : call.request = .playCardPlayer1 playerId) {w : World} {player1 : PlayersEntity}
    (hplayer1 : PlayerRepository.rowOf w.players playerId = some player1) :
    (server.out w call).response.isOk = true := by
  rcases playCard1_step hrequest hplayer1 with
    ⟨-, -, -, hanswered⟩ | ⟨card, hand, -, -, -, haccepted⟩
  · exact hanswered
  · exact isOk_of_acceptedPlay haccepted

/-- A request of player 2 whose rows are stored is answered. -/
theorem playCard2_answered {call : Call} {player1Id player2Id gameId : ℤ}
    (hrequest : call.request = .playCardPlayer2 ⟨some player1Id, some player2Id, some gameId⟩)
    {w : World} {player1 player2 : PlayersEntity}
    (hstored : Stored player1Id player2Id gameId player1 player2 w)
    (hcard1 : w.player2Turn = true → w.playedCard1 ≠ none) :
    (server.out w call).response.isOk = true := by
  rcases playCard2_step hrequest hstored hcard1 with
    ⟨-, -, -, hanswered⟩ | ⟨card, hand, w', -, -, -, -, haccepted⟩
  · exact hanswered
  · exact isOk_of_acceptedPlay haccepted

end WarCardGame
