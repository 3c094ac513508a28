import WarCardGame.Service.Requests

/-!
# The steps of the server

`Step w call w'` lists everything a request can do to the state, with what is
known where it does it.  `step_next` says that the list is complete, so an
invariant of the server is proved by one case analysis over `Step` and never by
unfolding a handler.

* `finishRound_cases` — how `playCard2` ends after its round.
* `leaveGame_state` — what `/games/leave` leaves behind.
* `Step`, `step_handle`, `step_next` — the inversion of a request.
* `next_…`, `response_…` — the state and the answer of the server, for each
  request.
-/

namespace WarCardGame

open Lib

/-! ## The end of a round -/

/-- The state after the turn went back to player 1. -/
def World.turnBack (w : World) : World := { w with player2Turn := false, player1Turn := true }

/-- **How `playCard2` ends.**  The turn goes back in every case; the winner is
announced if the hand is all played and the three rows are stored. -/
theorem finishRound_cases (player1Id player2Id gameId : ℤ) (hand : List CardsEntity) (w : World) :
    (allCardsPlayed hand = false ∧
      finishRound player1Id player2Id gameId hand w = (.ok (), w.turnBack)) ∨
    (∃ game player1 player2, allCardsPlayed hand = true ∧
      GameRepository.rowOf w.games gameId = some game ∧
      PlayerRepository.rowOf w.players player1Id = some player1 ∧
      PlayerRepository.rowOf w.players player2Id = some player2 ∧
      finishRound player1Id player2Id gameId hand w =
        (.ok (), w.turnBack.send [.gameWinner (winnerText player1.username player2.username
          w.player1CapturedCards.length w.player2CapturedCards.length)])) ∨
    (allCardsPlayed hand = true ∧
      (GameRepository.rowOf w.games gameId = none ∨
        PlayerRepository.rowOf w.players player1Id = none ∨
        PlayerRepository.rowOf w.players player2Id = none) ∧
      finishRound player1Id player2Id gameId hand w =
        (.error .noSuchElementException, w.turnBack)) := by
  have hturn : Handler.modify
      (fun w : World => { w with player2Turn := false, player1Turn := true }) w =
        ((.ok (), w.turnBack) : Except Failure Unit × World) := rfl
  unfold finishRound
  rw [Handler.bind_ok hturn]
  cases hall : allCardsPlayed hand with
  | false => exact Or.inl ⟨rfl, rfl⟩
  | true =>
      rw [Handler.when_true]
      refine Or.inr ?_
      rcases rows_stored_or_missing gameId player1Id player2Id w with
        ⟨game, player1, player2, hg, h1, h2⟩ | hmissing
      · have hwinner := declareWinner_apply (w := w.turnBack) hg h1 h2
        rw [Handler.bind_ok hwinner]
        exact Or.inl ⟨game, player1, player2, rfl, hg, h1, h2, rfl⟩
      · have hwinner := declareWinner_missing (w := w.turnBack) hmissing
        rw [Handler.bind_error hwinner]
        exact Or.inr ⟨rfl, hmissing, rfl⟩

theorem finishRound_state (player1Id player2Id gameId : ℤ) (hand : List CardsEntity) (w : World) :
    ∃ ms, (finishRound player1Id player2Id gameId hand w).2 = w.turnBack.send ms := by
  have hnil : w.turnBack = w.turnBack.send [] := by simp [World.send]
  rcases finishRound_cases player1Id player2Id gameId hand w with
    ⟨-, h⟩ | ⟨game, player1, player2, -, -, -, -, h⟩ | ⟨-, -, h⟩
  · exact ⟨[], by rw [h]; exact hnil⟩
  · exact ⟨_, by rw [h]⟩
  · exact ⟨[], by rw [h]; exact hnil⟩

/-! ## Leaving -/

/-- `/games/leave` sends at most a message after the service is done. -/
theorem leaveGame_state (rows shuffle : CardOrder) (request : LeaveGameRequest) (w : World) :
    ∃ ms, (GameController.leaveGame rows shuffle request w).2 =
      (GameService.leaveGame rows shuffle request w).2.send ms := by
  have hnil : ∀ w : World, w = w.send [] := by
    intro w
    simp [World.send]
  unfold GameController.leaveGame
  rw [Handler.bind_apply]
  rcases GameService.leaveGame rows shuffle request w with ⟨e | u, w'⟩
  · exact ⟨[], hnil w'⟩
  · obtain ⟨_ | gameId, session⟩ := request
    · exact ⟨[], hnil w'⟩
    · have hfind : GameRepository.findById (some gameId) w' =
          (.ok (GameRepository.rowOf w'.games gameId), w') := rfl
      simp only
      rw [Handler.bind_ok hfind, Handler.bind_ok (Handler.get_apply w')]
      cases GameRepository.rowOf w'.games gameId with
      | none => exact ⟨[], hnil w'⟩
      | some game => exact ⟨_, rfl⟩

/-- When the service is done without an exception, so is the request. -/
theorem leaveGame_ok {rows shuffle : CardOrder} {gameId : ℤ} {session : Option String} {w : World}
    (h : (GameService.leaveGame rows shuffle ⟨some gameId, session⟩ w).1 = .ok ()) :
    (GameController.leaveGame rows shuffle ⟨some gameId, session⟩ w).1 = .ok () := by
  unfold GameController.leaveGame
  rw [Handler.bind_apply]
  rcases hrun : GameService.leaveGame rows shuffle ⟨some gameId, session⟩ w with ⟨e | u, w'⟩
  · rw [hrun] at h
    cases h
  · have hfind : GameRepository.findById (some gameId) w' =
        (.ok (GameRepository.rowOf w'.games gameId), w') := rfl
    simp only
    rw [Handler.bind_ok hfind, Handler.bind_ok (Handler.get_apply w')]
    cases GameRepository.rowOf w'.games gameId with
    | none => rfl
    | some game => rfl

/-! ## The steps -/

/-- What a request can do to the state. -/
inductive Step (w : World) (call : Call) : World → Prop where
  /-- The request is refused, or fails before it has written anything. -/
  | unchanged (ms : List Message) : Step w call (w.send ms)
  /-- A player and a game are created. -/
  | create (request : CreateGameRequest) (name : String) (session : Option String)
      (hrequest : call.request = .createGameAndPlayer request)
      (hcolumns : PlayerRepository.columns request.username request.sessionId =
        some (name, session)) :
      Step w call ((w.addPlayer name session).addGame w.nextPlayerId)
  /-- A player is created, and finds no seat. -/
  | joinFull (request : JoinGameRequest) (gameId : ℤ) (name : String)
      (session : Option String) (game : GameEntity) (hrequest : call.request = .joinGame request)
      (hid : request.gameId = some gameId)
      (hcolumns : PlayerRepository.columns request.username request.sessionId =
        some (name, session))
      (hgame : GameRepository.rowOf w.games gameId = some game)
      (hfull : ¬ (game.player1 ≠ none ∧ game.player2 = none)) :
      Step w call (w.addPlayer name session)
  /-- A player is created and seated. -/
  | join (request : JoinGameRequest) (gameId : ℤ) (name : String)
      (session : Option String) (game : GameEntity) (hrequest : call.request = .joinGame request)
      (hid : request.gameId = some gameId)
      (hcolumns : PlayerRepository.columns request.username request.sessionId =
        some (name, session))
      (hgame : GameRepository.rowOf w.games gameId = some game)
      (hplayer1 : game.player1 ≠ none) (hplayer2 : game.player2 = none) :
      Step w call ((w.addPlayer name session).seat game w.nextPlayerId)
  /-- Some of the cards are dealt to the player with the session. -/
  | deal (session : Option String) (player : Option PlayersEntity) (hand : List CardsEntity)
      (hrequest : call.request = .dealCardsPlayer1 session ∨
        call.request = .dealCardsPlayer2 session)
      (hplayer : sessionLookup w.players session = .ok player) (hhand : hand ⊆ w.cards) :
      Step w call (w.dealtTo (player.map (·.playerId)) hand)
  /-- Player 1 puts down a card. -/
  | play1 (playerId : ℤ) (c : CardsEntity) (hrequest : call.request = .playCardPlayer1 playerId)
      (hc : c ∈ w.cards) (howner : c.players = some playerId) (hunplayed : c.isPlayed = false)
      (hturn : w.player1Turn = true) : Step w call (w.putDown1 c.setPlayed)
  /-- Player 2 puts down a card, and the round throws. -/
  | roundFailed (player1Id player2Id gameId : ℤ) (c : CardsEntity) (e : Failure) (w' : World)
      (hrequest : call.request = .playCardPlayer2 ⟨some player1Id, some player2Id, some gameId⟩)
      (hc : c ∈ w.cards) (howner : c.players = some player2Id) (hunplayed : c.isPlayed = false)
      (hturn : w.player2Turn = true)
      (hround : gameRound call.rows player1Id player2Id gameId (w.putDown2 c.setPlayed) =
        (.error e, w')) : Step w call w'
  /-- Player 2 puts down a card, the round is resolved and the turn goes back. -/
  | round (player1Id player2Id gameId : ℤ) (c : CardsEntity) (w' : World) (ms : List Message)
      (hrequest : call.request = .playCardPlayer2 ⟨some player1Id, some player2Id, some gameId⟩)
      (hc : c ∈ w.cards) (howner : c.players = some player2Id) (hunplayed : c.isPlayed = false)
      (hturn : w.player2Turn = true)
      (hround : gameRound call.rows player1Id player2Id gameId (w.putDown2 c.setPlayed) =
        (.ok (), w')) : Step w call (w'.turnBack.send ms)
  /-- A player's seat is emptied and the game closed, but a foreign key refuses
  the delete of the player. -/
  | leaveRefused (gameId : ℤ) (session : Option String) (game : GameEntity)
      (player : PlayersEntity) (ms : List Message)
      (hrequest : call.request = .leaveGame ⟨some gameId, session⟩)
      (hgame : GameRepository.rowOf w.games gameId = some game)
      (hplayer : sessionLookup w.players session = .ok (some player))
      (hreferenced : PlayerRepository.referenced
        ((vacated call.rows call.shuffle player game w).2.closeGame
          (vacated call.rows call.shuffle player game w).1) player.playerId = true) :
      Step w call (((vacated call.rows call.shuffle player game w).2.closeGame
        (vacated call.rows call.shuffle player game w).1).send ms)
  /-- A player leaves. -/
  | leave (gameId : ℤ) (session : Option String) (game : GameEntity) (player : PlayersEntity)
      (ms : List Message) (hrequest : call.request = .leaveGame ⟨some gameId, session⟩)
      (hgame : GameRepository.rowOf w.games gameId = some game)
      (hplayer : sessionLookup w.players session = .ok (some player))
      (hreferenced : PlayerRepository.referenced
        ((vacated call.rows call.shuffle player game w).2.closeGame
          (vacated call.rows call.shuffle player game w).1) player.playerId = false) :
      Step w call ((((vacated call.rows call.shuffle player game w).2.closeGame
        (vacated call.rows call.shuffle player game w).1).dropPlayer player).reset.send ms)

theorem Step.same (w : World) (call : Call) : Step w call w := by
  have h : Step w call (w.send []) := Step.unchanged []
  simpa [World.send] using h

/-- The card a loop over a hand plays is an unplayed row of the player. -/
theorem mem_of_playFirst {rows : CardOrder} {playerId : ℤ} {cards hand : List CardsEntity}
    {card : CardsEntity}
    (h : playFirst (CardsRepository.cardsOf rows playerId cards) = some (card, hand)) :
    ∃ c ∈ cards, c.players = some playerId ∧ c.isPlayed = false ∧ card = c.setPlayed := by
  obtain ⟨before, c, after, hhand, -, hc, hcard, -⟩ := playFirst_eq_some h
  have hmem : c ∈ CardsRepository.cardsOf rows playerId cards := by rw [hhand]; simp
  obtain ⟨hcards, howner⟩ := CardsRepository.mem_cardsOf.1 hmem
  exact ⟨c, hcards, howner, hc, hcard⟩

theorem step_playCard1 {w : World} {call : Call} {playerId : ℤ}
    (hrequest : call.request = .playCardPlayer1 playerId) :
    Step w call (playCard1 call.rows playerId w).2 := by
  rw [playCard1_apply]
  cases PlayerRepository.rowOf w.players playerId with
  | none => exact Step.same w call
  | some player1 =>
      cases hturn : w.player1Turn with
      | false => exact Step.same w call
      | true =>
          simp only [if_true]
          rcases hplay : playFirst (CardsRepository.cardsOf call.rows playerId w.cards) with
            _ | ⟨card, hand⟩
          · exact Step.same w call
          · obtain ⟨c, hc, howner, hunplayed, rfl⟩ := mem_of_playFirst hplay
            exact Step.play1 playerId c hrequest hc howner hunplayed hturn

theorem step_playCard2 {w : World} {call : Call} {request : PlayCardRequest}
    (hrequest : call.request = .playCardPlayer2 request) :
    Step w call (playCard2 call.rows request w).2 := by
  by_cases hnull : request.player1Id = none ∨ request.player2Id = none ∨ request.gameId = none
  · rw [playCard2_null call.rows w hnull]
    exact Step.same w call
  obtain ⟨_ | player1Id, _ | player2Id, _ | gameId⟩ := request
  all_goals try simp at hnull
  rw [playCard2_apply]
  cases PlayerRepository.rowOf w.players player2Id with
  | none => exact Step.same w call
  | some player2 =>
      cases hturn : w.player2Turn with
      | false => exact Step.same w call
      | true =>
          simp only [if_true]
          rcases hplay : playFirst (CardsRepository.cardsOf call.rows player2Id w.cards) with
            _ | ⟨card, hand⟩
          · exact Step.same w call
          obtain ⟨c, hc, howner, hunplayed, rfl⟩ := mem_of_playFirst hplay
          simp only
          rcases hround : gameRound call.rows player1Id player2Id gameId
              (w.putDown2 c.setPlayed) with ⟨e | u, w'⟩
          · rw [Handler.bind_error hround]
            exact Step.roundFailed player1Id player2Id gameId c e w' hrequest hc howner hunplayed
              hturn hround
          · rw [Handler.bind_ok hround, Handler.bind_pure_state]
            obtain ⟨ms, hfinish⟩ := finishRound_state player1Id player2Id gameId hand w'
            rw [hfinish]
            exact Step.round player1Id player2Id gameId c w' ms hrequest hc howner hunplayed hturn
              hround

theorem step_leaveGame {w : World} {call : Call} {request : LeaveGameRequest}
    (hrequest : call.request = .leaveGame request) :
    Step w call (GameController.leaveGame call.rows call.shuffle request w).2 := by
  obtain ⟨ms, hstate⟩ := leaveGame_state call.rows call.shuffle request w
  rw [hstate]
  rcases leaveGame_cases call.rows call.shuffle request w with
    ⟨e, h, -⟩ | ⟨gameId, -, -, h⟩ | ⟨gameId, game, player, hid, hgame, hplayer, h⟩
  · rw [h]
    exact Step.unchanged ms
  · rw [h]
    exact Step.unchanged ms
  · obtain ⟨_, session⟩ := request
    cases hid
    rw [h]
    simp only
    split_ifs with hreferenced
    · exact Step.leaveRefused gameId session game player ms hrequest hgame hplayer hreferenced
    · exact Step.leave gameId session game player ms hrequest hgame hplayer
        (by simpa using hreferenced)

theorem step_createGameAndPlayer {w : World} {call : Call} {request : CreateGameRequest}
    (hrequest : call.request = .createGameAndPlayer request) :
    Step w call (GameController.createGameAndPlayer request w).2 := by
  rcases createGameAndPlayer_cases request w with
    ⟨-, h⟩ | ⟨name, session, hcolumns, h⟩ <;> rw [h]
  · exact Step.same w call
  · exact Step.create request name session hrequest hcolumns

theorem step_joinGame {w : World} {call : Call} {request : JoinGameRequest}
    (hrequest : call.request = .joinGame request) :
    Step w call (GameController.joinGame request w).2 := by
  rcases joinGame_cases request w with ⟨-, h⟩ | ⟨gameId, -, -, h⟩ |
    ⟨gameId, game, hid, hgame,
      ⟨-, h⟩ | ⟨name, session, hcolumns, ⟨hfull, h⟩ | ⟨h1, h2, h⟩⟩⟩ <;> rw [h]
  · exact Step.same w call
  · exact Step.same w call
  · exact Step.same w call
  · exact Step.joinFull request gameId name session game hrequest hid hcolumns hgame hfull
  · exact Step.join request gameId name session game hrequest hid hcolumns hgame h1 h2

theorem step_dealCards1 {w : World} {call : Call} {session : Option String}
    (hrequest : call.request = .dealCardsPlayer1 session) :
    Step w call (dealCards1 call.rows call.shuffle session w).2 := by
  rw [dealCards1_apply]
  cases hplayer : sessionLookup w.players session with
  | error e => exact Step.same w call
  | ok player =>
      refine Step.deal session player _ (Or.inl hrequest) hplayer fun c hc => ?_
      rw [Reordering.mem_apply] at hc
      exact (call.rows.mem_apply).1 (List.take_subset _ _ hc)

theorem step_dealCards2 {w : World} {call : Call} {session : Option String}
    (hrequest : call.request = .dealCardsPlayer2 session) :
    Step w call (dealCards2 call.rows call.shuffle session w).2 := by
  rw [dealCards2_apply]
  cases hplayer : sessionLookup w.players session with
  | error e => exact Step.same w call
  | ok player =>
      refine Step.deal session player _ (Or.inr hrequest) hplayer fun c hc => ?_
      rw [Reordering.mem_apply] at hc
      exact (call.rows.mem_apply).1 (List.drop_subset _ _ hc)

/-- **Every request is one of the steps.** -/
theorem step_handle (w : World) (call : Call) : Step w call (handle call w).2 := by
  unfold handle
  cases hrequest : call.request with
  | createGameAndPlayer request =>
      simp only [Handler.bind_pure_state]
      exact step_createGameAndPlayer hrequest
  | joinGame request =>
      simp only [Handler.bind_pure_state]
      exact step_joinGame hrequest
  | dealCardsPlayer1 session =>
      simp only [Handler.bind_pure_state]
      exact step_dealCards1 hrequest
  | dealCardsPlayer2 session =>
      simp only [Handler.bind_pure_state]
      exact step_dealCards2 hrequest
  | playCardPlayer1 player1Id =>
      simp only [Handler.bind_pure_state]
      exact step_playCard1 hrequest
  | playCardPlayer2 request =>
      simp only [Handler.bind_pure_state]
      exact step_playCard2 hrequest
  | leaveGame request =>
      simp only [Handler.bind_pure_state]
      exact step_leaveGame hrequest

/-- The state in which a request starts: nothing has been sent yet. -/
def World.quiet (w : World) : World := { w with sent := [] }

theorem step_next (w : World) (call : Call) : Step w.quiet call (server.next w call) :=
  step_handle w.quiet call

/-! ## The server, request by request -/

section Requests

variable {call : Call}

theorem next_createGameAndPlayer {request : CreateGameRequest}
    (hrequest : call.request = .createGameAndPlayer request) (w : World) :
    server.next w call = (GameController.createGameAndPlayer request w.quiet).2 := by
  show (handle call w.quiet).2 = _
  simp only [handle, hrequest, Handler.bind_pure_state]

theorem next_joinGame {request : JoinGameRequest} (hrequest : call.request = .joinGame request)
    (w : World) : server.next w call = (GameController.joinGame request w.quiet).2 := by
  show (handle call w.quiet).2 = _
  simp only [handle, hrequest, Handler.bind_pure_state]

theorem response_joinGame {request : JoinGameRequest}
    (hrequest : call.request = .joinGame request) (w : World) :
    (server.out w call).response = (GameController.joinGame request w.quiet).1.map .joinGame := by
  show (handle call w.quiet).1 = _
  simp only [handle, hrequest, Handler.bind_pure_result]

theorem next_dealCards1 {session : Option String}
    (hrequest : call.request = .dealCardsPlayer1 session) {w : World}
    {player : Option PlayersEntity} (hplayer : sessionLookup w.players session = .ok player) :
    server.next w call = w.quiet.dealtTo (player.map (·.playerId)) (call.shuffle.apply
      ((call.rows.apply w.cards).take ((call.rows.apply w.cards).length / 2))) := by
  have hlook : sessionLookup w.quiet.players session = .ok player := hplayer
  show (handle call w.quiet).2 = _
  simp only [handle, hrequest, Handler.bind_pure_state, dealCards1_apply, hlook]
  rfl

theorem next_dealCards2 {session : Option String}
    (hrequest : call.request = .dealCardsPlayer2 session) {w : World}
    {player : Option PlayersEntity} (hplayer : sessionLookup w.players session = .ok player) :
    server.next w call = w.quiet.dealtTo (player.map (·.playerId)) (call.shuffle.apply
      ((call.rows.apply w.cards).drop ((call.rows.apply w.cards).length / 2))) := by
  have hlook : sessionLookup w.quiet.players session = .ok player := hplayer
  show (handle call w.quiet).2 = _
  simp only [handle, hrequest, Handler.bind_pure_state, dealCards2_apply, hlook]
  rfl

theorem next_playCard1 {playerId : ℤ}
    (hrequest : call.request = .playCardPlayer1 playerId) (w : World) :
    server.next w call = (playCard1 call.rows playerId w.quiet).2 := by
  show (handle call w.quiet).2 = _
  simp only [handle, hrequest, Handler.bind_pure_state]

theorem response_playCard1 {playerId : ℤ}
    (hrequest : call.request = .playCardPlayer1 playerId) (w : World) :
    (server.out w call).response = (playCard1 call.rows playerId w.quiet).1.map .playCard := by
  show (handle call w.quiet).1 = _
  simp only [handle, hrequest, Handler.bind_pure_result]

theorem next_playCard2 {request : PlayCardRequest}
    (hrequest : call.request = .playCardPlayer2 request) (w : World) :
    server.next w call = (playCard2 call.rows request w.quiet).2 := by
  show (handle call w.quiet).2 = _
  simp only [handle, hrequest, Handler.bind_pure_state]

theorem response_playCard2 {request : PlayCardRequest}
    (hrequest : call.request = .playCardPlayer2 request) (w : World) :
    (server.out w call).response = (playCard2 call.rows request w.quiet).1.map .playCard := by
  show (handle call w.quiet).1 = _
  simp only [handle, hrequest, Handler.bind_pure_result]

theorem next_leaveGame {request : LeaveGameRequest} (hrequest : call.request = .leaveGame request)
    (w : World) :
    server.next w call = (GameController.leaveGame call.rows call.shuffle request w.quiet).2 := by
  show (handle call w.quiet).2 = _
  simp only [handle, hrequest, Handler.bind_pure_state]

theorem response_leaveGame {request : LeaveGameRequest}
    (hrequest : call.request = .leaveGame request) (w : World) :
    (server.out w call).response =
      (GameController.leaveGame call.rows call.shuffle request w.quiet).1.map fun _ =>
        .leaveGame := by
  show (handle call w.quiet).1 = _
  simp only [handle, hrequest, Handler.bind_pure_result]

end Requests

end WarCardGame
