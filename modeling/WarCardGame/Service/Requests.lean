import WarCardGame.Service.Effects

/-!
# What creating, joining and leaving do to the state

The equations of the handlers of `GameController`, in terms of a few named
changes of the state.

* `createGameAndPlayer_cases` — a new player in a new game, or nothing.
* `joinGame_cases` — the five ways a join can end; in two of them a player row
  is stored, and only one of these seats the player.
* `leaveGame_cases` — vacate the seat, close the game, delete the player unless
  a foreign key forbids it, reset turn and piles.
-/

namespace WarCardGame

open Lib

/-! ## Creating -/

/-- The row a new player gets. -/
def World.newPlayer (w : World) (username : String) (sessionId : Option String) : PlayersEntity :=
  ⟨w.nextPlayerId, username, sessionId⟩

/-- The state after a new player was stored. -/
def World.addPlayer (w : World) (username : String) (sessionId : Option String) : World :=
  { w with
    players := w.players ++ [w.newPlayer username sessionId]
    nextPlayerId := w.nextPlayerId + 1 }

/-- The state after a new game of the given player was stored. -/
def World.addGame (w : World) (player1 : ℤ) : World :=
  { w with
    games := w.games ++ [⟨w.nextGameId, some player1, none, none, .newGame⟩]
    nextGameId := w.nextGameId + 1 }

/-- A new player is stored, or the schema refuses the row.  The service goes on with the
name as it was given. -/
theorem createNewPlayer_cases (username sessionId : Option String) (w : World) :
    (PlayerRepository.columns username sessionId = none ∧
      PlayerService.createNewPlayer username sessionId w =
        (.error .dataIntegrityViolationException, w)) ∨
    (∃ given name session, PlayerRepository.columns username sessionId = some (name, session) ∧
      PlayerService.createNewPlayer username sessionId w =
        (.ok (w.newPlayer given sessionId), w.addPlayer name session)) := by
  unfold PlayerService.createNewPlayer PlayerRepository.save
  rw [Handler.bind_ok (Handler.get_apply w)]
  cases username with
  | none => exact Or.inl ⟨rfl, rfl⟩
  | some given =>
      cases hcolumns : PlayerRepository.columns (some given) sessionId with
      | none => exact Or.inl ⟨rfl, rfl⟩
      | some stored => exact Or.inr ⟨given, stored.1, stored.2, rfl, rfl⟩

theorem createGameAndPlayer_cases (request : CreateGameRequest) (w : World) :
    (PlayerRepository.columns request.username request.sessionId = none ∧
      GameController.createGameAndPlayer request w =
        (.error .dataIntegrityViolationException, w)) ∨
    (∃ name session,
      PlayerRepository.columns request.username request.sessionId = some (name, session) ∧
      GameController.createGameAndPlayer request w =
        (.ok { gameId := toString w.nextGameId, createdPlayerSessionId := request.sessionId },
          (w.addPlayer name session).addGame w.nextPlayerId)) := by
  unfold GameController.createGameAndPlayer
  rcases createNewPlayer_cases request.username request.sessionId w with
    ⟨hno, h⟩ | ⟨given, name, session, hyes, h⟩
  · rw [Handler.bind_error h]
    exact Or.inl ⟨hno, rfl⟩
  · rw [Handler.bind_ok h]
    exact Or.inr ⟨name, session, hyes, rfl⟩

/-! ## Joining -/

/-- The state after a player was seated as the second player of a game. -/
def World.seat (w : World) (game : GameEntity) (player2 : ℤ) : World :=
  { w with games := Rows.save GameEntity.gameId { game with player2 := some player2 } w.games }

/-- **The five ways through a join.** -/
theorem joinGame_cases (request : JoinGameRequest) (w : World) :
    (request.gameId = none ∧
      GameController.joinGame request w = (.error .illegalArgumentException, w)) ∨
    (∃ gameId, request.gameId = some gameId ∧ GameRepository.rowOf w.games gameId = none ∧
      GameController.joinGame request w =
        (.ok { gameId := none, joinedPlayerSessionId := request.sessionId, isFound := false }, w)) ∨
    (∃ gameId game, request.gameId = some gameId ∧
      GameRepository.rowOf w.games gameId = some game ∧
      ((PlayerRepository.columns request.username request.sessionId = none ∧
          GameController.joinGame request w = (.error .dataIntegrityViolationException, w)) ∨
        ∃ name session,
          PlayerRepository.columns request.username request.sessionId = some (name, session) ∧
          ((¬ (game.player1 ≠ none ∧ game.player2 = none) ∧
              GameController.joinGame request w =
                (.error .nullPointerException, w.addPlayer name session)) ∨
            (game.player1 ≠ none ∧ game.player2 = none ∧
              GameController.joinGame request w =
                (.ok { gameId := some game.gameId, joinedPlayerSessionId := request.sessionId,
                       isFound := true },
                  (w.addPlayer name session).seat game w.nextPlayerId))))) := by
  obtain ⟨_ | gameId, username, sessionId⟩ := request
  · exact Or.inl ⟨rfl, rfl⟩
  refine Or.inr ?_
  have hfind : ∀ w : World, GameRepository.findById (some gameId) w =
      (.ok (GameRepository.rowOf w.games gameId), w) := fun _ => rfl
  unfold GameController.joinGame
  simp only
  rw [Handler.bind_ok (hfind w)]
  rcases hgame : GameRepository.rowOf w.games gameId with _ | game
  · exact Or.inl ⟨gameId, rfl, hgame, rfl⟩
  refine Or.inr ⟨gameId, game, rfl, hgame, ?_⟩
  simp only
  rcases createNewPlayer_cases username sessionId w with
    ⟨hno, h⟩ | ⟨given, name, session, hyes, h⟩
  · rw [Handler.bind_error h]
    exact Or.inl ⟨hno, rfl⟩
  rw [Handler.bind_ok h]
  refine Or.inr ⟨name, session, hyes, ?_⟩
  have hjoin : GameService.joinGame (some gameId) (w.newPlayer given sessionId)
      (w.addPlayer name session) =
        if game.player1 ≠ none ∧ game.player2 = none then
          (.ok (some { game with player2 := some w.nextPlayerId }),
            (w.addPlayer name session).seat game w.nextPlayerId)
        else (.ok none, w.addPlayer name session) := by
    unfold GameService.joinGame
    rw [Handler.bind_ok (hfind (w.addPlayer name session)),
      show GameRepository.rowOf (w.addPlayer name session).games gameId = some game from hgame]
    simp only
    split_ifs <;> rfl
  by_cases hseat : game.player1 ≠ none ∧ game.player2 = none
  · rw [if_pos hseat] at hjoin
    rw [Handler.bind_ok hjoin]
    exact Or.inr ⟨hseat.1, hseat.2, rfl⟩
  · rw [if_neg hseat] at hjoin
    rw [Handler.bind_ok hjoin]
    exact Or.inl ⟨hseat, rfl⟩

/-! ## Leaving -/

/-- The card table after `reDealCards`. -/
def reDealt (rows shuffle : CardOrder) (player1 player2 : Option ℤ) (cards : List CardsEntity) :
    List CardsEntity :=
  let deck := shuffle.apply
    ((rows.apply cards).map fun card => { card with players := none, isPlayed := false })
  Rows.saveAll CardsEntity.cardId (dealt player2 0 (deck.drop (deck.length / 2)))
    (Rows.saveAll CardsEntity.cardId (dealt player1 0 (deck.take (deck.length / 2))) cards)

theorem map_cardId_reDealt (rows shuffle : CardOrder) (player1 player2 : Option ℤ)
    (cards : List CardsEntity) :
    (reDealt rows shuffle player1 player2 cards).map CardsEntity.cardId =
      cards.map CardsEntity.cardId := by
  simp only [reDealt, Rows.map_key_saveAll]

/-- After `reDealCards` no card is played, and every card belongs to one of the
two it was dealt to. -/
theorem of_mem_reDealt {rows shuffle : CardOrder} {player1 player2 : Option ℤ}
    {cards : List CardsEntity} {c : CardsEntity}
    (hc : c ∈ reDealt rows shuffle player1 player2 cards) :
    c.isPlayed = false ∧ (c.players = player1 ∨ c.players = player2) := by
  have hkey : c.cardId ∈ cards.map CardsEntity.cardId := by
    rw [← map_cardId_reDealt rows shuffle player1 player2]
    exact List.mem_map_of_mem hc
  unfold reDealt at hc
  set deck := shuffle.apply
    ((rows.apply cards).map fun card => { card with players := none, isPlayed := false }) with hdeck
  have hunplayed : ∀ d ∈ deck, d.isPlayed = false := by
    intro d hd
    rw [hdeck, Reordering.mem_apply, List.mem_map] at hd
    obtain ⟨e, -, rfl⟩ := hd
    rfl
  have hdealt : ∀ player i, ∀ hand ⊆ deck, ∀ c ∈ dealt player i hand, c.isPlayed = false := by
    intro player i hand hsub c hc
    obtain ⟨d, hd, n, rfl⟩ := exists_of_mem_dealt hc
    exact hunplayed d (hsub hd)
  rcases Rows.mem_of_mem_saveAll _ hc with h2 | ⟨hc1, hnot2⟩
  · exact ⟨hdealt _ _ _ (List.drop_subset _ _) c h2, Or.inr (players_of_mem_dealt h2)⟩
  rcases Rows.mem_of_mem_saveAll _ hc1 with h1 | ⟨-, hnot1⟩
  · exact ⟨hdealt _ _ _ (List.take_subset _ _) c h1, Or.inl (players_of_mem_dealt h1)⟩
  -- every key is in one of the two halves
  exfalso
  rw [map_cardId_dealt] at hnot1 hnot2
  have hperm : (deck.map CardsEntity.cardId).Perm (cards.map CardsEntity.cardId) := by
    refine ((shuffle.perm _).map CardsEntity.cardId).trans ?_
    rw [List.map_map]
    exact (rows.perm cards).map _
  have hdeckKey := hperm.mem_iff.2 hkey
  rw [← List.take_append_drop (deck.length / 2) deck, List.map_append, List.mem_append] at hdeckKey
  rcases hdeckKey with h | h
  · exact hnot1 h
  · exact hnot2 h

theorem reDealCards_apply (rows shuffle : CardOrder) (player1 player2 : Option ℤ) (w : World) :
    GameService.reDealCards rows shuffle player1 player2 w =
      (.ok (), { w with cards := reDealt rows shuffle player1 player2 w.cards }) := by
  unfold GameService.reDealCards CardsRepository.findAll
  simp only [Handler.bind_apply, Handler.get_apply, Handler.pure_apply, dealCards_apply, reDealt]

/-- The game and the state after the leaving player's seat was emptied. -/
def vacated (rows shuffle : CardOrder) (player : PlayersEntity) (game : GameEntity) (w : World) :
    GameEntity × World :=
  if GameService.playerOf w.players game.player1 = some player then
    ({ game with player1 := none, winner := game.player2 },
      { w with cards := reDealt rows shuffle none game.player2 w.cards })
  else if GameService.playerOf w.players game.player2 = some player then
    ({ game with player2 := none, winner := game.player1 },
      { w with cards := reDealt rows shuffle game.player1 none w.cards })
  else (game, w)

theorem vacate_apply (rows shuffle : CardOrder) (player : PlayersEntity) (game : GameEntity)
    (w : World) :
    GameService.vacate rows shuffle player game w =
      (.ok (vacated rows shuffle player game w).1, (vacated rows shuffle player game w).2) := by
  unfold GameService.vacate vacated
  rw [Handler.bind_ok (Handler.get_apply w)]
  by_cases h1 : GameService.playerOf w.players game.player1 = some player
  · rw [if_pos h1, if_pos h1, Handler.bind_ok (reDealCards_apply _ _ _ _ w)]
    rfl
  · rw [if_neg h1, if_neg h1]
    by_cases h2 : GameService.playerOf w.players game.player2 = some player
    · rw [if_pos h2, if_pos h2, Handler.bind_ok (reDealCards_apply _ _ _ _ w)]
      rfl
    · rw [if_neg h2, if_neg h2]
      rfl

/-- The state after a game was closed: deleted when nobody is left in it, and
marked as ended otherwise. -/
def World.closeGame (w : World) (game : GameEntity) : World :=
  if game.player1 = none ∧ game.player2 = none then
    { w with games := w.games.filter fun g => g.gameId ≠ game.gameId }
  else
    { w with games := Rows.save GameEntity.gameId { game with gameState := .gameEnded } w.games }

/-- Closing a game touches the game table and nothing else. -/
theorem World.closeGame_frame (w : World) (game : GameEntity) :
    w.closeGame game = { w with games := (w.closeGame game).games } := by
  unfold World.closeGame
  split_ifs <;> rfl

theorem World.cards_closeGame (w : World) (game : GameEntity) :
    (w.closeGame game).cards = w.cards := by
  rw [w.closeGame_frame game]

theorem World.nextGameId_closeGame (w : World) (game : GameEntity) :
    (w.closeGame game).nextGameId = w.nextGameId := by
  rw [w.closeGame_frame game]

/-- Up to the delete of the player, leaving touches neither the player table nor
the fields of the service nor the sequences. -/
theorem vacated_closeGame_frame (rows shuffle : CardOrder) (player : PlayersEntity)
    (game : GameEntity) (w : World) :
    let w' :=
      (vacated rows shuffle player game w).2.closeGame (vacated rows shuffle player game w).1
    w'.players = w.players ∧ w'.player1Turn = w.player1Turn ∧ w'.player2Turn = w.player2Turn ∧
      w'.playedCard1 = w.playedCard1 ∧ w'.nextPlayerId = w.nextPlayerId ∧
      w'.nextGameId = w.nextGameId := by
  unfold vacated
  split_ifs <;> rw [World.closeGame_frame] <;> exact ⟨rfl, rfl, rfl, rfl, rfl, rfl⟩

/-- The state after a player's row was deleted. -/
def World.dropPlayer (w : World) (player : PlayersEntity) : World :=
  { w with players := w.players.filter fun p => p.playerId ≠ player.playerId }

/-- The state after `resetTurn` and `resetCapturedCards`. -/
def World.reset (w : World) : World :=
  { w with player1Turn := true, player2Turn := false, player1CapturedCards := [],
           player2CapturedCards := [] }

/-- What `leaveGame` does for a game and a player it finds. -/
theorem leaveGame_found (rows shuffle : CardOrder) {gameId : ℤ} {session : Option String}
    {w : World} {game : GameEntity} {player : PlayersEntity}
    (hgame : GameRepository.rowOf w.games gameId = some game)
    (hplayer : sessionLookup w.players session = .ok (some player)) :
    GameService.leaveGame rows shuffle ⟨some gameId, session⟩ w =
      let v := vacated rows shuffle player game w
      let w' := v.2.closeGame v.1
      if PlayerRepository.referenced w' player.playerId then
        (.error .dataIntegrityViolationException, w')
      else (.ok (), (w'.dropPlayer player).reset) := by
  have hfind : GameRepository.findById (some gameId) w =
      (.ok (GameRepository.rowOf w.games gameId), w) := rfl
  rw [hgame] at hfind
  have hby : PlayerRepository.findPlayerBySessionId session w = (.ok (some player), w) := by
    rw [findPlayerBySessionId_apply, hplayer]
  unfold GameService.leaveGame
  rw [Handler.bind_ok hfind, Handler.bind_ok hby]
  simp only
  rw [Handler.bind_ok (vacate_apply rows shuffle player game w)]
  generalize vacated rows shuffle player game w = v
  have hclose : ∀ k : Service Unit,
      (if v.1.player1 = none ∧ v.1.player2 = none then do
          GameRepository.delete v.1
          k
        else do
          GameRepository.save { v.1 with gameState := .gameEnded }
          k : Service Unit) v.2 = k (v.2.closeGame v.1) := by
    intro k
    unfold World.closeGame
    split_ifs <;> rfl
  refine (hclose _).trans ?_
  unfold PlayerRepository.delete
  simp only [Handler.bind_apply, Handler.get_apply]
  cases PlayerRepository.referenced (v.2.closeGame v.1) player.playerId <;> rfl

/-- **The ways through `GameService.leaveGame`.** -/
theorem leaveGame_cases (rows shuffle : CardOrder) (request : LeaveGameRequest) (w : World) :
    (∃ e, GameService.leaveGame rows shuffle request w = (.error e, w) ∧
      (request.gameId = none ∨ sessionLookup w.players request.playerSession = .error e)) ∨
    (∃ gameId, request.gameId = some gameId ∧
      (GameRepository.rowOf w.games gameId = none ∨
        sessionLookup w.players request.playerSession = .ok none) ∧
      GameService.leaveGame rows shuffle request w = (.ok (), w)) ∨
    (∃ gameId game player, request.gameId = some gameId ∧
      GameRepository.rowOf w.games gameId = some game ∧
      sessionLookup w.players request.playerSession = .ok (some player) ∧
      GameService.leaveGame rows shuffle request w =
        let v := vacated rows shuffle player game w
        let w' := v.2.closeGame v.1
        if PlayerRepository.referenced w' player.playerId then
          (.error .dataIntegrityViolationException, w')
        else (.ok (), (w'.dropPlayer player).reset)) := by
  obtain ⟨_ | gameId, session⟩ := request
  · exact Or.inl ⟨_, rfl, Or.inl rfl⟩
  rcases hlook : sessionLookup w.players session with e | player
  · have hfind : GameRepository.findById (some gameId) w =
        (.ok (GameRepository.rowOf w.games gameId), w) := rfl
    have hby : PlayerRepository.findPlayerBySessionId session w = (.error e, w) := by
      rw [findPlayerBySessionId_apply, hlook]
    unfold GameService.leaveGame
    rw [Handler.bind_ok hfind, Handler.bind_error hby]
    exact Or.inl ⟨e, rfl, Or.inr rfl⟩
  refine Or.inr ?_
  have hfind : GameRepository.findById (some gameId) w =
      (.ok (GameRepository.rowOf w.games gameId), w) := rfl
  have hby : PlayerRepository.findPlayerBySessionId session w = (.ok player, w) := by
    rw [findPlayerBySessionId_apply, hlook]
  rcases hgame : GameRepository.rowOf w.games gameId with _ | game
  · rw [hgame] at hfind
    unfold GameService.leaveGame
    rw [Handler.bind_ok hfind, Handler.bind_ok hby]
    exact Or.inl ⟨gameId, rfl, Or.inl hgame, rfl⟩
  rcases player with _ | player
  · unfold GameService.leaveGame
    rw [Handler.bind_ok hfind, Handler.bind_ok hby, hgame]
    exact Or.inl ⟨gameId, rfl, Or.inr rfl, rfl⟩
  exact Or.inr ⟨gameId, game, player, rfl, hgame, rfl, leaveGame_found rows shuffle hgame hlook⟩

end WarCardGame
