import WarCardGame.Model.CardsService

/-!
# `PlayerService` and `GameService`

Creating players and games, joining, and leaving, as `Services/PlayerService.java`
and `Services/GameService.java` compute them.
-/

namespace WarCardGame

open Lib

namespace PlayerService

/-- `createNewPlayer`. -/
def createNewPlayer (username sessionId : Option String) : Service PlayersEntity :=
  PlayerRepository.save username sessionId

end PlayerService

namespace GameService

/-- `createNewGame`. -/
def createNewGame (player1 : PlayersEntity) : Service GameEntity :=
  GameRepository.insert (some player1.playerId) none none .newGame

/-- `joinGame`: `null` when there is no such game, or no seat for a second
player in it. -/
def joinGame (gameId : Option ℤ) (player2 : PlayersEntity) : Service (Option GameEntity) := do
  let optionalGame ← GameRepository.findById gameId
  match optionalGame with
  | some game =>
      if game.player1 ≠ none ∧ game.player2 = none then do
        let game := { game with player2 := some player2.playerId }
        GameRepository.save game
        return some game
      else return none
  | none => return none

/-- `reDealCards`: take every card from its owner, unplay it, and deal the
shuffled deck in two halves. -/
def reDealCards (rows shuffle : CardOrder) (player1 player2 : Option ℤ) : Service Unit := do
  let allCards ← CardsRepository.findAll rows
  let allCards := shuffle.apply
    (allCards.map fun card => { card with players := none, isPlayed := false })
  dealCards player1 0 (allCards.take (allCards.length / 2))
  dealCards player2 0 (allCards.drop (allCards.length / 2))

/-- The player an entity refers to. -/
def playerOf (players : List PlayersEntity) (key : Option ℤ) : Option PlayersEntity :=
  key.bind (PlayerRepository.rowOf players)

/-- The two branches of `leaveGame` that empty the slot of the leaving player,
name the other one winner and deal the cards anew; the game as they leave it in
memory. -/
def vacate (rows shuffle : CardOrder) (player : PlayersEntity) (game : GameEntity) :
    Service GameEntity := do
  let w ← Handler.get
  if playerOf w.players game.player1 = some player then do
    let game := { game with player1 := none, winner := game.player2 }
    reDealCards rows shuffle game.player1 game.player2
    return game
  else if playerOf w.players game.player2 = some player then do
    let game := { game with player2 := none, winner := game.player1 }
    reDealCards rows shuffle game.player1 game.player2
    return game
  else
    return game

/-- `leaveGame`. -/
def leaveGame (rows shuffle : CardOrder) (request : LeaveGameRequest) : Service Unit := do
  let optionalGame ← GameRepository.findById request.gameId
  let player ← PlayerRepository.findPlayerBySessionId request.playerSession
  match optionalGame, player with
  | some game, some player => do
      let game ← vacate rows shuffle player game
      if game.player1 = none ∧ game.player2 = none then
        GameRepository.delete game
      else
        GameRepository.save { game with gameState := .gameEnded }
      PlayerRepository.delete player
      resetTurn
      resetCapturedCards
  | _, _ => return ()

end GameService

end WarCardGame
