import WarCardGame.Lib.Machine
import WarCardGame.Model.GameService

/-!
# The controllers, and the server as a machine

The page and the message mappings of `GameController`, those of
`CardsController`, and `server`: the machine that handles one request after
another, each to its end before the next one starts.  A request that ends in an
exception keeps what it has written so far, and an answer is published only when
there is none.
-/

namespace WarCardGame

open Lib

namespace GameController

/-- The attributes of the page `gamePlay`. -/
structure GamePlayModel where
  gameId : ℤ
  player1Username : Option String
  player2Username : Option String
  player1Session : Option String
  player2Session : Option String
  player1 : Option ℤ
  player2 : Option ℤ
  version : ℤ
  deriving DecidableEq, Repr

/-- The views `gamePlayPage` can choose. -/
inductive Page where
  | gamePlay (model : GamePlayModel)
  | gameNotFound
  deriving DecidableEq, Repr

/-- `gamePlayPage`; `number` is what `randomNumber` gives.  Five of the attributes
test their player for `null`, and the id of player 1 is read without a test. -/
def gamePlayPage (number : ℤ) (gameId : ℤ) : Service Page := do
  let optionalGame ← GameRepository.findById (some gameId)
  match optionalGame with
  | some game => do
      let w ← Handler.get
      let player1 := GameService.playerOf w.players game.player1
      let player2 := GameService.playerOf w.players game.player2
      let player1Id ← Handler.orThrow .nullPointerException (player1.map (·.playerId))
      return .gamePlay
        { gameId := gameId
          player1Username := player1.map (·.username)
          player2Username := player2.map (·.username)
          player1Session := player1.bind (·.sessionId)
          player2Session := player2.bind (·.sessionId)
          player1 := some player1Id
          player2 := player2.map (·.playerId)
          version := number }
  | none => return .gameNotFound

/-- `createGameAndPlayer`. -/
def createGameAndPlayer (request : CreateGameRequest) : Service CreateGameResponse := do
  let player1 ← PlayerService.createNewPlayer request.username request.sessionId
  let newGame ← GameService.createNewGame player1
  return { gameId := toString newGame.gameId, createdPlayerSessionId := request.sessionId }

/-- `joinGame`: the player is stored before the service looks for a seat, and
the game the service returns is used without a test. -/
def joinGame (request : JoinGameRequest) : Service JoinResponse := do
  let checkGame ← GameRepository.findById request.gameId
  match checkGame with
  | some _ => do
      let player2 ← PlayerService.createNewPlayer request.username request.sessionId
      let game ← GameService.joinGame request.gameId player2
      let game ← Handler.orThrow .nullPointerException game
      return { gameId := some game.gameId, joinedPlayerSessionId := request.sessionId,
               isFound := true }
  | none =>
      return { gameId := none, joinedPlayerSessionId := request.sessionId, isFound := false }

/-- `leaveGame`: after the service is done, tell the clients of a game that is
still there who is left in it. -/
def leaveGame (rows shuffle : CardOrder) (request : LeaveGameRequest) : Service Unit := do
  GameService.leaveGame rows shuffle request
  let game ← GameRepository.findById request.gameId
  let w ← Handler.get
  match game with
  | some gameEntity =>
      convertAndSend (.updateGameAfterLeave
        { game := gameEntity
          player1Session := (GameService.playerOf w.players gameEntity.player1).bind (·.sessionId)
          player2Session :=
            (GameService.playerOf w.players gameEntity.player2).bind (·.sessionId) })
  | none => return ()

end GameController

/-- The requests a client can send. -/
inductive Request where
  /-- `/games/create` -/
  | createGameAndPlayer (request : CreateGameRequest)
  /-- `/games/join` -/
  | joinGame (request : JoinGameRequest)
  /-- `/cards/dealPlayer1Test` -/
  | dealCardsPlayer1 (sessionId : Option String)
  /-- `/cards/dealPlayer2Test` -/
  | dealCardsPlayer2 (sessionId : Option String)
  /-- `/cards/playCardPlayer1Test` -/
  | playCardPlayer1 (player1Id : ℤ)
  /-- `/cards/playCardPlayer2Test` -/
  | playCardPlayer2 (playCardRequest : PlayCardRequest)
  /-- `/games/leave` -/
  | leaveGame (request : LeaveGameRequest)
  deriving DecidableEq, Repr

/-- The answers, as `@SendTo` publishes them; a play may answer `null`. -/
inductive Response where
  | createGame (response : CreateGameResponse)
  | joinGame (response : JoinResponse)
  | dealCards (response : DealCardsResponse)
  | playCard (response : Option PlayCardResponse)
  | leaveGame
  deriving DecidableEq, Repr

/-- A request, with the choices made outside the program while it is handled:
the order in which the database lists rows, and the shuffle. -/
structure Call where
  request : Request
  rows : CardOrder
  shuffle : CardOrder

/-- The handler a request is mapped to. -/
def handle (call : Call) : Service Response :=
  match call.request with
  | .createGameAndPlayer request => do
      return .createGame (← GameController.createGameAndPlayer request)
  | .joinGame request => do
      return .joinGame (← GameController.joinGame request)
  | .dealCardsPlayer1 sessionId => do
      return .dealCards (← dealCards1 call.rows call.shuffle sessionId)
  | .dealCardsPlayer2 sessionId => do
      return .dealCards (← dealCards2 call.rows call.shuffle sessionId)
  | .playCardPlayer1 player1Id => do
      return .playCard (← playCard1 call.rows player1Id)
  | .playCardPlayer2 playCardRequest => do
      return .playCard (← playCard2 call.rows playCardRequest)
  | .leaveGame request => do
      GameController.leaveGame call.rows call.shuffle request
      return .leaveGame

/-- What a request gives: its answer or its exception, and the messages sent on
the way. -/
structure Outcome where
  response : Except Failure Response
  sent : List Message

/-- The application, one request at a time. -/
def server : Machine World Call Outcome where
  step w call :=
    let result := handle call { w with sent := [] }
    (result.2, { response := result.1, sent := result.2.sent })

end WarCardGame
