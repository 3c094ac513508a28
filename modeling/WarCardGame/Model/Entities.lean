import WarCardGame.Lib.Handler
import WarCardGame.Lib.Rows

/-!
# The data of the application

The rows of the three tables of `V1__CreateSchema.sql`, the requests and
responses that travel over the web socket, the messages the services publish,
and `World`: everything a request can read or write.

An entity refers to a player by the key in its join column (`player_id`,
`player1_id`, `player2_id`, `winner_id`), so an entity is exactly the row it was
read from.  Java's `Long` and `int` are `ℤ`, and a reference that may be `null`
is an `Option`.

`World` puts the database next to the fields of the one `CardsService` the
application has, because the fields outlive a request just as the rows do.  Its
last field, `sent`, collects what the request being handled publishes.
-/

namespace WarCardGame

/-! ## Rows -/

/-- `Enums.GameState`. -/
inductive GameState where
  | newGame
  | startGame
  | battle
  | war
  | cardPlayed
  | roundWinner
  | gameEnded
  deriving DecidableEq, Repr

/-- A row of `player_entity`. -/
structure PlayersEntity where
  playerId : ℤ
  username : String
  sessionId : Option String
  deriving DecidableEq, Repr

/-- A row of `card_entity`. -/
structure CardsEntity where
  cardId : ℤ
  name : String
  suit : String
  rank : ℤ
  isPlayed : Bool
  dealOrder : ℤ
  /-- The column `player_id`. -/
  players : Option ℤ
  deriving DecidableEq, Repr

/-- A row of `game_entity`. -/
structure GameEntity where
  gameId : ℤ
  player1 : Option ℤ
  player2 : Option ℤ
  winner : Option ℤ
  gameState : GameState
  deriving DecidableEq, Repr

/-! ## Requests, responses and messages -/

/-- `DTO.CreateGameRequest`. -/
structure CreateGameRequest where
  username : Option String
  sessionId : Option String
  deriving DecidableEq, Repr

/-- `DTO.JoinGameRequest`. -/
structure JoinGameRequest where
  gameId : Option ℤ
  username : Option String
  sessionId : Option String
  deriving DecidableEq, Repr

/-- `DTO.LeaveGameRequest`; its `playerId` is read nowhere and is left out. -/
structure LeaveGameRequest where
  gameId : Option ℤ
  playerSession : Option String
  deriving DecidableEq, Repr

/-- `DTO.PlayCardRequest`. -/
structure PlayCardRequest where
  player1Id : Option ℤ
  player2Id : Option ℤ
  gameId : Option ℤ
  deriving DecidableEq, Repr

/-- The map `createGameAndPlayer` answers with. -/
structure CreateGameResponse where
  gameId : String
  createdPlayerSessionId : Option String
  deriving DecidableEq, Repr

/-- `DTO.JoinResponse`. -/
structure JoinResponse where
  gameId : Option ℤ
  joinedPlayerSessionId : Option String
  isFound : Bool
  deriving DecidableEq, Repr

/-- `DTO.DealCardsResponse`. -/
structure DealCardsResponse where
  cards : List CardsEntity
  playerSession : Option String
  deriving DecidableEq, Repr

/-- `DTO.PlayCardResponse`. -/
structure PlayCardResponse where
  card : Option CardsEntity
  turn : Bool
  playerSession : Option String
  deriving DecidableEq, Repr

/-- `DTO.LeaveGameResponse`. -/
structure LeaveGameResponse where
  game : GameEntity
  player1Session : Option String
  player2Session : Option String
  deriving DecidableEq, Repr

/-- What `SimpMessagingTemplate.convertAndSend` is called with, by topic. -/
inductive Message where
  /-- `/topic/capturedCards/player1` -/
  | capturedCardsPlayer1 (cards : List CardsEntity)
  /-- `/topic/capturedCards/player2` -/
  | capturedCardsPlayer2 (cards : List CardsEntity)
  /-- `/topic/game/war` -/
  | gameWar (text : String)
  /-- `/topic/game/winner` -/
  | gameWinner (text : String)
  /-- `/topic/updateGameAfterLeave` -/
  | updateGameAfterLeave (response : LeaveGameResponse)
  deriving DecidableEq, Repr

/-- The exceptions that can end a request. -/
inductive Failure where
  /-- `Optional.get` on an empty optional. -/
  | noSuchElementException
  /-- A dereference, or the unboxing, of `null`. -/
  | nullPointerException
  /-- `findById(null)`. -/
  | illegalArgumentException
  /-- `List.get` out of range. -/
  | indexOutOfBoundsException
  /-- Several rows where a query may return one. -/
  | incorrectResultSizeDataAccessException
  /-- A constraint of the schema. -/
  | dataIntegrityViolationException
  deriving DecidableEq, Repr

/-! ## The state -/

/-- The database, the fields of the `CardsService`, and the messages sent by
the request being handled. -/
structure World where
  /-- `player_entity` -/
  players : List PlayersEntity
  /-- `card_entity` -/
  cards : List CardsEntity
  /-- `game_entity` -/
  games : List GameEntity
  /-- The sequence behind `player_id`. -/
  nextPlayerId : ℤ
  /-- The sequence behind `game_id`. -/
  nextGameId : ℤ
  player1Turn : Bool
  player2Turn : Bool
  playedCard1 : Option CardsEntity
  playedCard2 : Option CardsEntity
  player1CapturedCards : List CardsEntity
  player2CapturedCards : List CardsEntity
  sent : List Message
  deriving DecidableEq, Repr

/-- A computation of the services. -/
abbrev Service (α : Type) : Type := Lib.Handler World Failure α

/-- The order in which the database lists card rows, and the result of a
shuffle: both are chosen outside the program. -/
abbrev CardOrder : Type := Lib.Reordering CardsEntity

/-! ## The deck -/

/-- A set of card rows as the migration leaves them: distinct keys, not played,
not dealt to anyone. -/
structure Deck where
  cards : List CardsEntity
  nodup : (cards.map CardsEntity.cardId).Nodup
  unplayed : ∀ c ∈ cards, c.isPlayed = false
  undealt : ∀ c ∈ cards, c.players = none

/-- The values of a suit in `V2__InsertIntoTables.sql`, with their ranks. -/
def migratedValues : List (String × ℤ) :=
  [("2", 2), ("3", 3), ("4", 4), ("5", 5), ("6", 6), ("7", 7), ("8", 8), ("9", 9), ("10", 10),
    ("Jack", 11), ("Queen", 12), ("King", 13), ("Ace", 14)]

/-- The rows `V2__InsertIntoTables.sql` inserts; the keys are the numbers the
sequence gives them. -/
def migratedCards : List CardsEntity :=
  (["Hearts", "Diamonds", "Clubs", "Spades"].flatMap fun suit =>
      migratedValues.map fun v => (suit, v)).mapIdx fun i row =>
    { cardId := i + 1, name := row.2.1, suit := row.1, rank := row.2.2, isPlayed := false,
      dealOrder := -1, players := none }

/-- The deck of the migrated database. -/
def migratedDeck : Deck where
  cards := migratedCards
  nodup := by decide +kernel
  unplayed := by decide +kernel
  undealt := by decide +kernel

/-- A fresh `CardsService` over a database that holds the deck and nothing
else. -/
def World.initial (deck : Deck) : World where
  players := []
  cards := deck.cards
  games := []
  nextPlayerId := 1
  nextGameId := 1
  player1Turn := true
  player2Turn := false
  playedCard1 := none
  playedCard2 := none
  player1CapturedCards := []
  player2CapturedCards := []
  sent := []

end WarCardGame
