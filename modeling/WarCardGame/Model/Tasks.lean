import WarCardGame.Lib.Tasks
import WarCardGame.Model.Controllers

/-!
# Handlers as chains of repository calls

Requests are handled by several threads, and no handler holds a lock or a
transaction: between two calls of a repository anything may happen.  Here the
kinds of requests that clients send at the same time are written as tasks, one
atomic call for each call of a repository.

* `GameController.joinGameTask` — the join, whose second lookup finds the seat
  and whose last call takes it.
* `dealCards1Task`, `dealCards2Task` — the deals.  The list they cut in two is a
  field of the service, `allCards`, which both write and read; `Dealing` puts it
  next to the rest of the state.
* `playCard1Task` — a play of player 1, which is sent once more with every click.
  The fields of the service are read and written one at a time.

A task that is left alone does what the handler does: `run_joinGameTask`,
`run_playCard1Task`, and `run_dealCards1Task` and `run_dealCards2Task` where the
deals are studied.
-/

namespace WarCardGame

open Lib

/-! ## Joining -/

/-- `GameService.joinGame`, call by call. -/
def GameService.joinGameTask (gameId : Option ℤ) (player2 : PlayersEntity) :
    Task World Failure (Option GameEntity) := do
  let optionalGame ← Task.atomic (GameRepository.findById gameId)
  match optionalGame with
  | some game =>
      if game.player1 ≠ none ∧ game.player2 = none then do
        let game := { game with player2 := some player2.playerId }
        Task.atomic (GameRepository.save game)
        return some game
      else return none
  | none => return none

/-- `GameController.joinGame`, call by call. -/
def GameController.joinGameTask (request : JoinGameRequest) : Task World Failure JoinResponse := do
  let checkGame ← Task.atomic (GameRepository.findById request.gameId)
  match checkGame with
  | some _ => do
      let player2 ← Task.atomic (PlayerService.createNewPlayer request.username request.sessionId)
      let game ← GameService.joinGameTask request.gameId player2
      let game ← Task.orThrow .nullPointerException game
      return { gameId := some game.gameId, joinedPlayerSessionId := request.sessionId,
               isFound := true }
  | none =>
      return { gameId := none, joinedPlayerSessionId := request.sessionId, isFound := false }

theorem GameService.run_joinGameTask (gameId : Option ℤ) (player2 : PlayersEntity) :
    (GameService.joinGameTask gameId player2).run = GameService.joinGame gameId player2 := by
  unfold GameService.joinGameTask GameService.joinGame
  rw [Task.run_bind, Task.run_atomic]
  congr 1
  funext optionalGame
  cases optionalGame with
  | none => rfl
  | some game =>
      simp only
      split_ifs
      · rfl
      · rfl

/-- **A join that is left alone** is the handler. -/
theorem GameController.run_joinGameTask (request : JoinGameRequest) :
    (GameController.joinGameTask request).run = GameController.joinGame request := by
  unfold GameController.joinGameTask GameController.joinGame
  rw [Task.run_bind, Task.run_atomic]
  congr 1
  funext checkGame
  cases checkGame with
  | none => rfl
  | some game =>
      simp only [Task.run_bind, Task.run_atomic, GameService.run_joinGameTask, Task.run_orThrow,
        Task.run_pure]

/-! ## Dealing -/

/-- The state, and the list of all cards the service has read last. -/
structure Dealing where
  world : World
  allCards : List CardsEntity

/-- A call of a repository, seen from the service. -/
def Dealing.repository {α : Type} (x : Service α) : Handler Dealing Failure α := fun d =>
  ((x d.world).1, { d with world := (x d.world).2 })

/-- `allCards = new ArrayList<>(); allCards = cardsRepository.findAll();` -/
def Dealing.readAllCards (rows : CardOrder) : Handler Dealing Failure Unit :=
  Handler.modify fun d => { d with allCards := rows.apply d.world.cards }

/-- The field `allCards`. -/
def Dealing.getAllCards : Handler Dealing Failure (List CardsEntity) := do
  return (← Handler.get).allCards

/-- The loop that saves the cards of a hand, call by call. -/
def dealCardsTask (player : Option ℤ) : ℕ → List CardsEntity → Task Dealing Failure Unit
  | _, [] => pure ()
  | i, card :: rest => do
      Task.atomic (Dealing.repository
        (CardsRepository.save { card with dealOrder := i, players := player }))
      dealCardsTask player (i + 1) rest

/-- A deal, call by call: `cut` is the part of the list that the player gets. -/
def dealTask (cut : List CardsEntity → List CardsEntity) (rows shuffle : CardOrder)
    (sessionId : Option String) : Task Dealing Failure DealCardsResponse := do
  Task.atomic (Dealing.readAllCards rows)
  let player ← Task.atomic (Dealing.repository (PlayerRepository.findPlayerBySessionId sessionId))
  let allCards ← Task.atomic Dealing.getAllCards
  let playerCards := shuffle.apply (cut allCards)
  dealCardsTask (player.map (·.playerId)) 0 playerCards
  return { cards := dealt (player.map (·.playerId)) 0 playerCards, playerSession := sessionId }

/-- The first half of a list, and the rest. -/
def half1 (allCards : List CardsEntity) : List CardsEntity := allCards.take (allCards.length / 2)

@[inherit_doc half1]
def half2 (allCards : List CardsEntity) : List CardsEntity := allCards.drop (allCards.length / 2)

/-- `dealCards1`, call by call. -/
def dealCards1Task :
    CardOrder → CardOrder → Option String → Task Dealing Failure DealCardsResponse :=
  dealTask half1

/-- `dealCards2`, call by call. -/
def dealCards2Task :
    CardOrder → CardOrder → Option String → Task Dealing Failure DealCardsResponse :=
  dealTask half2

theorem run_dealCardsTask (player : Option ℤ) (i : ℕ) (hand : List CardsEntity) :
    (dealCardsTask player i hand).run = Dealing.repository (dealCards player i hand) := by
  induction hand generalizing i with
  | nil => rfl
  | cons card rest ih =>
      rw [dealCardsTask, Task.run_bind, ih]
      rfl

/-! ## Playing -/

/-- The lines of `playCard1` that put down a card. -/
def putDown1Task (player1 : PlayersEntity) (card : CardsEntity) :
    Task World Failure (Option PlayCardResponse) := do
  Task.atomic (CardsRepository.save card)
  Task.atomic (Handler.modify fun w => { w with playedCard1 := some card })
  Task.atomic (Handler.modify fun w => { w with player1Turn := false })
  Task.atomic (Handler.modify fun w => { w with player2Turn := true })
  return some { card := some card, turn := true, playerSession := player1.sessionId }

/-- The lines of `playCard1` from the look at the turn on, with the hand and the player
as they were read. -/
def takeTurn1Task (player1 : PlayersEntity) (player1Cards : List CardsEntity) :
    Task World Failure (Option PlayCardResponse) := do
  let w ← Task.atomic Handler.get
  if w.player1Turn then
    match playFirst player1Cards with
    | some (card, _) => putDown1Task player1 card
    | none => return none
  else
    return some { card := none, turn := false, playerSession := player1.sessionId }

/-- `playCard1`, call by call. -/
def playCard1Task (rows : CardOrder) (playerId : ℤ) :
    Task World Failure (Option PlayCardResponse) := do
  let player1Cards ←
    Task.atomic (CardsRepository.findCardsByPlayers_PlayerIdOrderByDealOrder rows playerId)
  let optionalPlayer1 ← Task.atomic (PlayerRepository.findById playerId)
  let player1 ← Task.orThrow .noSuchElementException optionalPlayer1
  takeTurn1Task player1 player1Cards

/-- **A play that is left alone** is the handler. -/
theorem run_playCard1Task (rows : CardOrder) (playerId : ℤ) :
    (playCard1Task rows playerId).run = playCard1 rows playerId := by
  unfold playCard1Task playCard1 takeTurn1Task
  simp only [Task.run_bind, Task.run_atomic, Task.run_orThrow, optionalGet]
  congr 1
  funext player1Cards
  congr 1
  funext optionalPlayer1
  congr 1
  funext player1
  congr 1
  funext w
  cases w.player1Turn with
  | false => rfl
  | true =>
      cases playFirst player1Cards with
      | none => rfl
      | some r => rfl

end WarCardGame
