import WarCardGame.Lib.Varchar
import WarCardGame.Model.Entities

/-!
# The repositories

`CardsRepository`, `PlayerRepository` and `GameRepository`, with the query each
method stands for.  No transaction spans a request, so a row that is read is a
detached copy: changing it changes nothing until it is saved, and a save writes
the whole row.

The foreign keys are checked where the program relies on them, on the delete of
a player.  `Tables` proves that no write ever stores a reference that dangles,
so the checks on the writes never come into play.
-/

namespace WarCardGame

open Lib

/-- Java's unboxing of a `Long`. -/
def unbox (n : Option ℤ) : Service ℤ := Handler.orThrow .nullPointerException n

/-- `Optional.get`. -/
def optionalGet {α : Type} (o : Option α) : Service α := Handler.orThrow .noSuchElementException o

/-- `SimpMessagingTemplate.convertAndSend`. -/
def convertAndSend (m : Message) : Service Unit :=
  Handler.modify fun w => { w with sent := w.sent ++ [m] }

/-! ## Cards -/

namespace CardsRepository

/-- The rows of a player, by `deal_order`; rows that agree in it come as the
database lists them. -/
def cardsOf (rows : CardOrder) (playerId : ℤ) (cards : List CardsEntity) : List CardsEntity :=
  (rows.apply (cards.filter fun card => card.players = some playerId)).insertionSort
    fun a b => a.dealOrder ≤ b.dealOrder

/-- `findAll`: a query without `ORDER BY`. -/
def findAll (rows : CardOrder) : Service (List CardsEntity) := do
  let w ← Handler.get
  return rows.apply w.cards

/-- `findCardsByPlayers_PlayerIdOrderByDealOrder`. -/
def findCardsByPlayers_PlayerIdOrderByDealOrder (rows : CardOrder) (playerId : ℤ) :
    Service (List CardsEntity) := do
  let w ← Handler.get
  return cardsOf rows playerId w.cards

/-- `save`, of a copy of a stored row. -/
def save (card : CardsEntity) : Service Unit :=
  Handler.modify fun w => { w with cards := Rows.save CardsEntity.cardId card w.cards }

end CardsRepository

/-! ## Players -/

namespace PlayerRepository

/-- The row with the given key. -/
def rowOf (players : List PlayersEntity) (playerId : ℤ) : Option PlayersEntity :=
  players.find? fun p => p.playerId = playerId

/-- `findById`. -/
def findById (playerId : ℤ) : Service (Option PlayersEntity) := do
  let w ← Handler.get
  return rowOf w.players playerId

/-- `findPlayerBySessionId`: `null` when no row matches, an exception when
several do.  A `null` session matches the rows whose session is `null`. -/
def findPlayerBySessionId (sessionId : Option String) : Service (Option PlayersEntity) := do
  let w ← Handler.get
  match w.players.filter fun p => p.sessionId = sessionId with
  | [] =>
      -- no column holds a text that cannot be sent, so the query of such a text comes here
      if sessionId.all Varchar.sendable then return none
      else Handler.throw .dataIntegrityViolationException
  | [player] => return some player
  | _ => Handler.throw .incorrectResultSizeDataAccessException

/-- The texts that the row of a new player holds, unless `player_entity` refuses it:
`username VARCHAR(50) NOT NULL` and `session_id VARCHAR(64)`. -/
def columns (username sessionId : Option String) : Option (String × Option String) := do
  let name ← Varchar.store 50 (← username)
  match sessionId with
  | none => return (name, none)
  | some session => return (name, some (← Varchar.store 64 session))

/-- A row is stored exactly if each of its texts is. -/
theorem columns_eq_some_iff {username sessionId : Option String}
    {stored : String × Option String} :
    columns username sessionId = some stored ↔
      (∃ name, username = some name ∧ Varchar.store 50 name = some stored.1) ∧
      sessionId.map (Varchar.store 64) = stored.2.map some := by
  obtain ⟨storedName, storedSession⟩ := stored
  cases username with
  | none => simp [columns]
  | some name =>
      cases hname : Varchar.store 50 name with
      | none => simp [columns, hname]
      | some name' =>
          cases sessionId with
          | none => cases storedSession <;> simp [columns, hname]
          | some session =>
              cases hsession : Varchar.store 64 session with
              | none => cases storedSession <;> simp [columns, hname, hsession]
              | some session' => cases storedSession <;> simp [columns, hname, hsession]

/-- **The rows that `player_entity` takes**: the name is not `null`, and after 50
characters of the name and 64 of the session there are only blanks. -/
theorem columns_isSome_iff {username sessionId : Option String} :
    (columns username sessionId).isSome = true ↔
      (∃ name, username = some name ∧ Varchar.sendable name = true ∧
        ∀ c ∈ name.toList.drop 50, c = ' ') ∧
      ∀ session, sessionId = some session → Varchar.sendable session = true ∧
        ∀ c ∈ session.toList.drop 64, c = ' ' := by
  simp only [← Varchar.store_isSome_iff, Option.isSome_iff_exists, columns_eq_some_iff]
  constructor
  · rintro ⟨stored, ⟨name, hname, hstored⟩, hsession⟩
    refine ⟨⟨name, hname, _, hstored⟩, fun session hsome => ?_⟩
    rw [hsome] at hsession
    obtain ⟨session', -, hsession'⟩ := Option.map_eq_some_iff.1 hsession.symm
    exact ⟨session', hsession'.symm⟩
  · rintro ⟨⟨name, hname, storedName, hstored⟩, hsession⟩
    cases sessionId with
    | none => exact ⟨(storedName, none), ⟨name, hname, hstored⟩, rfl⟩
    | some session =>
        obtain ⟨storedSession, hstored'⟩ := hsession session rfl
        exact ⟨(storedName, some storedSession), ⟨name, hname, hstored⟩, by simp [hstored']⟩

/-- What a row holds `player_entity` takes again, as it is. -/
theorem columns_columns {username sessionId : Option String} {stored : String × Option String}
    (h : columns username sessionId = some stored) :
    columns (some stored.1) stored.2 = some stored := by
  obtain ⟨⟨name, -, hname⟩, hsession⟩ := columns_eq_some_iff.1 h
  refine columns_eq_some_iff.2 ⟨⟨_, rfl, Varchar.store_store hname⟩, ?_⟩
  cases hstored : stored.2 with
  | none => rfl
  | some session' =>
      rw [hstored] at hsession
      obtain ⟨session, -, hsession'⟩ := Option.map_eq_some_iff.1 hsession
      exact congrArg some (Varchar.store_store hsession')

/-- `save`, of a new player: a row with the next key, unless the schema refuses it.  The
entity that is returned has the texts as they were given. -/
def save (username sessionId : Option String) : Service PlayersEntity := do
  let w ← Handler.get
  match username, columns username sessionId with
  | some name, some stored =>
      Handler.modify fun w =>
        { w with
          players := w.players ++ [⟨w.nextPlayerId, stored.1, stored.2⟩]
          nextPlayerId := w.nextPlayerId + 1 }
      return ⟨w.nextPlayerId, name, sessionId⟩
  | _, _ => Handler.throw .dataIntegrityViolationException

/-- The player is referenced from one of the four columns with a foreign key. -/
def referenced (w : World) (playerId : ℤ) : Bool :=
  (w.cards.any fun card => card.players = some playerId) ||
    w.games.any fun game =>
      game.player1 = some playerId || game.player2 = some playerId || game.winner = some playerId

/-- `delete`: the foreign keys of `card_entity` and `game_entity` refuse the
delete of a player that is still referenced. -/
def delete (player : PlayersEntity) : Service Unit := do
  let w ← Handler.get
  if referenced w player.playerId then Handler.throw .dataIntegrityViolationException
  else
    Handler.modify fun w =>
      { w with players := w.players.filter fun p => p.playerId ≠ player.playerId }

end PlayerRepository

/-! ## Games -/

namespace GameRepository

/-- The row with the given key. -/
def rowOf (games : List GameEntity) (gameId : ℤ) : Option GameEntity :=
  games.find? fun g => g.gameId = gameId

/-- `findById`. -/
def findById (gameId : Option ℤ) : Service (Option GameEntity) := do
  let key ← Handler.orThrow .illegalArgumentException gameId
  let w ← Handler.get
  return rowOf w.games key

/-- `save`, of a new game. -/
def insert (player1 player2 winner : Option ℤ) (gameState : GameState) : Service GameEntity := do
  let w ← Handler.get
  let game : GameEntity := ⟨w.nextGameId, player1, player2, winner, gameState⟩
  Handler.modify fun w => { w with games := w.games ++ [game], nextGameId := w.nextGameId + 1 }
  return game

/-- `save`, of a copy of a stored row. -/
def save (game : GameEntity) : Service Unit :=
  Handler.modify fun w => { w with games := Rows.save GameEntity.gameId game w.games }

/-- `delete`: no column refers to a game. -/
def delete (game : GameEntity) : Service Unit :=
  Handler.modify fun w => { w with games := w.games.filter fun g => g.gameId ≠ game.gameId }

end GameRepository

end WarCardGame
