import WarCardGame.Server.Lobby
import WarCardGame.Server.NewGame

/-!
# The life of a game

A row of `game_entity` is written by the requests of many: of its two players, of players
who want to join, and of players of other games who leave "it".  Seen from outside a game
is in one of seven phases, and goes from one to the next by five moves.

* `life` — the phases and the moves.
* `World.phase`, `lifeMove` — the phase of a game in a state of the server, and the move
  that a request is for it.
* `phase_next` — **a request moves every game as `life` says**.
* `game_follows_lifecycle` — so does a run, and no phase is entered again once it is
  left, except that an ended game can lose its second player and be joined again.
-/

namespace WarCardGame

open Lib

/-! ## Phases -/

/-- What there is of a game. -/
inductive Phase where
  | notCreated
  /-- Player 1 is alone. -/
  | waiting
  | full
  /-- The game has ended, and player 1 is alone. -/
  | endedWaiting
  | endedFull
  /-- Player 1 has left, and player 2 is alone. -/
  | abandoned
  | deleted
  deriving DecidableEq, Repr

/-- What a request is for one game. -/
inductive LifeMove where
  | create
  | join
  | leave1
  | leave2
  /-- A player who is not in the game leaves it. -/
  | outsider
  | idle
  deriving DecidableEq, Repr

/-- The life of a game. -/
def life : Machine Phase LifeMove Unit where
  step
    | .notCreated, .create => (.waiting, ())
    | .waiting, .join => (.full, ())
    | .waiting, .leave1 => (.deleted, ())
    | .waiting, .outsider => (.endedWaiting, ())
    | .full, .leave1 => (.abandoned, ())
    | .full, .leave2 => (.endedWaiting, ())
    | .full, .outsider => (.endedFull, ())
    | .endedWaiting, .join => (.endedFull, ())
    | .endedWaiting, .leave1 => (.deleted, ())
    | .endedFull, .leave1 => (.abandoned, ())
    | .endedFull, .leave2 => (.endedWaiting, ())
    | .abandoned, .leave2 => (.deleted, ())
    | phase, _ => (phase, ())

namespace Phase

/-- How far a game has come. -/
def rank : Phase → ℕ
  | notCreated => 0
  | waiting => 1
  | full => 2
  | endedWaiting => 3
  | endedFull => 3
  | abandoned => 4
  | deleted => 5

theorem rank_le_next (phase : Phase) (move : LifeMove) :
    phase.rank ≤ (life.next phase move).rank := by
  cases phase <;> cases move <;> decide

theorem rank_le_run (phase : Phase) (moves : List LifeMove) :
    phase.rank ≤ (life.run phase moves).rank := by
  induction moves generalizing phase with
  | nil => exact le_rfl
  | cons move moves ih => exact (phase.rank_le_next move).trans (ih (life.next phase move))

end Phase

/-! ## The phase of a stored game -/

/-- The phase of a row. -/
def GameEntity.phase (game : GameEntity) : Phase :=
  match game.player1, game.player2 with
  | some _, none => if game.gameState = .gameEnded then .endedWaiting else .waiting
  | some _, some _ => if game.gameState = .gameEnded then .endedFull else .full
  | none, some _ => .abandoned
  | none, none => .deleted

/-- The phase of the game with the given key.  Without a row it depends on whether the
sequence has passed the key. -/
def World.phase (w : World) (g : ℤ) : Phase :=
  match GameRepository.rowOf w.games g with
  | some game => game.phase
  | none => if w.nextGameId ≤ g then .notCreated else .deleted

/-- What a request is for the game with the given key. -/
def lifeMove (g : ℤ) (w : World) (call : Call) : LifeMove :=
  match call.request with
  | .createGameAndPlayer request =>
      if w.nextGameId = g ∧
          (PlayerRepository.columns request.username request.sessionId).isSome then .create
      else .idle
  | .joinGame request =>
      if request.gameId = some g ∧
          (PlayerRepository.columns request.username request.sessionId).isSome then .join
      else .idle
  | .leaveGame request =>
      if request.gameId = some g then
        match GameRepository.rowOf w.games g, sessionLookup w.players request.playerSession with
        | some game, .ok (some player) =>
            if game.player1 = some player.playerId then .leave1
            else if game.player2 = some player.playerId then .leave2
            else .outsider
        | _, _ => .idle
      else .idle
  | _ => .idle

section Rows

variable {games : List GameEntity} {g : ℤ}

theorem rowOf_save_of_ne {game : GameEntity} (hne : game.gameId ≠ g) :
    GameRepository.rowOf (Rows.save GameEntity.gameId game games) g =
      GameRepository.rowOf games g :=
  Rows.find?_save_of_ne GameEntity.gameId hne games

theorem rowOf_closeGame_of_ne {w : World} {game : GameEntity} (hne : game.gameId ≠ g) :
    GameRepository.rowOf (w.closeGame game).games g = GameRepository.rowOf w.games g := by
  unfold World.closeGame
  split_ifs
  · refine Rows.find?_selection (fun row hrow => ?_) w.games
    have hkey : row.gameId = g := by simpa using hrow
    simpa [hkey] using hne.symm
  · exact rowOf_save_of_ne hne

/-- A game with nobody in it is deleted. -/
theorem rowOf_closeGame_empty {w : World} {game : GameEntity}
    (hempty : game.player1 = none ∧ game.player2 = none) :
    GameRepository.rowOf (w.closeGame game).games game.gameId = none := by
  unfold World.closeGame
  rw [if_pos hempty]
  refine List.find?_eq_none.2 fun row hrow => ?_
  simpa using (List.mem_filter.1 hrow).2

end Rows

/-- The phase depends on the row, and on whether the key was given out. -/
theorem World.phase_eq {w w' : World} {g : ℤ}
    (hrow : GameRepository.rowOf w'.games g = GameRepository.rowOf w.games g)
    (hnext : w'.nextGameId = w.nextGameId) : w'.phase g = w.phase g := by
  rw [World.phase, World.phase, hrow, hnext]

theorem World.phase_of_row {w : World} {g : ℤ} {game : GameEntity}
    (hrow : GameRepository.rowOf w.games g = some game) : w.phase g = game.phase := by
  rw [World.phase, hrow]

theorem phase_closeGame_empty {w : World} {game : GameEntity}
    (hempty : game.player1 = none ∧ game.player2 = none) (hissued : game.gameId < w.nextGameId) :
    (w.closeGame game).phase game.gameId = .deleted := by
  rw [World.phase, rowOf_closeGame_empty hempty, World.nextGameId_closeGame]
  exact if_neg (not_le.2 hissued)

theorem phase_closeGame {w : World} {game : GameEntity}
    (hkey : game.gameId ∈ w.games.map GameEntity.gameId)
    (hsome : ¬ (game.player1 = none ∧ game.player2 = none)) :
    (w.closeGame game).phase game.gameId =
      GameEntity.phase { game with gameState := .gameEnded } :=
  World.phase_of_row (Tables.rowOf_closeGame game hkey hsome)

/-! ## One request -/

theorem life_idle (phase : Phase) : life.next phase .idle = phase := by cases phase <;> rfl

section Requests

variable {w : World} {call : Call} {g : ℤ}

theorem phase_create (h : Tables w) {request : CreateGameRequest}
    (hrequest : call.request = .createGameAndPlayer request) :
    (server.next w call).phase g = life.next (w.phase g) (lifeMove g w call) := by
  simp only [lifeMove, hrequest]
  rw [next_createGameAndPlayer hrequest]
  rcases createGameAndPlayer_cases request w.quiet with
    ⟨hno, hstate⟩ | ⟨name, session, hyes, hstate⟩
  · rw [hstate, if_neg (by simp [hno]), life_idle]
    rfl
  rw [hstate]
  have hnew : GameRepository.rowOf w.games w.nextGameId = none := by
    refine List.find?_eq_none.2 fun row hrow => ?_
    simpa using (h.gameSequence row hrow).ne
  by_cases hg : w.nextGameId = g
  · subst hg
    have hbefore : w.phase w.nextGameId = .notCreated := by
      rw [World.phase, hnew]
      exact if_pos le_rfl
    have hafter : GameRepository.rowOf ((w.quiet.addPlayer name session).addGame
        w.quiet.nextPlayerId).games w.nextGameId = some w.createdGame := rowOf_createdGame h
    rw [if_pos ⟨rfl, by rw [hyes]; rfl⟩, hbefore, World.phase_of_row hafter]
    rfl
  · rw [if_neg (by simp [hg]), life_idle]
    -- another key was given out, so this one is as it was
    have hrow : GameRepository.rowOf (w.games ++ [w.createdGame]) g =
        GameRepository.rowOf w.games g := by
      rw [GameRepository.rowOf, List.find?_append,
        List.find?_cons_of_neg (by simp [World.createdGame, hg])]
      simp [GameRepository.rowOf]
    have hgames : ((w.quiet.addPlayer name session).addGame
        w.quiet.nextPlayerId).games = w.games ++ [w.createdGame] := rfl
    have hnext : ((w.quiet.addPlayer name session).addGame
        w.quiet.nextPlayerId).nextGameId = w.nextGameId + 1 := rfl
    rw [World.phase, World.phase, hgames, hrow, hnext]
    cases GameRepository.rowOf w.games g with
    | some game => rfl
    | none =>
        have hiff : w.nextGameId + 1 ≤ g ↔ w.nextGameId ≤ g := by omega
        simp only [hiff]

/-- A game that is not stored cannot be joined. -/
theorem life_join_of_none (hrow : GameRepository.rowOf w.games g = none) :
    life.next (w.phase g) .join = w.phase g := by
  rw [World.phase, hrow]
  simp only
  split_ifs <;> rfl

/-- A game without a free second seat cannot be joined. -/
theorem life_join_of_full {game : GameEntity}
    (hfull : ¬ (game.player1 ≠ none ∧ game.player2 = none)) :
    life.next game.phase .join = game.phase := by
  unfold GameEntity.phase
  cases h1 : game.player1 with
  | none => cases game.player2 <;> rfl
  | some k1 =>
      cases h2 : game.player2 with
      | none => exact absurd ⟨by simp [h1], h2⟩ hfull
      | some k2 =>
          simp only
          split_ifs <;> rfl

theorem phase_join {request : JoinGameRequest} (hrequest : call.request = .joinGame request) :
    (server.next w call).phase g = life.next (w.phase g) (lifeMove g w call) := by
  simp only [lifeMove, hrequest]
  rw [next_joinGame hrequest]
  rcases joinGame_cases request w.quiet with
    ⟨hid, hstate⟩ | ⟨gameId, hid, hrow, hstate⟩ | ⟨gameId, game, hid, hrow, hcases⟩
  · rw [hstate, if_neg (by simp [hid]), life_idle]
    rfl
  · rw [hstate]
    show w.phase g = _
    split_ifs with hjoin
    · obtain rfl : gameId = g := by simpa [hid] using hjoin.1
      exact (life_join_of_none hrow).symm
    · rw [life_idle]
  rcases hcases with
    ⟨hno, hstate⟩ | ⟨name, session, hyes, ⟨hfull, hstate⟩ | ⟨hp1, hp2, hstate⟩⟩
  · rw [hstate, if_neg (by simp [hno]), life_idle]
    rfl
  · rw [hstate]
    show w.phase g = _
    split_ifs with hjoin
    · obtain rfl : gameId = g := by simpa [hid] using hjoin.1
      rw [World.phase_of_row (w := w) hrow, life_join_of_full hfull]
    · rw [life_idle]
  · rw [hstate]
    obtain ⟨hmem, hgameId⟩ := Tables.mem_of_rowOf hrow
    by_cases hg : gameId = g
    · subst hg
      rw [if_pos ⟨hid, by rw [hyes]; rfl⟩, World.phase_of_row (w := w) hrow]
      have hseated : GameRepository.rowOf ((w.quiet.addPlayer name session).seat game
          w.quiet.nextPlayerId).games gameId =
            some { game with player2 := some w.quiet.nextPlayerId } := by
        rw [← hgameId]
        exact Rows.find?_save GameEntity.gameId
          (r := { game with player2 := some w.quiet.nextPlayerId })
          (List.mem_map.2 ⟨game, hmem, rfl⟩)
      rw [World.phase_of_row hseated]
      obtain ⟨k1, hk1⟩ := Option.ne_none_iff_exists'.1 hp1
      simp only [GameEntity.phase, hk1, hp2]
      split_ifs <;> rfl
    · rw [if_neg (by simp [hid, hg]), life_idle]
      exact World.phase_eq (rowOf_save_of_ne (by rw [hgameId]; exact hg)) rfl

/-- A leave writes no other row. -/
theorem phase_vacated_of_ne (rows shuffle : CardOrder) {game : GameEntity}
    (hne : game.gameId ≠ g) (player : PlayersEntity) :
    ((vacated rows shuffle player game w).2.closeGame
        (vacated rows shuffle player game w).1).phase g = w.phase g := by
  have hframe : (vacated rows shuffle player game w).1.gameId = game.gameId ∧
      (vacated rows shuffle player game w).2.games = w.games := by
    unfold vacated
    split_ifs <;> exact ⟨rfl, rfl⟩
  obtain ⟨hid, hgames⟩ := hframe
  refine World.phase_eq ?_ (vacated_closeGame_frame rows shuffle player game w).2.2.2.2.2
  rw [rowOf_closeGame_of_ne (by rw [hid]; exact hne), hgames]

/-- **A player leaves.**  The row of the game is written or, with nobody left in it,
deleted. -/
theorem phase_vacated (h : Tables w) (rows shuffle : CardOrder) {game : GameEntity}
    (hgame : game ∈ w.games) {player : PlayersEntity} (hplayer : player ∈ w.players) :
    ((vacated rows shuffle player game w).2.closeGame
        (vacated rows shuffle player game w).1).phase game.gameId =
      life.next game.phase
        (if game.player1 = some player.playerId then .leave1
          else if game.player2 = some player.playerId then .leave2
          else .outsider) := by
  have hkey : game.gameId ∈ w.games.map GameEntity.gameId := List.mem_map_of_mem hgame
  have hissued : game.gameId < w.nextGameId := h.gameSequence game hgame
  have hsome := h.not_empty hgame
  simp only [vacated, h.playerOf_eq_some hplayer]
  by_cases h1 : game.player1 = some player.playerId
  · rw [if_pos h1, if_pos h1]
    by_cases h2 : game.player2 = none
    · refine Eq.trans (phase_closeGame_empty ?_ ?_) ?_
      · exact ⟨rfl, h2⟩
      · exact hissued
      simp only [GameEntity.phase, h1, h2]
      split_ifs <;> rfl
    · refine Eq.trans (phase_closeGame ?_ ?_) ?_
      · exact hkey
      · exact fun hempty => h2 hempty.2
      obtain ⟨k2, hk2⟩ := Option.ne_none_iff_exists'.1 h2
      simp only [GameEntity.phase, h1, hk2]
      split_ifs <;> rfl
  rw [if_neg h1, if_neg h1]
  by_cases h2 : game.player2 = some player.playerId
  · rw [if_pos h2, if_pos h2]
    by_cases h1' : game.player1 = none
    · refine Eq.trans (phase_closeGame_empty ?_ ?_) ?_
      · exact ⟨h1', rfl⟩
      · exact hissued
      simp only [GameEntity.phase, h1', h2]
      rfl
    · refine Eq.trans (phase_closeGame ?_ ?_) ?_
      · exact hkey
      · exact fun hempty => h1' hempty.1
      obtain ⟨k1, hk1⟩ := Option.ne_none_iff_exists'.1 h1'
      simp only [GameEntity.phase, hk1, h2]
      split_ifs <;> rfl
  · rw [if_neg h2, if_neg h2]
    refine (phase_closeGame hkey hsome).trans ?_
    cases h1' : game.player1 with
    | none =>
        cases h2' : game.player2 with
        | none => exact absurd ⟨h1', h2'⟩ hsome
        | some k2 =>
            simp only [GameEntity.phase, h1', h2']
            rfl
    | some k1 =>
        cases h2' : game.player2 with
        | none =>
            simp only [GameEntity.phase, h1', h2']
            split_ifs <;> rfl
        | some k2 =>
            simp only [GameEntity.phase, h1', h2']
            split_ifs <;> rfl

theorem phase_leave (h : Tables w) {request : LeaveGameRequest}
    (hrequest : call.request = .leaveGame request) :
    (server.next w call).phase g = life.next (w.phase g) (lifeMove g w call) := by
  simp only [lifeMove, hrequest]
  obtain ⟨ms, hsent⟩ := leaveGame_state call.rows call.shuffle request w.quiet
  rw [next_leaveGame hrequest, hsent]
  show ((GameService.leaveGame call.rows call.shuffle request w.quiet).2).phase g = _
  rcases leaveGame_cases call.rows call.shuffle request w.quiet with
    ⟨e, hstate, hwhy⟩ | ⟨gameId, hid, hwhy, hstate⟩ |
    ⟨gameId, game, player, hid, hrow, hlook, hstate⟩
  · -- the session is that of several players, or there is no id
    rw [hstate]
    show w.phase g = _
    split_ifs with hg
    · have hlook : sessionLookup w.players request.playerSession = .error e :=
        hwhy.resolve_left (by simp [hg])
      rw [hlook]
      cases GameRepository.rowOf w.games g <;> exact (life_idle _).symm
    · exact (life_idle _).symm
  · rw [hstate]
    show w.phase g = _
    split_ifs with hg
    · obtain rfl : gameId = g := by simpa [hid] using hg
      rcases hwhy with hnone | hnobody
      · rw [show GameRepository.rowOf w.games gameId = none from hnone]
        exact (life_idle _).symm
      · rw [show sessionLookup w.players request.playerSession = .ok none from hnobody]
        cases GameRepository.rowOf w.games gameId <;> exact (life_idle _).symm
    · exact (life_idle _).symm
  · obtain ⟨hgame, rfl⟩ := Tables.mem_of_rowOf hrow
    obtain ⟨-, hplayer, -⟩ := mem_of_sessionLookup hlook
    -- whether or not the delete of the player is refused, the row is written
    have hphase : ∀ k, ((GameService.leaveGame call.rows call.shuffle request w.quiet).2).phase k =
        ((vacated call.rows call.shuffle player game w.quiet).2.closeGame
          (vacated call.rows call.shuffle player game w.quiet).1).phase k := by
      intro k
      rw [hstate]
      simp only
      split_ifs <;> rfl
    rw [hphase]
    by_cases hg : game.gameId = g
    · subst hg
      have hrow' : GameRepository.rowOf w.games game.gameId = some game := hrow
      have hlook' : sessionLookup w.players request.playerSession = .ok (some player) := hlook
      rw [if_pos hid, hrow', hlook', World.phase_of_row hrow']
      exact phase_vacated h.quiet call.rows call.shuffle hgame hplayer
    · rw [if_neg (by simp [hid, hg]), life_idle]
      exact phase_vacated_of_ne call.rows call.shuffle hg player

/-- **A request moves every game as `life` says.** -/
theorem phase_next (h : Tables w) :
    (server.next w call).phase g = life.next (w.phase g) (lifeMove g w call) := by
  cases hrequest : call.request with
  | createGameAndPlayer request => exact phase_create h hrequest
  | joinGame request => exact phase_join hrequest
  | leaveGame request => exact phase_leave h hrequest
  | _ =>
      -- deals and plays do not touch the games
      have hmove : lifeMove g w call = .idle := by simp only [lifeMove, hrequest]
      rw [hmove, life_idle]
      have hstep := step_next w call
      generalize server.next w call = w' at hstep
      cases hstep with
      | unchanged ms => rfl
      | deal session player hand => rfl
      | play1 playerId c => rfl
      | roundFailed player1Id player2Id gameId c e _ _ hc howner hunplayed hturn hround =>
          have hframe := RoundFrame.of_gameRound hround
          exact World.phase_eq (by rw [hframe.games]; rfl) hframe.nextGameId
      | round player1Id player2Id gameId c v ms _ hc howner hunplayed hturn hround =>
          have hframe := RoundFrame.of_gameRound hround
          show v.phase g = w.phase g
          exact World.phase_eq (by rw [hframe.games]; rfl) hframe.nextGameId
      | _ => simp_all

end Requests

/-! ## Whole runs -/

/-- What the requests of a run are for a game. -/
def lifeMoves (g : ℤ) (w : World) (calls : List Call) : List LifeMove :=
  (server.steps w calls).map fun x => lifeMove g x.1 x.2

theorem Tables.phase_run {w : World} (h : Tables w) (g : ℤ) (calls : List Call) :
    (server.run w calls).phase g = life.run (w.phase g) (lifeMoves g w calls) := by
  induction calls generalizing w with
  | nil => rfl
  | cons call calls ih =>
      have htables : Tables (server.next w call) := h.quiet.step (step_next w call)
      have hmoves : lifeMoves g w (call :: calls) =
          lifeMove g w call :: lifeMoves g (server.next w call) calls := rfl
      rw [Machine.run_cons, ih htables, phase_next h, hmoves, Machine.run_cons]

/-- **Every game follows its life cycle.**  After any requests, the phase of every game is
the one to which the moves that concern it lead; deals, plays and the requests for
other games do not matter.  Whatever comes later, the game does not fall back: a game that
was full waits again only as an ended one, an ended game is not resumed, a game that
player 1 has left is never joined, and a deleted game does not come back. -/
theorem game_follows_lifecycle (deck : Deck) (calls later : List Call) (g : ℤ) :
    let w := server.run (World.initial deck) calls
    let w' := server.run (World.initial deck) (calls ++ later)
    w.phase g = life.run ((World.initial deck).phase g)
      (lifeMoves g (World.initial deck) calls) ∧
    w'.phase g = life.run (w.phase g) (lifeMoves g w later) ∧
    (w.phase g).rank ≤ (w'.phase g).rank := by
  intro w w'
  have hlater : w'.phase g = life.run (w.phase g) (lifeMoves g w later) := by
    show (server.run (World.initial deck) (calls ++ later)).phase g = _
    rw [Machine.run_append]
    exact (tables_run deck calls).phase_run g later
  refine ⟨(Tables.initial deck).phase_run g calls, hlater, ?_⟩
  rw [hlater]
  exact Phase.rank_le_run _ _

end WarCardGame
