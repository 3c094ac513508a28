import WarCardGame.Server.Tables

/-!
# The lobby: rows of games, joins, leaves and the page

What the requests do to one row of the game table, and what the clients see of
it.

* `RowStep`, `Tables.row_origin` — everything a request can do to a row that
  stays in the table.
* `ended_game_row` — a game that has ended stays ended; while player 1 is in it
  the other seat can be filled and left again, and once player 1 has left, the
  row never changes.
* `game_page_iff` — the page of a game can be shown exactly when the game is not
  stored or player 1 is in it.
* `join_answered_iff` — a join seats its player or answers that there is no seat,
  except where the service's `null` is used without a test.
* `outsider_leave_iff` — when a leave by a player of another game touches
  nothing.
-/

namespace WarCardGame

open Lib

/-! ## What a request does to the row of a game -/

/-- What a request can do to the row of a game that stays in the table. -/
inductive RowStep (w : World) (call : Call) (g : GameEntity) : GameEntity → Prop where
  | same : RowStep w call g g
  /-- The empty second seat is filled. -/
  | join (name : String) (session : Option String)
      (hrequest : call.request = .joinGame ⟨some g.gameId, some name, session⟩)
      (hplayer1 : g.player1 ≠ none) (hplayer2 : g.player2 = none) :
      RowStep w call g { g with player2 := some w.nextPlayerId }
  /-- Player 1 leaves player 2 behind. -/
  | leave1 (player : PlayersEntity) (hplayer : player ∈ w.players)
      (hrequest : call.request = .leaveGame ⟨some g.gameId, player.sessionId⟩)
      (hplayer1 : g.player1 = some player.playerId) (hplayer2 : g.player2 ≠ none) :
      RowStep w call g { g with player1 := none, winner := g.player2, gameState := .gameEnded }
  /-- Player 2 leaves player 1 behind. -/
  | leave2 (player : PlayersEntity) (hplayer : player ∈ w.players)
      (hrequest : call.request = .leaveGame ⟨some g.gameId, player.sessionId⟩)
      (hplayer2 : g.player2 = some player.playerId) (hplayer1 : g.player1 ≠ none) :
      RowStep w call g { g with player2 := none, winner := g.player1, gameState := .gameEnded }
  /-- A player who is in neither seat leaves. -/
  | outsider (player : PlayersEntity) (hplayer : player ∈ w.players)
      (hrequest : call.request = .leaveGame ⟨some g.gameId, player.sessionId⟩)
      (hnot : player.playerId ∉ g.seats) : RowStep w call g { g with gameState := .gameEnded }

/-- A closed game is gone, or its row says so. -/
theorem mem_games_closeGame {w : World} {game g : GameEntity} (hg : g ∈ (w.closeGame game).games) :
    (g ∈ w.games ∧ g.gameId ≠ game.gameId) ∨
      (g = { game with gameState := .gameEnded } ∧
        ¬ (game.player1 = none ∧ game.player2 = none)) := by
  unfold World.closeGame at hg
  split_ifs at hg with hempty
  · obtain ⟨hold, hne⟩ := List.mem_filter.1 hg
    exact Or.inl ⟨hold, by simpa using hne⟩
  · rcases (Rows.mem_save GameEntity.gameId).1 hg with hold | ⟨rfl, -⟩
    · exact Or.inl hold
    · exact Or.inr ⟨rfl, hempty⟩

namespace Tables

variable {w w' : World}

/-- The row of a game after a player has left: another game's row is as it was. -/
theorem row_leave (h : Tables w) {call : Call} {game : GameEntity} (hgame : game ∈ w.games)
    {player : PlayersEntity} (hplayer : player ∈ w.players)
    (hrequest : call.request = .leaveGame ⟨some game.gameId, player.sessionId⟩) {g' : GameEntity}
    (hg' : g' ∈ ((vacated call.rows call.shuffle player game w).2.closeGame
      (vacated call.rows call.shuffle player game w).1).games) :
    ∃ g ∈ w.games, g.gameId = g'.gameId ∧ RowStep w call g g' := by
  have hkept : ∀ game' : GameEntity, g' ∈ w.games ∧ g'.gameId ≠ game'.gameId →
      ∃ g ∈ w.games, g.gameId = g'.gameId ∧ RowStep w call g g' := fun _ hold =>
    ⟨g', hold.1, rfl, RowStep.same⟩
  simp only [vacated, h.playerOf_eq_some hplayer] at hg'
  split_ifs at hg' with h1 h2 <;> rcases mem_games_closeGame hg' with hold | ⟨rfl, hempty⟩
  · exact hkept _ hold
  · exact ⟨game, hgame, rfl, RowStep.leave1 player hplayer hrequest h1 (by simpa using hempty)⟩
  · exact hkept _ hold
  · exact ⟨game, hgame, rfl, RowStep.leave2 player hplayer hrequest h2 (by simpa using hempty)⟩
  · exact hkept _ hold
  · refine ⟨game, hgame, rfl, RowStep.outsider player hplayer hrequest ?_⟩
    simp [GameEntity.seats, h1, h2]

/-- **Where a row comes from.**  A row whose key was given out before the request
is what the request made of the row with this key. -/
theorem row_origin (h : Tables w) {call : Call} (hstep : Step w call w') {g' : GameEntity}
    (hg' : g' ∈ w'.games) (hid : g'.gameId < w.nextGameId) :
    ∃ g ∈ w.games, g.gameId = g'.gameId ∧ RowStep w call g g' := by
  have hsame : w'.games = w.games → ∃ g ∈ w.games, g.gameId = g'.gameId ∧ RowStep w call g g' :=
    fun hgames => ⟨g', hgames ▸ hg', rfl, RowStep.same⟩
  cases hstep with
  | unchanged ms => exact hsame rfl
  | create request name session hrequest hcolumns =>
      rcases List.mem_append.1 hg' with hold | hnew
      · exact ⟨g', hold, rfl, RowStep.same⟩
      · rw [List.mem_singleton.1 hnew] at hid
        exact absurd hid (lt_irrefl _)
  | joinFull request gameId name session game => exact hsame rfl
  | join request gameId name session game hrequest hnamed hcolumns hgame hplayer1 hplayer2 =>
      obtain ⟨hmem, rfl⟩ := mem_of_rowOf hgame
      rcases (Rows.mem_save GameEntity.gameId).1 hg' with hold | ⟨rfl, -⟩
      · exact ⟨g', hold.1, rfl, RowStep.same⟩
      · obtain ⟨⟨username, husername, -⟩, -⟩ := PlayerRepository.columns_eq_some_iff.1 hcolumns
        refine ⟨game, hmem, rfl, RowStep.join username request.sessionId ?_ hplayer1 hplayer2⟩
        rw [hrequest, ← hnamed, ← husername]
  | deal session player hand => exact hsame rfl
  | play1 playerId c => exact hsame rfl
  | roundFailed player1Id player2Id gameId c e _ hrequest hc howner hunplayed hturn hround =>
      have hframe := RoundFrame.of_gameRound hround
      exact hsame hframe.games
  | round player1Id player2Id gameId c v ms hrequest hc howner hunplayed hturn hround =>
      have hframe := RoundFrame.of_gameRound hround
      exact hsame hframe.games
  | leaveRefused gameId session game player ms hrequest hgame hplayer hreferenced =>
      obtain ⟨-, hmem, rfl⟩ := mem_of_sessionLookup hplayer
      obtain ⟨hrow, rfl⟩ := mem_of_rowOf hgame
      exact h.row_leave hrow hmem hrequest hg'
  | leave gameId session game player ms hrequest hgame hplayer hreferenced =>
      obtain ⟨-, hmem, rfl⟩ := mem_of_sessionLookup hplayer
      obtain ⟨hrow, rfl⟩ := mem_of_rowOf hgame
      exact h.row_leave hrow hmem hrequest hg'

end Tables

/-- Keys of games are given out in order. -/
theorem Step.nextGameId_le {w w' : World} {call : Call} (hstep : Step w call w') :
    w.nextGameId ≤ w'.nextGameId := by
  have hclose : ∀ (game : GameEntity) (player : PlayersEntity),
      ((vacated call.rows call.shuffle player game w).2.closeGame
        (vacated call.rows call.shuffle player game w).1).nextGameId = w.nextGameId :=
    fun game player =>
      (vacated_closeGame_frame call.rows call.shuffle player game w).2.2.2.2.2
  cases hstep with
  | create request name session => exact (lt_add_one w.nextGameId).le
  | roundFailed player1Id player2Id gameId c e _ hrequest hc howner hunplayed hturn hround =>
      have hframe := RoundFrame.of_gameRound hround
      exact hframe.nextGameId.ge
  | round player1Id player2Id gameId c v ms hrequest hc howner hunplayed hturn hround =>
      have hframe := RoundFrame.of_gameRound hround
      exact hframe.nextGameId.ge
  | leaveRefused gameId session game player ms => exact (hclose game player).ge
  | leave gameId session game player ms => exact (hclose game player).ge
  | _ => exact le_rfl

/-! ## Ended games -/

/-- What is kept of the row `g` of an ended game by the row `g'` it becomes. -/
structure Ended (g g' : GameEntity) : Prop where
  gameState : g'.gameState = .gameEnded
  player1 : g'.player1 = g.player1 ∨ g'.player1 = none
  final : g.player1 = none → g' = g

/-- Marking an ended game as ended changes nothing. -/
theorem GameEntity.endedAgain {g : GameEntity} (h : g.gameState = .gameEnded) :
    { g with gameState := .gameEnded } = g := by
  rw [← h]

theorem RowStep.ended {w : World} {call : Call} {g g₁ g₂ : GameEntity}
    (hstep : RowStep w call g₁ g₂) (h : Ended g g₁) : Ended g g₂ := by
  -- where player 1 had gone, the row is still `g`, and nothing happens to a row without player 1
  have hstays : g₁.player1 ≠ none → g.player1 ≠ none := fun h1 hnone =>
    h1 (by rw [h.final hnone, hnone])
  cases hstep with
  | same => exact h
  | join name session hrequest hplayer1 hplayer2 =>
      exact ⟨h.gameState, h.player1, fun hnone => absurd hnone (hstays hplayer1)⟩
  | leave1 player hplayer hrequest hplayer1 hplayer2 =>
      exact ⟨rfl, Or.inr rfl, fun hnone => absurd hnone (hstays (by simp [hplayer1]))⟩
  | leave2 player hplayer hrequest hplayer2 hplayer1 =>
      exact ⟨rfl, h.player1, fun hnone => absurd hnone (hstays hplayer1)⟩
  | outsider player hplayer hrequest hnot =>
      rw [GameEntity.endedAgain h.gameState]
      exact h

/-- However the run goes on, the row of an ended game keeps what `Ended` says. -/
theorem Tables.ended_run {w : World} (h : Tables w) {g : GameEntity} (hg : g ∈ w.games)
    (hended : g.gameState = .gameEnded) (later : List Call) :
    ∀ g' ∈ (server.run w later).games, g'.gameId = g.gameId → Ended g g' := by
  have hrun := Machine.run_invariant (M := server)
    (I := fun v => Tables v ∧ g.gameId < v.nextGameId ∧
      ∀ g' ∈ v.games, g'.gameId = g.gameId → Ended g g')
    (fun v call hv => ?_) (s := w) ⟨h, h.gameSequence g hg, ?_⟩ later
  · exact hrun.2.2
  · obtain ⟨htables, hlt, hrows⟩ := hv
    have hstep := step_next v call
    refine ⟨htables.quiet.step hstep, lt_of_lt_of_le hlt hstep.nextGameId_le, fun g' hg' hid => ?_⟩
    obtain ⟨g₁, hg₁, hid₁, hrow⟩ := htables.quiet.row_origin hstep hg' (hid ▸ hlt)
    exact hrow.ended (hrows g₁ hg₁ (hid₁.trans hid))
  · intro g' hg' hid
    rw [Rows.eq_of_key_eq GameEntity.gameId h.gameKeys hg' hg hid]
    exact ⟨hended, Or.inl rfl, fun _ => rfl⟩

/-- **An ended game stays ended, and it is final once player 1 has left.**  After
any requests, a further request leaves the row of an ended game as it is, deletes
it, seats a new player in the empty second seat of a game player 1 is still in, or
takes one of its players out and names the other one winner.  And however many
requests follow, as long as the row is stored its game is ended, its player 1 is
the one it had or nobody, and it does not change at all if it had no player 1. -/
theorem ended_game_row (deck : Deck) (calls : List Call) (g : GameEntity)
    (hg : g ∈ (server.run (World.initial deck) calls).games)
    (hended : g.gameState = .gameEnded) :
    let w := server.run (World.initial deck) calls
    (∀ (call : Call), ∀ g' ∈ (server.next w call).games, g'.gameId = g.gameId →
      g' = g ∨
      (∃ name session, call.request = .joinGame ⟨some g.gameId, some name, session⟩ ∧
        g.player1 ≠ none ∧ g.player2 = none ∧
        g' = { g with player2 := some w.nextPlayerId }) ∨
      ∃ player ∈ w.players, call.request = .leaveGame ⟨some g.gameId, player.sessionId⟩ ∧
        g.player1 ≠ none ∧ g.player2 ≠ none ∧
        ((g.player1 = some player.playerId ∧
            g' = { g with player1 := none, winner := g.player2 }) ∨
          (g.player2 = some player.playerId ∧
            g' = { g with player2 := none, winner := g.player1 }))) ∧
    ∀ (later : List Call), ∀ g' ∈ (server.run w later).games, g'.gameId = g.gameId →
      g'.gameState = .gameEnded ∧ (g'.player1 = g.player1 ∨ g'.player1 = none) ∧
        (g.player1 = none → g' = g) := by
  intro w
  have htables : Tables w := tables_run deck calls
  constructor
  · intro call g' hg' hid
    obtain ⟨g₁, hg₁, hid₁, hrow⟩ := htables.quiet.row_origin (step_next w call) hg'
      (hid ▸ htables.gameSequence g hg)
    obtain rfl := Rows.eq_of_key_eq GameEntity.gameId htables.gameKeys hg₁ hg (hid₁.trans hid)
    cases hrow with
    | same => exact Or.inl rfl
    | join name session hrequest hplayer1 hplayer2 =>
        exact Or.inr (Or.inl ⟨name, session, hrequest, hplayer1, hplayer2, rfl⟩)
    | leave1 player hplayer hrequest hplayer1 hplayer2 =>
        refine Or.inr (Or.inr ⟨player, hplayer, hrequest, by simp [hplayer1], hplayer2, ?_⟩)
        rw [← hended]
        exact Or.inl ⟨hplayer1, rfl⟩
    | leave2 player hplayer hrequest hplayer2 hplayer1 =>
        refine Or.inr (Or.inr ⟨player, hplayer, hrequest, hplayer1, by simp [hplayer2], ?_⟩)
        rw [← hended]
        exact Or.inr ⟨hplayer2, rfl⟩
    | outsider player hplayer hrequest hnot => exact Or.inl (GameEntity.endedAgain hended)
  · intro later g' hg' hid
    have h := htables.ended_run hg hended later g' hg' hid
    exact ⟨h.gameState, h.player1, h.final⟩

/-- Two players meet in a game, and the second one leaves it. -/
def endedByPlayer2 : List Call :=
  [⟨.createGameAndPlayer ⟨some "player1", some "session1"⟩, .same, .same⟩,
    ⟨.joinGame ⟨some 1, some "player2", some "session2"⟩, .same, .same⟩,
    ⟨.leaveGame ⟨some 1, some "session2"⟩, .same, .same⟩]

/-- The game has ended, and that stays so. -/
theorem ended_game_row_afterLeave :
    ⟨1, some 1, none, some 1, .gameEnded⟩ ∈
        (server.run (World.initial migratedDeck) endedByPlayer2).games ∧
      ∀ later, ∀ g' ∈ (server.run (server.run (World.initial migratedDeck) endedByPlayer2)
        later).games, g'.gameId = 1 → g'.gameState = .gameEnded := by
  have hg : ⟨1, some 1, none, some 1, .gameEnded⟩ ∈
      (server.run (World.initial migratedDeck) endedByPlayer2).games := by decide +kernel
  refine ⟨hg, fun later g' hg' hid => ?_⟩
  exact ((ended_game_row migratedDeck endedByPlayer2 _ hg rfl).2 later g' hg' hid).1

/-- A third player is seated in the ended game, and becomes its winner when
player 1 leaves. -/
theorem ended_game_not_final :
    let w := server.run (World.initial migratedDeck) endedByPlayer2
    let w₁ := server.next w ⟨.joinGame ⟨some 1, some "player3", some "session3"⟩, .same, .same⟩
    let w₂ := server.next w₁ ⟨.leaveGame ⟨some 1, some "session1"⟩, .same, .same⟩
    w.games = [⟨1, some 1, none, some 1, .gameEnded⟩] ∧
      w₁.games = [⟨1, some 1, some 3, some 1, .gameEnded⟩] ∧
      w₂.games = [⟨1, none, some 3, some 3, .gameEnded⟩] := by
  decide +kernel

/-! ## The page of a game -/

/-- The attributes of a player on the page belong to the slot: those of the stored
player who is in it, or `null`. -/
def Shows (w : World) (slot : Option ℤ) (username session : Option String) (id : Option ℤ) :
    Prop :=
  match slot with
  | none => username = none ∧ session = none ∧ id = none
  | some k => ∃ player ∈ w.players, player.playerId = k ∧ username = some player.username ∧
      session = player.sessionId ∧ id = some k

/-- The page of a game is returned as it should be: `gameNotFound` if there is no
such game, and otherwise the attributes of both slots. -/
def PageShown (w : World) (number gameId : ℤ) : Prop :=
  match GameRepository.rowOf w.games gameId with
  | none => GameController.gamePlayPage number gameId w = (.ok .gameNotFound, w)
  | some game => ∃ model, GameController.gamePlayPage number gameId w = (.ok (.gamePlay model), w) ∧
      model.gameId = gameId ∧
      Shows w game.player1 model.player1Username model.player1Session model.player1 ∧
      Shows w game.player2 model.player2Username model.player2Session model.player2

theorem gamePlayPage_missing {w : World} (number : ℤ) {gameId : ℤ}
    (hrow : GameRepository.rowOf w.games gameId = none) :
    GameController.gamePlayPage number gameId w = (.ok .gameNotFound, w) := by
  have hfind : GameRepository.findById (some gameId) w =
      (.ok (GameRepository.rowOf w.games gameId), w) := rfl
  unfold GameController.gamePlayPage
  rw [Handler.bind_ok hfind, hrow]
  rfl

/-- The page of a stored game, in terms of the players its slots refer to. -/
theorem gamePlayPage_stored {w : World} (number : ℤ) {gameId : ℤ} {game : GameEntity}
    (hrow : GameRepository.rowOf w.games gameId = some game) :
    GameController.gamePlayPage number gameId w =
      match GameService.playerOf w.players game.player1 with
      | none => (.error .nullPointerException, w)
      | some player1 =>
          let player2 := GameService.playerOf w.players game.player2
          (.ok (.gamePlay ⟨gameId, some player1.username, player2.map (·.username),
            player1.sessionId, player2.bind (·.sessionId), some player1.playerId,
            player2.map (·.playerId), number⟩), w) := by
  have hfind : GameRepository.findById (some gameId) w =
      (.ok (GameRepository.rowOf w.games gameId), w) := rfl
  unfold GameController.gamePlayPage
  rw [Handler.bind_ok hfind, hrow]
  simp only
  rw [Handler.bind_ok (Handler.get_apply w)]
  cases GameService.playerOf w.players game.player1 <;> rfl

/-- A slot of a stored game shows the player in it. -/
theorem Tables.shows {w : World} (h : Tables w) {slot : Option ℤ}
    (hslot : ∀ k, slot = some k → k ∈ w.seats) :
    Shows w slot ((GameService.playerOf w.players slot).map (·.username))
      ((GameService.playerOf w.players slot).bind (·.sessionId))
      ((GameService.playerOf w.players slot).map (·.playerId)) := by
  cases slot with
  | none => exact ⟨rfl, rfl, rfl⟩
  | some k =>
      obtain ⟨player, hplayer, rfl⟩ := List.mem_map.1 (h.seatStored k (hslot k rfl))
      rw [(h.playerOf_eq_some hplayer).2 rfl]
      exact ⟨player, hplayer, rfl, rfl, rfl, rfl⟩

/-- **When the page of a game can be shown.**  After any requests, the page of any
game id is returned as it should be exactly if no such game is stored, or player 1
is in the game. -/
theorem game_page_iff (deck : Deck) (calls : List Call) (number gameId : ℤ) :
    let w := server.run (World.initial deck) calls
    PageShown w number gameId ↔
      ∀ game, GameRepository.rowOf w.games gameId = some game → game.player1 ≠ none := by
  intro w
  have htables : Tables w := tables_run deck calls
  unfold PageShown
  rcases hrow : GameRepository.rowOf w.games gameId with _ | game
  · simp only [reduceCtorEq, false_implies, implies_true, iff_true]
    exact gamePlayPage_missing number hrow
  have hseat : ∀ k ∈ game.seats, k ∈ w.seats := fun k hk =>
    List.mem_flatMap.2 ⟨game, (Tables.mem_of_rowOf hrow).1, hk⟩
  have hslot1 : ∀ k, game.player1 = some k → k ∈ w.seats := fun k hk =>
    hseat k (by simp [GameEntity.seats, hk])
  have hslot2 : ∀ k, game.player2 = some k → k ∈ w.seats := fun k hk =>
    hseat k (by simp [GameEntity.seats, hk])
  simp only [Option.some.injEq, forall_eq', gamePlayPage_stored number hrow]
  constructor
  · -- without player 1 the id of player 1 is read from `null`
    rintro ⟨model, hpage, -⟩ hnone
    rw [hnone] at hpage
    cases hpage
  · intro hplayer1
    obtain ⟨k, hk⟩ := Option.ne_none_iff_exists'.1 hplayer1
    obtain ⟨player1, hmem, hid⟩ := List.mem_map.1 (htables.seatStored k (hslot1 k hk))
    have hplayer : GameService.playerOf w.players game.player1 = some player1 :=
      (htables.playerOf_eq_some hmem).2 (hk.trans (congrArg some hid.symm))
    have hshows1 := htables.shows hslot1
    rw [hplayer] at hshows1 ⊢
    exact ⟨_, rfl, rfl, hshows1, htables.shows hslot2⟩

/-- Player 1 leaves a game of two, and its page cannot be shown any more. -/
theorem page_fails_without_player1 :
    let w := server.run (World.initial migratedDeck)
      [⟨.createGameAndPlayer ⟨some "player1", some "session1"⟩, .same, .same⟩,
        ⟨.joinGame ⟨some 1, some "player2", some "session2"⟩, .same, .same⟩,
        ⟨.leaveGame ⟨some 1, some "session1"⟩, .same, .same⟩]
    GameRepository.rowOf w.games 1 = some ⟨1, none, some 2, some 2, .gameEnded⟩ ∧
      (GameController.gamePlayPage 0 1 w).1 = .error .nullPointerException := by
  decide +kernel

/-! ## The answers to joins -/

/-- The game a join names is stored, and waits for its second player. -/
def WaitsFor (w : World) (request : JoinGameRequest) (game : GameEntity) : Prop :=
  ∃ gameId, request.gameId = some gameId ∧ GameRepository.rowOf w.games gameId = some game ∧
    game.player1 ≠ none ∧ game.player2 = none

/-- A join is answered as it should be.  If the game waits for its second player,
one new row is stored and seated there, and the answer names the game; in every
other case the answer is that there is no seat, and no row is written. -/
structure JoinAnswered (w : World) (call : Call) (request : JoinGameRequest) : Prop where
  seated : ∀ game, WaitsFor w request game → ∃ player : PlayersEntity,
    player.playerId ∉ w.playerIds ∧
    PlayerRepository.columns request.username request.sessionId =
      some (player.username, player.sessionId) ∧
    (server.next w call).players = w.players ++ [player] ∧
    (server.next w call).games =
      Rows.save GameEntity.gameId { game with player2 := some player.playerId } w.games ∧
    (server.out w call).response =
      .ok (.joinGame ⟨some game.gameId, request.sessionId, true⟩)
  refused : (∀ game, ¬ WaitsFor w request game) →
    (∃ response, (server.out w call).response = .ok (.joinGame response) ∧
      response.isFound = false) ∧
    (server.next w call).players = w.players ∧ (server.next w call).games = w.games

/-- A join that is answered as it should be is answered. -/
theorem JoinAnswered.response_ok {w : World} {call : Call} {request : JoinGameRequest}
    (h : JoinAnswered w call request) :
    ∃ response, (server.out w call).response = .ok response := by
  by_cases hwaits : ∃ game, WaitsFor w request game
  · obtain ⟨game, hgame⟩ := hwaits
    obtain ⟨player, -, -, -, -, hok⟩ := h.seated game hgame
    exact ⟨_, hok⟩
  · obtain ⟨⟨response, hok, -⟩, -⟩ := h.refused (not_exists.1 hwaits)
    exact ⟨_, hok⟩

/-- The one game a join can be waited for in is the one it names. -/
theorem waitsFor_iff {w : World} {request : JoinGameRequest} {gameId : ℤ} {game : GameEntity}
    (hid : request.gameId = some gameId) (hgame : GameRepository.rowOf w.games gameId = some game)
    (game' : GameEntity) :
    WaitsFor w request game' ↔ game' = game ∧ game.player1 ≠ none ∧ game.player2 = none := by
  constructor
  · rintro ⟨_, hsome, hrow, hseat⟩
    cases hid.symm.trans hsome
    cases hgame.symm.trans hrow
    exact ⟨rfl, hseat⟩
  · rintro ⟨rfl, hseat⟩
    exact ⟨gameId, hid, hgame, hseat⟩

/-- **When a join is answered as it should be.**  After any requests, exactly if
it names a game that is not stored, or one that waits for its second player while
the schema takes the new row: the username is not `null`, neither text has a U+0000,
and beyond the width of its column each has only blanks. -/
theorem join_answered_iff (deck : Deck) (calls : List Call) (call : Call)
    (request : JoinGameRequest) (hrequest : call.request = .joinGame request) :
    let w := server.run (World.initial deck) calls
    JoinAnswered w call request ↔
      (∃ gameId, request.gameId = some gameId ∧ GameRepository.rowOf w.games gameId = none) ∨
      ((∃ game, WaitsFor w request game) ∧
        (∃ name, request.username = some name ∧ Varchar.sendable name = true ∧
          ∀ c ∈ name.toList.drop 50, c = ' ') ∧
        ∀ session, request.sessionId = some session → Varchar.sendable session = true ∧
          ∀ c ∈ session.toList.drop 64, c = ' ') := by
  rw [← PlayerRepository.columns_isSome_iff]
  intro w
  have htables : Tables w := tables_run deck calls
  have hresponse := response_joinGame hrequest w
  have hnext := next_joinGame hrequest w
  have hfails : ∀ e, (server.out w call).response = .error e → ¬ JoinAnswered w call request := by
    intro e herror hjoin
    obtain ⟨response, hok⟩ := hjoin.response_ok
    rw [herror] at hok
    cases hok
  rcases joinGame_cases request w.quiet with ⟨hid, h⟩ | ⟨gameId, hid, hgame, h⟩ |
    ⟨gameId, game, hid, hgame,
      ⟨hno, h⟩ | ⟨name, session, hyes, ⟨hfull, h⟩ | ⟨h1, h2, h⟩⟩⟩ <;> rw [h] at hresponse hnext
  · -- `findById(null)` throws
    refine iff_of_false (hfails _ hresponse) ?_
    simp [WaitsFor, hid]
  · refine iff_of_true ⟨fun game hwaits => ?_, fun _ => ⟨⟨_, hresponse, rfl⟩, ?_, ?_⟩⟩
      (Or.inl ⟨gameId, hid, hgame⟩)
    · obtain ⟨_, hsome, hrow, -⟩ := hwaits
      cases hid.symm.trans hsome
      cases hgame.symm.trans hrow
    · rw [hnext]
      rfl
    · rw [hnext]
      rfl
  all_goals
    have hstored : ¬ ∃ gameId, request.gameId = some gameId ∧
        GameRepository.rowOf w.games gameId = none := by
      rintro ⟨_, hsome, hnone⟩
      cases hid.symm.trans hsome
      cases hgame.symm.trans hnone
    have hwaits := waitsFor_iff (w := w) hid hgame
  · -- the schema refuses the row, whether there is a seat or not
    refine iff_of_false (hfails _ hresponse) ?_
    simp [hstored, hno]
  · -- the row is stored, and the service's `null` is dereferenced
    refine iff_of_false (hfails _ hresponse) ?_
    rintro (hnone | ⟨⟨game', hw⟩, -⟩)
    · exact hstored hnone
    · exact hfull ((hwaits game').1 hw).2
  · have hthis : WaitsFor w request game := (hwaits game).2 ⟨rfl, h1, h2⟩
    refine iff_of_true ⟨fun game' hw => ?_, fun hnot => absurd hthis (hnot game)⟩
      (Or.inr ⟨⟨game, hthis⟩, by rw [hyes]; rfl⟩)
    obtain ⟨rfl, -⟩ := (hwaits game').1 hw
    refine ⟨w.newPlayer name session, htables.newPlayerId_not_mem, hyes, ?_, ?_, hresponse⟩
    · rw [hnext]
      rfl
    · rw [hnext]
      rfl

/-- A username of 50 characters and a blank. -/
def longUsername : String := "Bartholomew Montgomery-Featherstonehaugh the Elder "

/-- The second player of a new game is seated, although the blank at the end of the
username finds no room. -/
theorem join_answered_longUsername :
    JoinAnswered (server.run (World.initial migratedDeck)
        [⟨.createGameAndPlayer ⟨some "player1", some "session1"⟩, .same, .same⟩])
      ⟨.joinGame ⟨some 1, some longUsername, some "session2"⟩, .same, .same⟩
      ⟨some 1, some longUsername, some "session2"⟩ := by
  refine (join_answered_iff migratedDeck _ _ _ rfl).2
    (Or.inr ⟨⟨⟨1, some 1, none, none, .newGame⟩, 1, rfl, ?_, by decide, rfl⟩,
      ⟨longUsername, rfl, by decide +kernel, by simp [longUsername]⟩, fun session hsession => ?_⟩)
  · decide +kernel
  · cases hsession
    exact ⟨by decide +kernel, by simp⟩

/-- A third player who joins a full game gets no answer but an exception, and a row
all the same. -/
theorem join_of_full_game_fails :
    let w := server.run (World.initial migratedDeck)
      [⟨.createGameAndPlayer ⟨some "player1", some "session1"⟩, .same, .same⟩,
        ⟨.joinGame ⟨some 1, some "player2", some "session2"⟩, .same, .same⟩]
    let call : Call := ⟨.joinGame ⟨some 1, some "player3", some "session3"⟩, .same, .same⟩
    GameRepository.rowOf w.games 1 = some ⟨1, some 1, some 2, none, .newGame⟩ ∧
      (server.out w call).response = .error .nullPointerException ∧
      (server.next w call).players = w.players ++ [⟨3, "player3", some "session3"⟩] := by
  decide +kernel

/-! ## Leaves by outsiders -/

/-- The named game's row, the cards, the turn flags and the piles are as before. -/
structure LeftAlone (w w' : World) (gameId : Option ℤ) : Prop where
  game : ∀ id, gameId = some id → GameRepository.rowOf w'.games id = GameRepository.rowOf w.games id
  cards : w'.cards = w.cards
  player1Turn : w'.player1Turn = w.player1Turn
  player2Turn : w'.player2Turn = w.player2Turn
  player1CapturedCards : w'.player1CapturedCards = w.player1CapturedCards
  player2CapturedCards : w'.player2CapturedCards = w.player2CapturedCards

/-- The game a request names is stored. -/
def Named (w : World) (gameId : Option ℤ) (game : GameEntity) : Prop :=
  ∃ id, gameId = some id ∧ GameRepository.rowOf w.games id = some game

/-- A new game, as far as turn and piles go. -/
def World.IsReset (w : World) : Prop :=
  w.player1Turn = true ∧ w.player2Turn = false ∧ w.player1CapturedCards = [] ∧
    w.player2CapturedCards = []

namespace Tables

variable {w : World}

/-- Somebody sits in a stored game. -/
theorem not_empty (h : Tables w) {game : GameEntity} (hgame : game ∈ w.games) :
    ¬ (game.player1 = none ∧ game.player2 = none) := by
  rintro ⟨h1, h2⟩
  exact h.someSeat game hgame (by simp [GameEntity.seats, h1, h2])

/-- A stored game is not deleted when it is closed as it is. -/
theorem closeGame_stored (h : Tables w) {game : GameEntity} (hgame : game ∈ w.games) :
    w.closeGame game = { w with
      games := Rows.save GameEntity.gameId { game with gameState := .gameEnded } w.games } := by
  unfold World.closeGame
  rw [if_neg (h.not_empty hgame)]

/-- Ending a game changes no reference to a player. -/
theorem referenced_closeGame (h : Tables w) {game : GameEntity} (hgame : game ∈ w.games) (k : ℤ) :
    PlayerRepository.referenced (w.closeGame game) k = PlayerRepository.referenced w k := by
  obtain ⟨before, after, hsplit, hsave, -⟩ := Rows.exists_split GameEntity.gameId h.gameKeys hgame
  rw [h.closeGame_stored hgame]
  simp only [PlayerRepository.referenced]
  rw [hsave { game with gameState := .gameEnded } rfl, hsplit]
  simp

/-- The row of a closed game somebody still sits in. -/
theorem rowOf_closeGame (game : GameEntity) (hkey : game.gameId ∈ w.games.map GameEntity.gameId)
    (hsome : ¬ (game.player1 = none ∧ game.player2 = none)) :
    GameRepository.rowOf (w.closeGame game).games game.gameId =
      some { game with gameState := .gameEnded } := by
  unfold World.closeGame
  rw [if_neg hsome]
  exact Rows.find?_save GameEntity.gameId (r := { game with gameState := .gameEnded }) hkey

/-- The lookup of a stored player's session finds the player, or it finds several
and fails. -/
theorem sessionLookup_stored (h : Tables w) {player : PlayersEntity}
    (hplayer : player ∈ w.players) :
    (sessionLookup w.players player.sessionId = .ok (some player) ∧
      ∀ other ∈ w.players, other.sessionId = player.sessionId → other = player) ∨
    ((∃ e, sessionLookup w.players player.sessionId = .error e) ∧
      ∃ other ∈ w.players, other ≠ player ∧ other.sessionId = player.sessionId) := by
  have hfound : ∀ p, p ∈ w.players.filter (fun p => p.sessionId = player.sessionId) ↔
      p ∈ w.players ∧ p.sessionId = player.sessionId := by simp
  have hnodup : (w.players.filter fun p => p.sessionId = player.sessionId).Nodup :=
    (h.playerKeys.of_map _).filter _
  unfold sessionLookup
  generalize w.players.filter (fun p => p.sessionId = player.sessionId) = found at hfound hnodup
  have hmem : player ∈ found := (hfound player).2 ⟨hplayer, rfl⟩
  rcases found with _ | ⟨p, _ | ⟨q, rest⟩⟩
  · exact absurd hmem List.not_mem_nil
  · obtain rfl := List.mem_singleton.1 hmem
    refine Or.inl ⟨rfl, fun other hother hsession => ?_⟩
    exact List.mem_singleton.1 ((hfound other).2 ⟨hother, hsession⟩)
  · refine Or.inr ⟨⟨_, rfl⟩, ?_⟩
    have hpq : p ≠ q := fun hpq => (List.nodup_cons.1 hnodup).1 (hpq ▸ List.mem_cons_self ..)
    -- one of the first two is another player
    by_cases hp : p = player
    · obtain ⟨hq, hsession⟩ := (hfound q).1 (by simp)
      exact ⟨q, hq, fun heq => hpq (hp.trans heq.symm), hsession⟩
    · obtain ⟨hmemp, hsession⟩ := (hfound p).1 (by simp)
      exact ⟨p, hmemp, hp, hsession⟩

/-- A leave that finds no game, or cannot tell its player, changes nothing. -/
theorem leave_unchanged {call : Call} {request : LeaveGameRequest}
    (hrequest : call.request = .leaveGame request)
    (hnone : (∀ game, ¬ Named w request.gameId game) ∨
      ∃ e, sessionLookup w.players request.playerSession = .error e) :
    ∃ ms, server.next w call = w.quiet.send ms := by
  obtain ⟨ms, hstate⟩ := leaveGame_state call.rows call.shuffle request w.quiet
  refine ⟨ms, ?_⟩
  rw [next_leaveGame hrequest, hstate]
  rcases leaveGame_cases call.rows call.shuffle request w.quiet with
    ⟨e, h, -⟩ | ⟨gameId, -, -, h⟩ | ⟨gameId, game, player, hid, hgame, hplayer, -⟩
  · rw [h]
  · rw [h]
  · rcases hnone with hnone | ⟨e, herror⟩
    · exact absurd ⟨gameId, hid, hgame⟩ (hnone game)
    · cases hplayer.symm.trans herror

/-- A leave by one of two players stores the other one as winner. -/
theorem leave_stores_winner (h : Tables w) {call : Call} {gameId : ℤ} {session : Option String}
    (hrequest : call.request = .leaveGame ⟨some gameId, session⟩) {game : GameEntity}
    (hgame : GameRepository.rowOf w.games gameId = some game) {player : PlayersEntity}
    (hplayer : sessionLookup w.players session = .ok (some player)) {k : ℤ}
    (hseats : (game.player1 = some player.playerId ∧ game.player2 = some k) ∨
      (game.player2 = some player.playerId ∧ game.player1 = some k)) :
    ∃ game', GameRepository.rowOf (server.next w call).games gameId = some game' ∧
      game'.winner = some k := by
  obtain ⟨-, hmem, -⟩ := mem_of_sessionLookup hplayer
  obtain ⟨hstored, rfl⟩ := mem_of_rowOf hgame
  obtain ⟨ms, hstate⟩ := leaveGame_state call.rows call.shuffle ⟨some game.gameId, session⟩ w.quiet
  have hservice := leaveGame_found call.rows call.shuffle (w := w.quiet) hgame hplayer
  have hgames : (server.next w call).games =
      ((vacated call.rows call.shuffle player game w.quiet).2.closeGame
        (vacated call.rows call.shuffle player game w.quiet).1).games := by
    rw [next_leaveGame hrequest, hstate, hservice]
    simp only
    split_ifs <;> rfl
  have hkey : game.gameId ∈ w.games.map GameEntity.gameId := List.mem_map_of_mem hstored
  rw [hgames]
  simp only [vacated, h.quiet.playerOf_eq_some hmem]
  by_cases h1 : game.player1 = some player.playerId
  · -- a game of a player against the player has the same winner either way
    have h2 : game.player2 = some k := by
      rcases hseats with ⟨-, h2⟩ | ⟨h2, hk⟩
      · exact h2
      · rw [h2, ← h1, hk]
    rw [if_pos h1]
    exact ⟨_, rowOf_closeGame _ hkey (by simp [h2]), h2⟩
  · obtain ⟨h2, hk⟩ := hseats.resolve_left fun hleft => h1 hleft.1
    rw [if_neg h1, if_pos h2]
    exact ⟨_, rowOf_closeGame _ hkey (by simp [hk]), hk⟩

/-- What a leave does when it finds a stored game and a player who is not in it:
the game is ended, and unless a foreign key still refers to the player, turn and
piles are reset. -/
theorem leave_outsider (h : Tables w) {call : Call} {gameId : ℤ} {session : Option String}
    (hrequest : call.request = .leaveGame ⟨some gameId, session⟩) {game : GameEntity}
    (hgame : GameRepository.rowOf w.games gameId = some game) {player : PlayersEntity}
    (hplayer : sessionLookup w.players session = .ok (some player))
    (hnot : player.playerId ∉ game.seats) :
    ∃ ms, server.next w call =
      (if PlayerRepository.referenced w player.playerId then w.quiet.closeGame game
        else ((w.quiet.closeGame game).dropPlayer player).reset).send ms := by
  obtain ⟨-, hmem, -⟩ := mem_of_sessionLookup hplayer
  have hvacated : vacated call.rows call.shuffle player game w.quiet = (game, w.quiet) := by
    rcases h.quiet.vacated_cases call.rows call.shuffle hmem game with
      ⟨-, hvacated⟩ | ⟨game', -, -, hperm, -⟩
    · exact hvacated
    · exact absurd (hperm.mem_iff.2 (List.mem_cons_self ..)) hnot
  have hservice := leaveGame_found call.rows call.shuffle (w := w.quiet) hgame hplayer
  simp only [hvacated, h.quiet.referenced_closeGame (mem_of_rowOf hgame).1] at hservice
  obtain ⟨ms, hstate⟩ := leaveGame_state call.rows call.shuffle ⟨some gameId, session⟩ w.quiet
  refine ⟨ms, ?_⟩
  rw [next_leaveGame hrequest, hstate, hservice]
  have hquiet : PlayerRepository.referenced w.quiet player.playerId =
      PlayerRepository.referenced w player.playerId := rfl
  rw [hquiet]
  split_ifs <;> rfl

/-- Such a leave touches nothing exactly if the game had ended, and the delete of the
player is refused or there is nothing to reset. -/
theorem leftAlone_outsider_iff (h : Tables w) {call : Call} {gameId : ℤ} {session : Option String}
    (hrequest : call.request = .leaveGame ⟨some gameId, session⟩) {game : GameEntity}
    (hgame : GameRepository.rowOf w.games gameId = some game) {player : PlayersEntity}
    (hplayer : sessionLookup w.players session = .ok (some player))
    (hnot : player.playerId ∉ game.seats) :
    LeftAlone w (server.next w call) (some gameId) ↔
      game.gameState = .gameEnded ∧
        (PlayerRepository.referenced w player.playerId = true ∨ w.IsReset) := by
  obtain ⟨ms, hnext⟩ := h.leave_outsider hrequest hgame hplayer hnot
  obtain ⟨hmem, rfl⟩ := mem_of_rowOf hgame
  have hrow := rowOf_closeGame (w := w.quiet) game (List.mem_map_of_mem hmem) (h.not_empty hmem)
  have hstate : some { game with gameState := .gameEnded } = some game ↔
      game.gameState = .gameEnded := by
    rw [Option.some.injEq]
    exact ⟨fun heq => (congrArg GameEntity.gameState heq).symm, GameEntity.endedAgain⟩
  have hgames : game.gameState = .gameEnded → ∀ id, some game.gameId = some id →
      GameRepository.rowOf (w.quiet.closeGame game).games id =
        GameRepository.rowOf w.games id := by
    rintro hended _ ⟨⟩
    rw [hrow, hgame]
    exact hstate.2 hended
  rw [hnext]
  cases hreferenced : PlayerRepository.referenced w player.playerId with
  | true =>
      rw [if_pos rfl]
      constructor
      · intro hleft
        exact ⟨hstate.1 (hrow.symm.trans ((hleft.game _ rfl).trans hgame)), Or.inl rfl⟩
      · rintro ⟨hended, -⟩
        have hsame := hgames hended
        rw [h.quiet.closeGame_stored (w := w.quiet) hmem] at hsame ⊢
        exact ⟨hsame, rfl, rfl, rfl, rfl, rfl⟩
  | false =>
      rw [if_neg Bool.false_ne_true]
      constructor
      · intro hleft
        refine ⟨hstate.1 (hrow.symm.trans ((hleft.game _ rfl).trans hgame)), Or.inr ?_⟩
        exact ⟨hleft.player1Turn.symm, hleft.player2Turn.symm, hleft.player1CapturedCards.symm,
          hleft.player2CapturedCards.symm⟩
      · rintro ⟨hended, hfalse | ⟨ht1, ht2, hp1, hp2⟩⟩
        · cases hfalse
        · have hsame := hgames hended
          rw [h.quiet.closeGame_stored (w := w.quiet) hmem] at hsame ⊢
          exact ⟨hsame, rfl, ht1.symm, ht2.symm, hp1.symm, hp2.symm⟩

end Tables

/-- **When a leave by an outsider touches nothing.**  After any requests, let the
session of a leave belong to a player who is not in the game it names.  The row of
the game, the cards, the turn and the piles stay as they were exactly if the request
names no stored game, or several players share the session, or the game has ended
already and either something still refers to the player or turn and piles are those
of a new game. -/
theorem outsider_leave_iff (deck : Deck) (calls : List Call) (call : Call)
    (request : LeaveGameRequest) (hrequest : call.request = .leaveGame request)
    (player : PlayersEntity) (hplayer : player ∈ (server.run (World.initial deck) calls).players)
    (hsession : player.sessionId = request.playerSession)
    (houtsider : ∀ game, Named (server.run (World.initial deck) calls) request.gameId game →
      player.playerId ∉ game.seats) :
    let w := server.run (World.initial deck) calls
    LeftAlone w (server.next w call) request.gameId ↔
      (∀ game, ¬ Named w request.gameId game) ∨
      (∃ other ∈ w.players, other ≠ player ∧ other.sessionId = request.playerSession) ∨
      ∃ game, Named w request.gameId game ∧ game.gameState = .gameEnded ∧
        (PlayerRepository.referenced w player.playerId = true ∨ w.IsReset) := by
  intro w
  have htables : Tables w := tables_run deck calls
  have hkept : ∀ ms, LeftAlone w (w.quiet.send ms) request.gameId := fun ms =>
    ⟨fun _ _ => rfl, rfl, rfl, rfl, rfl, rfl⟩
  by_cases hnamed : ∀ game, ¬ Named w request.gameId game
  · obtain ⟨ms, hnext⟩ := Tables.leave_unchanged hrequest (Or.inl hnamed)
    rw [hnext]
    exact iff_of_true (hkept ms) (Or.inl hnamed)
  rw [← hsession]
  rcases htables.sessionLookup_stored hplayer with ⟨hlookup, honly⟩ | ⟨herror, hother⟩
  · obtain ⟨game, gameId, hid, hgame⟩ : ∃ game, Named w request.gameId game := by
      simpa using hnamed
    have honlyGame : ∀ game', Named w request.gameId game' → game' = game := by
      rintro game' ⟨_, hsome, hrow⟩
      cases hid.symm.trans hsome
      exact Option.some.inj (hrow.symm.trans hgame)
    have hthis : Named w request.gameId game := ⟨gameId, hid, hgame⟩
    have hleave : call.request = .leaveGame ⟨some gameId, player.sessionId⟩ := by
      rw [hrequest, hsession, ← hid]
    rw [hid, htables.leftAlone_outsider_iff hleave hgame hlookup (houtsider game hthis), ← hid]
    constructor
    · rintro ⟨hended, hrest⟩
      exact Or.inr (Or.inr ⟨game, hthis, hended, hrest⟩)
    · rintro (hnone | ⟨other, hother, hne, hshared⟩ | ⟨game', hnamed', hended, hrest⟩)
      · exact absurd hthis (hnone game)
      · exact absurd (honly other hother hshared) hne
      · obtain rfl := honlyGame game' hnamed'
        exact ⟨hended, hrest⟩
  · obtain ⟨ms, hnext⟩ := Tables.leave_unchanged hrequest (Or.inr (hsession ▸ herror))
    rw [hnext]
    exact iff_of_true (hkept ms) (Or.inr (Or.inl hother))

/-- Two players have begun a game that a third one found full. -/
def threeSessions : List Call :=
  [⟨.createGameAndPlayer ⟨some "player1", some "session1"⟩, .same, .same⟩,
    ⟨.joinGame ⟨some 1, some "player2", some "session2"⟩, .same, .same⟩,
    ⟨.joinGame ⟨some 1, some "player3", some "session3"⟩, .same, .same⟩,
    ⟨.dealCardsPlayer1 (some "session1"), .same, .same⟩,
    ⟨.dealCardsPlayer2 (some "session2"), .same, .same⟩,
    ⟨.playCardPlayer1 1, .same, .same⟩]

/-- Player 2 has left the game, and the third one was dealt cards and has put one down. -/
def endedGame : List Call :=
  [⟨.createGameAndPlayer ⟨some "player1", some "session1"⟩, .same, .same⟩,
    ⟨.joinGame ⟨some 1, some "player2", some "session2"⟩, .same, .same⟩,
    ⟨.joinGame ⟨some 1, some "player3", some "session3"⟩, .same, .same⟩,
    ⟨.leaveGame ⟨some 1, some "session2"⟩, .same, .same⟩,
    ⟨.dealCardsPlayer1 (some "session3"), .same, .same⟩,
    ⟨.playCardPlayer1 3, .same, .same⟩]

/-- A leave of the third player from the game that has ended touches nothing: the cards
refer to the player, and the delete is refused. -/
theorem outsider_leave_endedGame :
    let w := server.run (World.initial migratedDeck) endedGame
    GameRepository.rowOf w.games 1 = some ⟨1, some 1, none, some 1, .gameEnded⟩ ∧
      LeftAlone w (server.next w ⟨.leaveGame ⟨some 1, some "session3"⟩, .same, .same⟩)
        (some 1) := by
  intro w
  have hrow : GameRepository.rowOf w.games 1 = some ⟨1, some 1, none, some 1, .gameEnded⟩ := by
    decide +kernel
  have houtsider : ∀ game, Named w (some 1) game → (3 : ℤ) ∉ game.seats := by
    rintro game ⟨_, ⟨⟩, hgame⟩
    cases hrow.symm.trans hgame
    decide
  refine ⟨hrow, (outsider_leave_iff migratedDeck endedGame
    ⟨.leaveGame ⟨some 1, some "session3"⟩, .same, .same⟩ ⟨some 1, some "session3"⟩ rfl
    ⟨3, "player3", some "session3"⟩ (by decide +kernel) rfl houtsider).2 ?_⟩
  exact Or.inr (Or.inr ⟨_, ⟨1, rfl, hrow⟩, rfl, Or.inl (by decide +kernel)⟩)

/-- A leave of the third player from the full game ends the game of the other two
and takes the turn from player 2. -/
theorem outsider_leave_ends_game :
    let w := server.run (World.initial migratedDeck) threeSessions
    let w' := server.next w ⟨.leaveGame ⟨some 1, some "session3"⟩, .same, .same⟩
    (⟨3, "player3", some "session3"⟩ ∈ w.players ∧
        GameRepository.rowOf w.games 1 = some ⟨1, some 1, some 2, none, .newGame⟩ ∧
        w.player1Turn = false ∧ w.player2Turn = true) ∧
      GameRepository.rowOf w'.games 1 = some ⟨1, some 1, some 2, none, .gameEnded⟩ ∧
        w'.player1Turn = true ∧ w'.player2Turn = false := by
  decide +kernel

end WarCardGame
