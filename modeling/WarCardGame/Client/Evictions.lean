import WarCardGame.Client.Authority
import WarCardGame.Server.Leaving
import WarCardGame.Server.Sessions

/-!
# A stranger can throw out player 2

The answer to a join is published to all browsers, and `websocket.js` follows it
without asking whose join it was: every tab that is connected goes to the page of the
game.  There the leave button leaves for player 1 if the session is theirs, and for
player 2 in every other case.

So a browser that has nothing to do with a game can be taken to its page, and a click
on the leave button removes the player who has just joined.

* `next_join` — the server seats the player and publishes the answer.
* `Browser.event_joinGame`, `Browser.load_gamePlay`, `Browser.leaveGame_stranger` —
  what happens in the browser of the stranger, step by step.
* `stranger_evicts_player2` — **from any state of the network**, the five moves that end
  with the seat empty, the game ended and the player deleted.
-/

namespace WarCardGame

open Lib

/-! ## The server -/

/-- A join that finds a seat. -/
theorem next_join {w : World} (call : Call) {g : ℤ} {username name : String}
    {session : Option String}
    (hrequest : call.request = .joinGame ⟨some g, some username, session⟩) {game : GameEntity}
    (hgame : GameRepository.rowOf w.games g = some game) (h1 : game.player1 ≠ none)
    (h2 : game.player2 = none)
    (hcolumns : PlayerRepository.columns (some username) session = some (name, session)) :
    server.next w call = (w.quiet.addPlayer name session).seat game w.nextPlayerId ∧
      (server.out w call).response = .ok (.joinGame ⟨some game.gameId, session, true⟩) := by
  rw [next_joinGame hrequest, response_joinGame hrequest]
  have hgame' : GameRepository.rowOf w.quiet.games g = some game := hgame
  rcases joinGame_cases ⟨some g, some username, session⟩ w.quiet with
    ⟨hnone, -⟩ | ⟨g', hid, hnone, -⟩ | ⟨g', game', hid, hrow, hjoin⟩
  · cases hnone
  · cases hid
    cases hgame'.symm.trans hnone
  cases hid
  cases hgame'.symm.trans hrow
  rcases hjoin with ⟨hno, -⟩ | ⟨name', session', hstored, ⟨hfull, -⟩ | ⟨-, -, h⟩⟩
  · cases hcolumns.symm.trans hno
  · exact absurd ⟨h1, h2⟩ hfull
  · cases hcolumns.symm.trans hstored
    rw [h]
    exact ⟨rfl, rfl⟩

/-! ## The browser of the stranger -/

namespace Browser

variable {b : Browser} {t : ℕ}

/-- The answer to a join takes any tab to the page of the game. -/
theorem event_joinGame {response : JoinResponse}
    (hinbox : (b.tabs t).inbox = [.joinGame response]) (hfound : response.isFound = true) {g : ℤ}
    (hgame : response.gameId = some g) (random : ℕ → Fin 16) :
    (b.act (.event t 0 random)).2 = [] ∧
      (b.act (.event t 0 random)).1.sessionId = some (getSessionId b.sessionId random) ∧
      ((b.act (.event t 0 random)).1.tabs t).view = .loading (.gameplay (toString g)) := by
  simp only [act, hinbox, List.getElem?_cons_zero, Tab.handle, hfound, if_true, hgame, setTab,
    Function.update_self]
  exact ⟨trivial, trivial, rfl⟩

/-- The page arrives. -/
theorem load_gamePlay {g : ℤ} (hview : (b.tabs t).view = .loading (.gameplay (toString g)))
    {w : World} {number : ℤ} {model : GameController.GamePlayModel}
    (hmodel : (GameController.gamePlayPage number g w).1 = .ok (.gamePlay model)) :
    (b.load w t number).sessionId = b.sessionId ∧
      ((b.load w t number).tabs t).view =
        .gamePlay ((GamePlayPage.render model).adjustLayoutForPlayer b.sessionId) := by
  simp only [load, setTab, Function.update_self, Tab.load, hview, Numerals.readInt_toString, hmodel]
  exact ⟨trivial, trivial⟩

/-- Whoever is not player 1 leaves for player 2. -/
theorem leaveGame_stranger {page : GamePlayPage} (hview : (b.tabs t).view = .gamePlay page)
    {g : ℤ} (hgame : page.gameID = "Game ID: " ++ toString g)
    (hsession : b.sessionId ≠ some page.player1Session) :
    (b.act (.leaveGame t)).2 = [.leave (some g) page.player2Session page.player2Id] := by
  simp only [act, hview, leaveGame, if_neg hsession, gameIdNumber_eq hgame]

/-- The answer to a join arrives at every tab that is connected. -/
theorem inbox_receive (hopen : (b.tabs t).connected = true) (hinbox : (b.tabs t).inbox = [])
    (events : List Event) : ((b.receive events).tabs t).inbox = events := by
  simp only [receive, hopen, if_true, hinbox, List.nil_append]

/-- **The browser of the stranger**, from the answer to the click: it sends nothing until
the click, and then a leave of player 2. -/
theorem stranger_leaves (hopen : (b.tabs t).connected = true) (hinbox : (b.tabs t).inbox = [])
    (response : JoinResponse) (hfound : response.isFound = true) {g : ℤ}
    (hgame : response.gameId = some g) (random : ℕ → Fin 16) {w : World} {number : ℤ}
    {model : GameController.GamePlayModel}
    (hmodel : (GameController.gamePlayPage number g w).1 = .ok (.gamePlay model))
    (hid : model.gameId = g) {s1 session : String} (hs1 : model.player1Session = some s1)
    (hs2 : model.player2Session = some session) (hstranger : getSessionId b.sessionId random ≠ s1) :
    ((b.receive [.joinGame response]).act (.event t 0 random)).2 = [] ∧
      ∃ playerId, ((((b.receive [.joinGame response]).act (.event t 0 random)).1.load w t
        number).act (.leaveGame t)).2 = [.leave (some g) session playerId] := by
  obtain ⟨hsilent, hsession, hloading⟩ :=
    event_joinGame (inbox_receive hopen hinbox [.joinGame response]) hfound hgame random
  obtain ⟨hsession', hpage⟩ := load_gamePlay hloading hmodel
  set page := (GamePlayPage.render model).adjustLayoutForPlayer
    ((b.receive [.joinGame response]).act (.event t 0 random)).1.sessionId with hdef
  have hidentity : page.identity = (GamePlayPage.render model).identity := by
    rw [hdef, GamePlayPage.adjustLayoutForPlayer]
    split_ifs <;> rfl
  simp only [GamePlayPage.identity, GamePlayPage.render, hid, hs1, hs2, Option.getD_some,
    List.cons.injEq, and_true] at hidentity
  obtain ⟨hgameID, hplayer1, hplayer2, -, -⟩ := hidentity
  refine ⟨hsilent, page.player2Id, ?_⟩
  rw [leaveGame_stranger hpage hgameID, hplayer2]
  rw [hsession', hsession, hplayer1]
  intro hsame
  exact hstranger (Option.some.inj hsame)

end Browser

/-! ## The player who has joined -/

section Joined

variable {w : World} {g : ℤ} {game : GameEntity} (name : String) {session : String}

/-- The state after the join. -/
def World.joined (w : World) (game : GameEntity) (name session : String) : World :=
  (w.quiet.addPlayer name (some session)).seat game w.nextPlayerId

/-- The row of the game after the join. -/
theorem rowOf_joined (session : String) (hgame : GameRepository.rowOf w.games g = some game) :
    GameRepository.rowOf (w.joined game name session).games g =
      some { game with player2 := some w.nextPlayerId } := by
  obtain ⟨hmem, rfl⟩ := Tables.mem_of_rowOf hgame
  exact Rows.find?_save GameEntity.gameId (r := { game with player2 := some w.nextPlayerId })
    (List.mem_map.2 ⟨game, hmem, rfl⟩)

/-- Nobody else has the session, so the lookup finds the player who has joined. -/
theorem sessionLookup_joined (hfresh : some session ∉ w.sessions) :
    sessionLookup (w.joined game name session).players (some session) =
      .ok (some ⟨w.nextPlayerId, name, some session⟩) := by
  have hnone : w.players.filter (fun p => p.sessionId = some session) = [] := by
    refine List.filter_eq_nil_iff.2 fun p hp hsession => hfresh ?_
    rw [← of_decide_eq_true hsession]
    exact List.mem_map_of_mem hp
  refine sessionLookup_singleton ?_
  show (w.players ++ [_]).filter _ = _
  rw [List.filter_append, hnone, List.nil_append, List.filter_singleton]
  simp [World.newPlayer, World.quiet]

/-- The page of the game shows the sessions of the two players. -/
theorem page_joined (htables : Tables (w.joined game name session))
    (hgame : GameRepository.rowOf w.games g = some game) {p1 : PlayersEntity}
    (hp1 : p1 ∈ w.players) (hkey : game.player1 = some p1.playerId) (number : ℤ) :
    ∃ model, (GameController.gamePlayPage number g (w.joined game name session)).1 =
        .ok (.gamePlay model) ∧
      model.gameId = g ∧ model.player1Session = p1.sessionId ∧
      model.player2Session = some session := by
  have hplayer1 : GameService.playerOf (w.joined game name session).players game.player1 =
      some p1 := (htables.playerOf_eq_some (List.mem_append_left _ hp1)).2 hkey
  have hplayer2 : GameService.playerOf (w.joined game name session).players
      (some w.nextPlayerId) = some ⟨w.nextPlayerId, name, some session⟩ :=
    (htables.playerOf_eq_some (List.mem_append_right _ (List.mem_singleton_self _))).2 rfl
  have hmodel := gamePlayPage_stored number (rowOf_joined name session hgame)
  simp only [hplayer1] at hmodel
  exact ⟨_, congrArg Prod.fst hmodel, rfl, rfl, by simp only [hplayer2]; rfl⟩

/-- The player who has joined leaves again. -/
theorem next_leave_joined (htables : Tables (w.joined game name session))
    (hgame : GameRepository.rowOf w.games g = some game) (h1 : game.player1 ≠ none)
    (hne : game.player1 ≠ some w.nextPlayerId) (hfresh : some session ∉ w.sessions) {call : Call}
    (hrequest : call.request = .leaveGame ⟨some g, some session⟩) :
    w.nextPlayerId ∉ (server.next (w.joined game name session) call).playerIds ∧
      GameRepository.rowOf (server.next (w.joined game name session) call).games g =
        some { game with player2 := none, winner := game.player1, gameState := .gameEnded } := by
  have hrow := rowOf_joined name session hgame
  obtain ⟨ms, hnext⟩ := htables.next_leave hrequest hrow (sessionLookup_joined name hfresh)
    (by simp [GameEntity.seats])
  have hwithout : ({ game with player2 := some w.nextPlayerId } : GameEntity).withoutPlayer
      w.nextPlayerId = { game with player2 := none, winner := game.player1 } := by
    rw [GameEntity.withoutPlayer, if_neg hne]
  rw [hnext, hwithout]
  refine ⟨?_, ?_⟩
  · intro hmem
    obtain ⟨p, hp, hid⟩ := List.mem_map.1 hmem
    have hdropped := (List.mem_filter.1 hp).2
    simp [hid] at hdropped
  · obtain ⟨hmem, hid⟩ := Tables.mem_of_rowOf hrow
    have hid' : game.gameId = g := hid
    show GameRepository.rowOf (World.closeGame _ _).games g = _
    rw [World.closeGame, if_neg (by simp [h1])]
    rw [← hid']
    exact Rows.find?_save GameEntity.gameId
      (r := { game with player2 := none, winner := game.player1, gameState := .gameEnded })
      (List.mem_map.2 ⟨_, hmem, rfl⟩)

end Joined

/-! ## The five moves -/

variable {β : Type} [DecidableEq β]

/-- The join is served. -/
theorem serve_join {w : World} {g : ℤ} {game : GameEntity} {username name session : String}
    (hgame : GameRepository.rowOf w.games g = some game) (h1 : game.player1 ≠ none)
    (h2 : game.player2 = none)
    (hcolumns : PlayerRepository.columns (some username) (some session) =
      some (name, some session))
    (choice : CardOrder × CardOrder) :
    network.serve w (.join (some g) username session) choice =
      (w.joined game name session, [.joinGame ⟨some game.gameId, some session, true⟩]) := by
  obtain ⟨hnext, hresponse⟩ := next_join
    ⟨.joinGame ⟨some g, some username, some session⟩, choice.1, choice.2⟩ rfl hgame h1 h2 hcolumns
  have hsent : (server.out w ⟨.joinGame ⟨some g, some username, some session⟩, choice.1,
      choice.2⟩).sent = [] := by
    show (server.next w _).sent = []
    rw [hnext]
    rfl
  rw [network_serve rfl, eventsOf, hresponse, hsent]
  exact congrArg₂ Prod.mk hnext rfl

/-- **A stranger throws out player 2.**  Take any state of the network in which a join
is on its way for a game with a free second seat, with a name that its column takes and
by a session that no stored player has, and any browser with an open home page, or with
the page of any other game, whose session is not that of player 1.  When the join is
served, the stranger's page follows it; the stranger clicks on the leave button; and when
this is served the player who has joined is deleted, the seat is empty again and the game
has ended, with player 1 as its winner. -/
theorem stranger_evicts_player2 (deck : Deck) (moves : List (NetMove β)) (j : ℕ) (a : β) (g : ℤ)
    (username name session : String)
    (hframe : (netRun β deck moves).requests[j]? = some (a, .join (some g) username session))
    (game : GameEntity)
    (hgame : GameRepository.rowOf (netRun β deck moves).server.games g = some game)
    (h1 : game.player1 ≠ none) (h2 : game.player2 = none)
    (hname : Varchar.store 50 username = some name)
    (hfresh : some session ∉ (netRun β deck moves).server.sessions) (c : β) (t : ℕ)
    (hopen : (((netRun β deck moves).clients c).tabs t).connected = true)
    (hinbox : (((netRun β deck moves).clients c).tabs t).inbox = []) (random : ℕ → Fin 16)
    (hstranger : ∀ p ∈ (netRun β deck moves).server.players, game.player1 = some p.playerId →
      p.sessionId ≠ some (getSessionId ((netRun β deck moves).clients c).sessionId random))
    (number : ℤ) (choice choice' : CardOrder × CardOrder) :
    let n := netRun β deck moves
    let w := (network.machine.run n [.serve j choice, .act c (.event t 0 random),
      .visit c (t, number), .act c (.leaveGame t), .serve (n.requests.length - 1) choice']).server
    n.server.nextPlayerId ∉ w.playerIds ∧
      GameRepository.rowOf w.games g =
        some { game with player2 := none, winner := game.player1, gameState := .gameEnded } := by
  intro n w
  have hsound := sound_any deck moves
  have htables : Tables n.server := hsound.server.tables
  obtain ⟨hmem, rfl⟩ := Tables.mem_of_rowOf hgame
  have hown : OwnSession (fun _ _ => True) a session :=
    hsound.requests (a, .join (some game.gameId) username session) (List.mem_of_getElem? hframe)
  have hcolumns := hown.columns_eq hname
  set w₁ : World := n.server.joined game name session with hw₁
  have hserve := serve_join hgame h1 h2 hcolumns choice
  have htables₁ : Tables w₁ := by
    have hstep := htables.quiet.step (step_next n.server
      ⟨.joinGame ⟨some game.gameId, some username, some session⟩, choice.1, choice.2⟩)
    rwa [(next_join _ rfl hgame h1 h2 hcolumns).1] at hstep
  -- player 1 is stored, with another session than the stranger's
  obtain ⟨k1, hk1⟩ := Option.ne_none_iff_exists'.1 h1
  obtain ⟨p1, hp1, rfl⟩ : ∃ p ∈ n.server.players, p.playerId = k1 := by
    refine List.mem_map.1 (htables.seatStored k1 (List.mem_flatMap.2 ⟨game, hmem, ?_⟩))
    simp [GameEntity.seats, hk1]
  obtain ⟨s1, hs1, -⟩ := hsound.server.sessions p1 hp1
  have hother : getSessionId (n.clients c).sessionId random ≠ s1 := by
    intro hsame
    exact hstranger p1 hp1 hk1 (by rw [hs1, ← hsame])
  have hne : game.player1 ≠ some n.server.nextPlayerId := by
    intro hsame
    have hlt := htables.playerSequence _ (List.mem_map_of_mem hp1)
    rw [Option.some.inj (hk1.symm.trans hsame)] at hlt
    exact lt_irrefl _ hlt
  obtain ⟨model, hmodel, hid, hm1, hm2⟩ := page_joined name htables₁ hgame hp1 hk1 number
  obtain ⟨hsilent, playerId, hleave⟩ := Browser.stranger_leaves hopen hinbox
    ⟨some game.gameId, some session, true⟩ rfl rfl random hmodel hid (hm1.trans hs1) hm2 hother
  -- the five moves, one after the other
  have hlast : w = (network.serve w₁ (.leave (some game.gameId) session playerId) choice').1 := by
    refine (Network.run_reaction (.leave (some game.gameId) session playerId) hframe ?_ ?_).trans ?_
    · rw [hserve]
      exact hsilent
    · rw [hserve]
      exact hleave
    · rw [hserve]
  rw [hlast, network_serve rfl]
  exact next_leave_joined name htables₁ hgame h1 hne hfresh rfl

/-- Three browsers: the first has opened game 1, the join of the second is on its way,
and the third has just opened the home page. -/
def joinOnItsWay : List (NetMove (Fin 3)) :=
  [.act 0 (.goto 0 .home), .visit 0 (0, 7), .act 0 (.submitUsername 0 annDigits "Ann"),
    .serve 0 (.same, .same), .act 1 (.goto 0 .home), .visit 1 (0, 7),
    .act 1 (.submitGameId 0 bobDigits "1" "Bob"), .act 2 (.goto 0 .home), .visit 2 (0, 7)]

theorem stranger_evicts_player2_joinOnItsWay :
    GameRepository.rowOf (network.machine.run (netRun (Fin 3) migratedDeck joinOnItsWay)
      [.serve 0 (.same, .same), .act 2 (.event 0 0 fun _ => 2), .visit 2 (0, 7),
        .act 2 (.leaveGame 0), .serve 0 (.same, .same)]).server.games 1 =
      some ⟨1, some 1, none, some 1, .gameEnded⟩ := by
  have hrequests : (netRun (Fin 3) migratedDeck joinOnItsWay).requests =
      [(1, .join (some 1) "Bob" (generateUUID bobDigits))] := by decide +kernel
  have hplayers : (netRun (Fin 3) migratedDeck joinOnItsWay).server.players =
      [⟨1, "Ann", some (generateUUID annDigits)⟩] := by decide +kernel
  have hsession : ((netRun (Fin 3) migratedDeck joinOnItsWay).clients 2).sessionId = none := by
    decide +kernel
  have hother : generateUUID annDigits ≠ generateUUID fun _ => 2 := by decide +kernel
  have h := stranger_evicts_player2 migratedDeck joinOnItsWay 0 1 1 "Bob" "Bob"
    (generateUUID bobDigits) (by rw [hrequests]; rfl) ⟨1, some 1, none, none, .newGame⟩
    (by decide +kernel) (by decide) rfl (by decide +kernel) (by decide +kernel) 2 0
    (by decide +kernel) (by decide +kernel) (fun _ => 2)
    (by
      rw [hplayers, hsession]
      intro p hp _ hsame
      rw [List.mem_singleton.1 hp] at hsame
      exact hother (Option.some.inj hsame)) 7 (.same, .same) (.same, .same)
  simp only [hrequests] at h
  exact h.2

end WarCardGame
