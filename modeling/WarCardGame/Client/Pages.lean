import WarCardGame.Client.Browser
import WarCardGame.Server.Lobby
import WarCardGame.Server.Piles
import WarCardGame.Server.Sessions

/-!
# What the pages say stays true

A page of a game is rendered once and then lives in a browser, while other requests
are served.  The ids and sessions on it are texts that the scripts read back when a
button is clicked, and the server checks nothing but that the ids are stored.

A key is never given out twice and a stored player never changes, so what a page
says about a player is true as long as the player is stored.  That is an invariant of
the network: of the server, of every page in every tab of every browser, and of every
frame on its way.

* `Known` — a player id with the session that belongs to it, for good.
* `PageFacts` — the texts of a page, and what they are about.
* `keepsPages` — nothing that can happen makes any of it false.
* `sound_netRun` — **the pages tell the truth** along every run of the network.
-/

namespace WarCardGame

open Lib

variable {β : Type}

/-! ## Players -/

/-- Keys of players are given out in order. -/
theorem Step.nextPlayerId_le {w w' : World} {call : Call} (hstep : Step w call w') :
    w.nextPlayerId ≤ w'.nextPlayerId := by
  have hclose : ∀ (game : GameEntity) (player : PlayersEntity),
      ((vacated call.rows call.shuffle player game w).2.closeGame
        (vacated call.rows call.shuffle player game w).1).nextPlayerId = w.nextPlayerId :=
    fun game player =>
      (vacated_closeGame_frame call.rows call.shuffle player game w).2.2.2.2.1
  cases hstep with
  | create request name session => exact (lt_add_one w.nextPlayerId).le
  | joinFull request gameId name session game => exact (lt_add_one w.nextPlayerId).le
  | join request gameId name session game => exact (lt_add_one w.nextPlayerId).le
  | roundFailed player1Id player2Id gameId c e _ hrequest hc howner hunplayed hturn hround =>
      have hframe := RoundFrame.of_gameRound hround
      exact hframe.nextPlayerId.ge
  | round player1Id player2Id gameId c v ms hrequest hc howner hunplayed hturn hround =>
      have hframe := RoundFrame.of_gameRound hround
      exact hframe.nextPlayerId.ge
  | leaveRefused gameId session game player ms => exact (hclose game player).ge
  | leave gameId session game player ms => exact (hclose game player).ge
  | _ => exact le_rfl

/-- Keys start with one. -/
structure Positive (w : World) : Prop where
  nextPlayerId : 0 < w.nextPlayerId
  nextGameId : 0 < w.nextGameId
  players : ∀ p ∈ w.players, 0 < p.playerId
  games : ∀ g ∈ w.games, 0 < g.gameId

theorem Positive.step {w w' : World} {call : Call} (h : Positive w) (htables : Tables w)
    (hstep : Step w call w') : Positive w' where
  nextPlayerId := h.nextPlayerId.trans_le hstep.nextPlayerId_le
  nextGameId := h.nextGameId.trans_le hstep.nextGameId_le
  players := by
    intro p hp
    rcases hstep.player_origin hp with hold | ⟨hnew, -⟩
    · exact h.players p hold
    · rw [hnew]
      exact h.nextPlayerId
  games := by
    intro g hg
    by_cases hissued : g.gameId < w.nextGameId
    · obtain ⟨g₀, hg₀, hkey, -⟩ := htables.row_origin hstep hg hissued
      rw [← hkey]
      exact h.games g₀ hg₀
    · exact h.nextGameId.trans_le (not_lt.1 hissued)

theorem positive_run (deck : Deck) (calls : List Call) :
    Positive (server.run (World.initial deck) calls) := by
  have hstart : Positive (World.initial deck) :=
    ⟨one_pos, one_pos, by simp [World.initial], by simp [World.initial]⟩
  refine (Machine.run_invariant (M := server) (I := fun w => Tables w ∧ Positive w)
    (fun w call h => ?_) ⟨Tables.initial deck, hstart⟩ calls).2
  have hquiet : Positive w.quiet := ⟨h.2.nextPlayerId, h.2.nextGameId, h.2.players, h.2.games⟩
  exact ⟨h.1.quiet.step (step_next w call), hquiet.step h.1.quiet (step_next w call)⟩

/-- The id was given to a player with this session: there is no other player who has
it, or will have it. -/
structure Known (w : World) (playerId : ℤ) (session : String) : Prop where
  positive : 0 < playerId
  issued : playerId < w.nextPlayerId
  row : ∀ p ∈ w.players, p.playerId = playerId → p.sessionId = some session

theorem Known.step {w w' : World} {call : Call} {k : ℤ} {session : String} (h : Known w k session)
    (hstep : Step w call w') : Known w' k session where
  positive := h.positive
  issued := h.issued.trans_le hstep.nextPlayerId_le
  row := by
    intro p hp hid
    rcases hstep.player_origin hp with hold | ⟨hnew, -⟩
    · exact h.row p hold hid
    · have hlt := h.issued
      omega

/-- What was sent before does not matter. -/
theorem Known.quiet {w : World} {k : ℤ} {session : String} (h : Known w k session) :
    Known w.quiet k session :=
  ⟨h.positive, h.issued, h.row⟩

/-- A stored player is known. -/
theorem Known.of_mem {w : World} (htables : Tables w) (hpositive : Positive w)
    {p : PlayersEntity} (hp : p ∈ w.players) {session : String}
    (hsession : p.sessionId = some session) : Known w p.playerId session where
  positive := hpositive.players p hp
  issued := htables.playerSequence _ (List.mem_map_of_mem hp)
  row := by
    intro q hq hid
    rw [Rows.eq_of_key_eq PlayersEntity.playerId htables.playerKeys hq hp hid, hsession]

/-! ## Pages -/

/-- What the texts of a page say: the game, and the players who were in it when the
page was rendered.  The first seat of a game is never taken again. -/
structure PageFacts (w : World) (page : GamePlayPage) (g k1 : ℤ) (k2 : Option ℤ) : Prop where
  gameID : page.gameID = "Game ID: " ++ toString g
  player1Id : page.player1Id = toString k1
  player2Id : page.player2Id = (k2.map toString).getD ""
  gamePositive : 0 < g
  gameIssued : g < w.nextGameId
  gameRow : ∀ row ∈ w.games, row.gameId = g → row.player1 = some k1 ∨ row.player1 = none
  player1 : Known w k1 page.player1Session
  player2 : ∀ k, k2 = some k → Known w k page.player2Session ∧ k ≠ k1
  alone : k2 = none → page.player2Session = ""

/-- The hidden texts of a page, which no script changes. -/
def GamePlayPage.identity (page : GamePlayPage) : List String :=
  [page.gameID, page.player1Session, page.player2Session, page.player1Id, page.player2Id]

namespace PageFacts

variable {w w' : World} {page page' : GamePlayPage} {g k1 : ℤ} {k2 : Option ℤ}

theorem same (h : PageFacts w page g k1 k2) (hsame : page'.identity = page.identity) :
    PageFacts w page' g k1 k2 := by
  simp only [GamePlayPage.identity, List.cons.injEq, and_true] at hsame
  obtain ⟨hgame, hs1, hs2, hk1, hk2⟩ := hsame
  exact ⟨hgame.trans h.gameID, hk1.trans h.player1Id, hk2.trans h.player2Id, h.gamePositive,
    h.gameIssued, h.gameRow, hs1 ▸ h.player1, hs2 ▸ h.player2,
    fun hnone => hs2.trans (h.alone hnone)⟩

theorem step (h : PageFacts w page g k1 k2) (htables : Tables w) {call : Call}
    (hstep : Step w call w') : PageFacts w' page g k1 k2 where
  gameID := h.gameID
  player1Id := h.player1Id
  player2Id := h.player2Id
  gamePositive := h.gamePositive
  gameIssued := h.gameIssued.trans_le hstep.nextGameId_le
  gameRow := by
    intro g' hg' hid
    obtain ⟨g₀, hg₀, hkey, hrow⟩ := htables.row_origin hstep hg' (hid ▸ h.gameIssued)
    have hbefore := h.gameRow g₀ hg₀ (hkey.trans hid)
    cases hrow with
    | leave1 player => exact Or.inr rfl
    | _ => exact hbefore
  player1 := h.player1.step hstep
  player2 := fun k hk => ⟨(h.player2 k hk).1.step hstep, (h.player2 k hk).2⟩
  alone := h.alone

end PageFacts

/-- What the page of a game is made of. -/
theorem gamePlayPage_eq_ok {w : World} {number gameId : ℤ} {model : GameController.GamePlayModel}
    (h : (GameController.gamePlayPage number gameId w).1 = .ok (.gamePlay model)) :
    ∃ game p1, GameRepository.rowOf w.games gameId = some game ∧
      GameService.playerOf w.players game.player1 = some p1 ∧
      model = { gameId := gameId
                player1Username := some p1.username
                player2Username :=
                  (GameService.playerOf w.players game.player2).map (·.username)
                player1Session := p1.sessionId
                player2Session :=
                  (GameService.playerOf w.players game.player2).bind (·.sessionId)
                player1 := some p1.playerId
                player2 := (GameService.playerOf w.players game.player2).map (·.playerId)
                version := number } := by
  cases hgame : GameRepository.rowOf w.games gameId with
  | none =>
      rw [gamePlayPage_missing number hgame] at h
      cases h
  | some game =>
      rw [gamePlayPage_stored number hgame] at h
      cases hp1 : GameService.playerOf w.players game.player1 with
      | none =>
          rw [hp1] at h
          cases h
      | some p1 =>
          rw [hp1] at h
          cases h
          exact ⟨game, p1, rfl, hp1, rfl⟩

/-- The player in a seat is stored under the key in it. -/
theorem mem_of_playerOf {players : List PlayersEntity} {key : Option ℤ} {p : PlayersEntity}
    (h : GameService.playerOf players key = some p) : p ∈ players ∧ key = some p.playerId := by
  obtain ⟨k, rfl, hrow⟩ := Option.bind_eq_some_iff.1 h
  have hid : p.playerId = k := by simpa using List.find?_some hrow
  exact ⟨List.mem_of_find?_eq_some hrow, by rw [hid]⟩

/-- A page that was just rendered. -/
theorem pageFacts_render {w : World} (htables : Tables w) (hpositive : Positive w)
    (hsessions : ∀ p ∈ w.players, ∃ s, p.sessionId = some s ∧ s ≠ "") {number gameId : ℤ}
    {model : GameController.GamePlayModel}
    (h : (GameController.gamePlayPage number gameId w).1 = .ok (.gamePlay model)) :
    ∃ k1 k2, PageFacts w (GamePlayPage.render model) gameId k1 k2 := by
  obtain ⟨game, p1, hgame, hp1, rfl⟩ := gamePlayPage_eq_ok h
  obtain ⟨hmem1, hkey1⟩ := mem_of_playerOf hp1
  obtain ⟨hrow, hid⟩ := Tables.mem_of_rowOf hgame
  obtain ⟨s1, hs1, -⟩ := hsessions p1 hmem1
  refine ⟨p1.playerId, (GameService.playerOf w.players game.player2).map (·.playerId),
    rfl, rfl, rfl, hid ▸ hpositive.games game hrow, hid ▸ htables.gameSequence game hrow, ?_, ?_,
    ?_, ?_⟩
  · intro g hg hgid
    rw [Rows.eq_of_key_eq GameEntity.gameId htables.gameKeys hg hrow (hgid.trans hid.symm)]
    exact Or.inl hkey1
  · show Known w p1.playerId (p1.sessionId.getD "")
    rw [hs1]
    exact Known.of_mem htables hpositive hmem1 hs1
  · intro k hk
    obtain ⟨p2, hp2, rfl⟩ := Option.map_eq_some_iff.1 hk
    obtain ⟨hmem2, hkey2⟩ := mem_of_playerOf hp2
    obtain ⟨s2, hs2, -⟩ := hsessions p2 hmem2
    refine ⟨?_, ?_⟩
    · show Known w p2.playerId
        (((GameService.playerOf w.players game.player2).bind (·.sessionId)).getD "")
      rw [hp2, Option.bind_some, hs2]
      exact Known.of_mem htables hpositive hmem2 hs2
    · -- two seats of one game are two players
      intro hsame
      have hseats : game.seats.Nodup := (List.nodup_flatMap.1 htables.oneSeat).1 game hrow
      rw [GameEntity.seats, hkey1, hkey2, hsame] at hseats
      simp at hseats
  · intro hnone
    rw [Option.map_eq_none_iff] at hnone
    show ((GameService.playerOf w.players game.player2).bind (·.sessionId)).getD "" = ""
    rw [hnone]
    rfl

/-! ## Numbers on a page -/

theorem toString_ne_empty (k : ℤ) : toString k ≠ "" := by
  intro h
  exact Numerals.toList_toString_ne_nil k (by rw [h]; rfl)

theorem longOfText_toString (k : ℤ) : longOfText (toString k) = some (some k) := by
  rw [longOfText, if_neg (toString_ne_empty k), Numerals.readInt_toString]
  rfl

/-- The number that the buttons cut out of the text of `#gameID`. -/
theorem gameIdNumber_eq {page : GamePlayPage} {g : ℤ}
    (h : page.gameID = "Game ID: " ++ toString g) : Browser.gameIdNumber page = some g := by
  have hstart : "Game ID: ".toList = 'G' :: "ame ID: ".toList := by simp
  have hend : "Game ID: ".toList = "Game ID:".toList ++ [' '] := by simp
  have htrim : Numerals.trim page.gameID = "Game ID: " ++ toString g := by
    rw [h]
    exact Numerals.trim_append_toString hstart (by decide) g
  have hword : Numerals.word 2 ("Game ID: " ++ toString g) = some (toString g) :=
    Numerals.word_append_toString hend g
  rw [Browser.gameIdNumber, htrim, hword]
  exact Numerals.parseInt_toString g

/-! ## The session ids -/

theorem generateUUID_ne_empty (random : ℕ → Fin 16) : generateUUID random ≠ "" := by
  intro h
  have hlist := congrArg String.toList h
  rw [generateUUID, String.toList_ofList] at hlist
  have hlength := congrArg List.length hlist
  simp at hlength

/-- A hexadecimal digit is not U+0000. -/
theorem fillPlaceholder_toNat_ne_zero (r : Fin 16) {c : Char} (hc : c.toNat ≠ 0) :
    (fillPlaceholder r c).toNat ≠ 0 := by
  have hx : ∀ r : Fin 16, (Nat.digitChar r).toNat ≠ 0 := by decide
  have hy : ∀ r : Fin 16, (Nat.digitChar (r.val &&& 3 ||| 8)).toNat ≠ 0 := by decide
  unfold fillPlaceholder
  split_ifs
  · exact hx r
  · exact hy r
  · exact hc

/-- A session id that a browser makes is stored as it is. -/
theorem store_generateUUID (random : ℕ → Fin 16) :
    Varchar.store 64 (generateUUID random) = some (generateUUID random) := by
  have htemplate : Varchar.sendable "xxxxxxxx-xxxx-4xxx-yxxx-xxxxxxxxxxxx" = true := by
    decide +kernel
  have hlength : "xxxxxxxx-xxxx-4xxx-yxxx-xxxxxxxxxxxx".toList.length ≤ 64 := by decide +kernel
  refine Varchar.store_of_length_le ?_ ?_
  · rw [Varchar.sendable, generateUUID, String.toList_ofList, List.all_eq_true]
    intro c hc
    obtain ⟨i, hi, rfl⟩ := List.mem_mapIdx.1 hc
    have hchar := List.all_eq_true.1 htemplate _ (List.getElem_mem hi)
    exact decide_eq_true (fillPlaceholder_toNat_ne_zero (random i) (of_decide_eq_true hchar))
  · rw [generateUUID, String.length_ofList, List.length_mapIdx]
    exact hlength

variable {own : β → String → Prop}

/-- A session that browser `b` may use: one that was made, and is its own. -/
def OwnSession (own : β → String → Prop) (b : β) (session : String) : Prop :=
  (∃ random, session = generateUUID random) ∧ own b session

theorem OwnSession.ne_empty {b : β} {session : String} (h : OwnSession own b session) :
    session ≠ "" := by
  obtain ⟨⟨random, rfl⟩, -⟩ := h
  exact generateUUID_ne_empty random

/-- A player with such a session and a name that its column takes is stored. -/
theorem OwnSession.columns_eq {b : β} {session : String} (h : OwnSession own b session)
    {username name : String} (hname : Varchar.store 50 username = some name) :
    PlayerRepository.columns (some username) (some session) = some (name, some session) := by
  obtain ⟨⟨random, rfl⟩, -⟩ := h
  refine PlayerRepository.columns_eq_some_iff.2 ⟨⟨username, rfl, hname⟩, ?_⟩
  rw [Option.map_some, store_generateUUID]
  rfl

/-- Whoever is stored with such a session is stored with it as it is. -/
theorem OwnSession.columns {b : β} {session : String} (h : OwnSession own b session)
    {username : Option String} {stored : String × Option String}
    (hcolumns : PlayerRepository.columns username (some session) = some stored) :
    stored.2 = some session := by
  obtain ⟨⟨random, rfl⟩, -⟩ := h
  obtain ⟨-, hsession⟩ := PlayerRepository.columns_eq_some_iff.1 hcolumns
  rw [Option.map_some, store_generateUUID] at hsession
  obtain ⟨session', hstored, hsame⟩ := Option.map_eq_some_iff.1 hsession.symm
  rw [hstored, hsame]

/-- The session ids that a browser makes are its own. -/
def MakesOwn (own : β → String → Prop) (b : β) (a : Act) : Prop :=
  match a with
  | .submitUsername _ random _ => own b (generateUUID random)
  | .submitGameId _ random _ _ => own b (generateUUID random)
  | .event _ _ random => own b (generateUUID random)
  | _ => True

theorem ownSession_getSessionId {b : β} {stored : Option String} {random : ℕ → Fin 16}
    (hstored : ∀ s, stored = some s → OwnSession own b s) (hrandom : own b (generateUUID random)) :
    OwnSession own b (getSessionId stored random) := by
  cases stored with
  | none => exact ⟨⟨random, rfl⟩, hrandom⟩
  | some s =>
      have hown := hstored s rfl
      rw [getSessionId, if_neg hown.ne_empty]
      exact hown

/-! ## The invariant -/

/-- The server has served some requests, and all players have a session. -/
structure Reached (deck : Deck) (w : World) : Prop where
  run : ∃ calls, w = server.run (World.initial deck) calls
  sessions : ∀ p ∈ w.players, ∃ s, p.sessionId = some s ∧ s ≠ ""

/-- A page of browser `b`: what it says is true, and a button to play is displayed
only to the browser with the session of the player. -/
structure PageOf (own : β → String → Prop) (w : World) (b : β) (page : GamePlayPage) : Prop where
  facts : ∃ g k1 k2, PageFacts w page g k1 k2
  button1 : page.playCard1Button = true → OwnSession own b page.player1Session
  button2 : page.playCard2Button = true → OwnSession own b page.player2Session

/-- All pages of browser `b`, and its session. -/
structure BrowserFacts (own : β → String → Prop) (w : World) (b : β) (browser : Browser) :
    Prop where
  session : ∀ s, browser.sessionId = some s → OwnSession own b s
  pages : ∀ t page, (browser.tabs t).view = .gamePlay page → PageOf own w b page

/-- A frame on its way from browser `b`. -/
def FrameFacts (own : β → String → Prop) (w : World) (b : β) : Frame → Prop
  | .create _ session => OwnSession own b session
  | .join _ _ session => OwnSession own b session
  | .dealPlayer1Test body => ∃ k, Known w k body
  | .dealPlayer2Test body => body = "" ∨ ∃ k, Known w k body
  | .playCardPlayer1Test body => ∃ k s, body = toString k ∧ Known w k s ∧ OwnSession own b s
  | .playCardPlayer2Test id1 id2 gameId => ∃ k1 s1 k2 s2 g, id1 = toString k1 ∧ id2 = toString k2 ∧
      gameId = some g ∧ Known w k1 s1 ∧ Known w k2 s2 ∧ k2 ≠ k1 ∧ (0 < g ∧ g < w.nextGameId) ∧
      OwnSession own b s2
  | .leave gameId session _ => ∃ g, gameId = some g ∧ g < w.nextGameId ∧
      (session = "" ∨ ∃ k, Known w k session)

/-! ### The server -/

theorem Reached.tables {deck : Deck} {w : World} (h : Reached deck w) : Tables w := by
  obtain ⟨calls, rfl⟩ := h.run
  exact tables_run deck calls

theorem Reached.positive {deck : Deck} {w : World} (h : Reached deck w) : Positive w := by
  obtain ⟨calls, rfl⟩ := h.run
  exact positive_run deck calls

/-- A request whose sender gives a session is served. -/
theorem Reached.next {deck : Deck} {w : World} (h : Reached deck w) {call : Call}
    (hsession : ∀ session, call.request.newSession = some session →
      ∃ s, session = some s ∧ s ≠ "") : Reached deck (server.next w call) where
  run := by
    obtain ⟨calls, rfl⟩ := h.run
    exact ⟨calls ++ [call], by rw [Machine.run_append]; rfl⟩
  sessions := by
    intro p hp
    rcases (step_next w call).player_origin hp with hold | ⟨-, hnew, -⟩
    · exact h.sessions p hold
    · exact hsession p.sessionId hnew

theorem Known.next {w : World} {k : ℤ} {s : String} (h : Known w k s) (call : Call) :
    Known (server.next w call) k s :=
  h.quiet.step (step_next w call)

theorem PageFacts.next {w : World} {page : GamePlayPage} {g k1 : ℤ} {k2 : Option ℤ}
    (h : PageFacts w page g k1 k2) (htables : Tables w) (call : Call) :
    PageFacts (server.next w call) page g k1 k2 := by
  have hquiet : PageFacts w.quiet page g k1 k2 :=
    ⟨h.gameID, h.player1Id, h.player2Id, h.gamePositive, h.gameIssued, h.gameRow,
      h.player1.quiet, fun k hk => ⟨(h.player2 k hk).1.quiet, (h.player2 k hk).2⟩, h.alone⟩
  exact hquiet.step htables.quiet (step_next w call)

theorem PageOf.next {w : World} {b : β} {page : GamePlayPage} (h : PageOf own w b page)
    (htables : Tables w) (call : Call) : PageOf own (server.next w call) b page := by
  obtain ⟨g, k1, k2, hfacts⟩ := h.facts
  exact ⟨⟨g, k1, k2, hfacts.next htables call⟩, h.button1, h.button2⟩

theorem FrameFacts.next {w : World} {b : β} {frame : Frame} (h : FrameFacts own w b frame)
    (call : Call) : FrameFacts own (server.next w call) b frame := by
  have hgame : ∀ g, g < w.nextGameId → g < (server.next w call).nextGameId := fun g hg =>
    lt_of_lt_of_le hg (step_next w call).nextGameId_le
  cases frame with
  | create username session => exact h
  | join gameId username session => exact h
  | dealPlayer1Test body =>
      obtain ⟨k, hk⟩ := h
      exact ⟨k, hk.next call⟩
  | dealPlayer2Test body =>
      obtain hempty | ⟨k, hk⟩ := h
      · exact Or.inl hempty
      · exact Or.inr ⟨k, hk.next call⟩
  | playCardPlayer1Test body =>
      obtain ⟨k, s, hbody, hk, hown⟩ := h
      exact ⟨k, s, hbody, hk.next call, hown⟩
  | playCardPlayer2Test id1 id2 gameId =>
      obtain ⟨k1, s1, k2, s2, g, h1, h2, hg, hk1, hk2, hne, hissued, hown⟩ := h
      exact ⟨k1, s1, k2, s2, g, h1, h2, hg, hk1.next call, hk2.next call, hne,
        ⟨hissued.1, hgame g hissued.2⟩, hown⟩
  | leave gameId session playerId =>
      obtain ⟨g, hg, hissued, hempty | ⟨k, hk⟩⟩ := h
      · exact ⟨g, hg, hgame g hissued, Or.inl hempty⟩
      · exact ⟨g, hg, hgame g hissued, Or.inr ⟨k, hk.next call⟩⟩

/-- The session a frame asks to be stored is there. -/
theorem FrameFacts.newSession {w : World} {b : β} {frame : Frame} (h : FrameFacts own w b frame)
    {request : Request} (hrequest : frame.request = some request) {session : Option String}
    (hnew : request.newSession = some session) : ∃ s, session = some s ∧ s ≠ "" := by
  cases frame with
  | create username s =>
      cases hrequest
      obtain ⟨stored, hcolumns, rfl⟩ := Option.map_eq_some_iff.1 hnew
      have hown : OwnSession own b s := h
      exact ⟨s, hown.columns hcolumns, hown.ne_empty⟩
  | join gameId username s =>
      cases hrequest
      obtain ⟨stored, hcolumns, rfl⟩ := Option.map_eq_some_iff.1 hnew
      have hown : OwnSession own b s := h
      exact ⟨s, hown.columns hcolumns, hown.ne_empty⟩
  | dealPlayer1Test body =>
      simp only [Frame.request] at hrequest
      split_ifs at hrequest
      cases hrequest
      cases hnew
  | dealPlayer2Test body =>
      simp only [Frame.request] at hrequest
      split_ifs at hrequest
      cases hrequest
      cases hnew
  | playCardPlayer1Test body =>
      obtain ⟨k, -, rfl⟩ := Option.map_eq_some_iff.1 hrequest
      cases hnew
  | playCardPlayer2Test id1 id2 gameId =>
      simp only [Frame.request] at hrequest
      split at hrequest
      · cases hrequest
        cases hnew
      · cases hrequest
  | leave gameId s playerId =>
      cases hrequest
      cases hnew

/-! ### The browsers -/

/-- The page of a tab, if it shows one. -/
def PagesIn (own : β → String → Prop) (w : World) (b : β) (tab : Tab) : Prop :=
  ∀ page, tab.view = .gamePlay page → PageOf own w b page

section Tabs

variable {w : World} {b : β} {tab : Tab}

/-- No identity and no button changes. -/
theorem PageOf.same {page page' : GamePlayPage} (h : PageOf own w b page)
    (hidentity : page'.identity = page.identity)
    (hbutton1 : page'.playCard1Button = page.playCard1Button)
    (hbutton2 : page'.playCard2Button = page.playCard2Button) : PageOf own w b page' := by
  obtain ⟨g, k1, k2, hfacts⟩ := h.facts
  have hsessions : page'.player1Session = page.player1Session ∧
      page'.player2Session = page.player2Session := by
    simp only [GamePlayPage.identity, List.cons.injEq, and_true] at hidentity
    exact ⟨hidentity.2.1, hidentity.2.2.1⟩
  refine ⟨⟨g, k1, k2, hfacts.same hidentity⟩, ?_, ?_⟩
  · rw [hbutton1, hsessions.1]
    exact h.button1
  · rw [hbutton2, hsessions.2]
    exact h.button2

/-- A button is displayed to the browser that has the session. -/
theorem PageOf.handlePlayCardButtonVisibility {page : GamePlayPage} (h : PageOf own w b page)
    {session : Option String} (hsession : ∀ s, session = some s → OwnSession own b s) :
    PageOf own w b (page.handlePlayCardButtonVisibility session) := by
  unfold GamePlayPage.handlePlayCardButtonVisibility
  obtain ⟨g, k1, k2, hfacts⟩ := h.facts
  split_ifs with hstart h1 h2
  · exact ⟨⟨g, k1, k2, hfacts.same rfl⟩, fun _ => hsession _ h1, by simp⟩
  · exact ⟨⟨g, k1, k2, hfacts.same rfl⟩, by simp, fun _ => hsession _ h2⟩
  · exact h.same rfl rfl rfl
  · exact h

namespace PagesIn

theorem onPage (h : PagesIn own w b tab) {f : GamePlayPage → GamePlayPage}
    (hf : ∀ page, PageOf own w b page → PageOf own w b (f page)) :
    PagesIn own w b (tab.onPage f) := by
  unfold Tab.onPage
  cases hview : tab.view with
  | gamePlay page =>
      intro page' hpage'
      cases hpage'
      exact hf page (h page hview)
  | _ => exact h

/-- The script writes texts, sprites and panels, but no identity and no button. -/
theorem write (h : PagesIn own w b tab) {f : GamePlayPage → GamePlayPage}
    (hidentity : ∀ page, (f page).identity = page.identity)
    (hbutton1 : ∀ page, (f page).playCard1Button = page.playCard1Button)
    (hbutton2 : ∀ page, (f page).playCard2Button = page.playCard2Button) :
    PagesIn own w b (tab.onPage f) :=
  h.onPage fun page hpage => hpage.same (hidentity page) (hbutton1 page) (hbutton2 page)

theorem goto (own : β → String → Prop) (w : World) (b : β) (tab : Tab) (url : Url) :
    PagesIn own w b (tab.goto url) := by
  intro page hpage
  cases hpage

theorem alert (h : PagesIn own w b tab) (text : String) : PagesIn own w b (tab.alert text) := h

theorem onDealCards (h : PagesIn own w b tab) {stored : Option String}
    (hstored : ∀ s, stored = some s → OwnSession own b s) (response : DealCardsResponse) :
    PagesIn own w b (tab.onDealCards stored response) := by
  unfold Tab.onDealCards
  split_ifs with hsession
  · rw [← hsession]
    exact h.onPage fun page hpage => hpage.handlePlayCardButtonVisibility hstored
  · exact h

theorem onPlayCard (h : PagesIn own w b tab)
    {display : GamePlayPage → Option CardsEntity → GamePlayPage}
    (hdisplay : ∀ card page, PageOf own w b page → PageOf own w b (display page card))
    (stored : Option String) (response : PlayCardResponse) :
    PagesIn own w b (tab.onPlayCard display stored response) := by
  unfold Tab.onPlayCard
  split_ifs
  · exact h.onPage (hdisplay response.card)
  · exact h.alert _
  · exact h

theorem updateUIAfterLeaving (h : PagesIn own w b tab) (session : String)
    (response : LeaveGameResponse) :
    PagesIn own w b (tab.updateUIAfterLeaving session response) := by
  unfold Tab.updateUIAfterLeaving
  split_ifs
  · exact (h.alert _).write (fun _ => rfl) (fun _ => rfl) fun _ => rfl
  · exact h
  · exact (h.alert _).write (fun _ => rfl) (fun _ => rfl) fun _ => rfl
  · exact h
  · exact h

/-- **An event is handled**: the page stays what it was, and the session is the
browser's own. -/
theorem handle (h : PagesIn own w b tab) {stored : Option String}
    (hstored : ∀ s, stored = some s → OwnSession own b s) {random : ℕ → Fin 16}
    (hrandom : own b (generateUUID random)) (event : Event) :
    (∀ s, (tab.handle stored random event).1 = some s → OwnSession own b s) ∧
      PagesIn own w b (tab.handle stored random event).2 := by
  have hnew : ∀ s, some (getSessionId stored random) = some s → OwnSession own b s := by
    rintro s ⟨⟩
    exact ownSession_getSessionId hstored hrandom
  cases event with
  | createGame response =>
      refine ⟨hnew, ?_⟩
      show PagesIn own w b (if _ then _ else _)
      split_ifs
      · exact goto own w b tab _
      · exact h
  | joinGame response =>
      refine ⟨hnew, ?_⟩
      show PagesIn own w b (if _ then _ else if _ then _ else _)
      split_ifs
      · exact goto own w b tab _
      · exact h.alert _
      · exact h
  | dealCardsPlayer1Test response => exact ⟨hstored, h.onDealCards hstored response⟩
  | dealCardsPlayer2Test response => exact ⟨hstored, h.onDealCards hstored response⟩
  | playCardPlayer1Test response =>
      refine ⟨hstored, h.onPlayCard ?_ stored response⟩
      intro card page hpage
      cases card <;> exact hpage.same rfl rfl rfl
  | playCardPlayer2Test response =>
      refine ⟨hstored, h.onPlayCard ?_ stored response⟩
      intro card page hpage
      cases card <;> exact hpage.same rfl rfl rfl
  | sent message =>
      cases message with
      | updateGameAfterLeave response => exact ⟨hnew, h.updateUIAfterLeaving _ response⟩
      | _ => exact ⟨hstored, h.write (fun _ => rfl) (fun _ => rfl) fun _ => rfl⟩

/-- **A page is loaded.** -/
theorem load {deck : Deck} (h : PagesIn own w b tab) (hreached : Reached deck w) (number : ℤ)
    (stored : Option String) : PagesIn own w b (tab.load w number stored) := by
  have hnone : ∀ view, (∀ page, view ≠ View.gamePlay page) →
      PagesIn own w b { tab with view := view } := fun view hview page hpage =>
    absurd hpage (hview page)
  unfold Tab.load
  split
  · exact hnone _ (by simp)
  · split
    · split
      · rename_i model hmodel
        intro page hpage
        cases hpage
        obtain ⟨k1, k2, hfacts⟩ := pageFacts_render hreached.tables hreached.positive
          hreached.sessions hmodel
        unfold GamePlayPage.adjustLayoutForPlayer
        split_ifs
        · exact ⟨⟨_, k1, k2, hfacts.same rfl⟩, by simp [GamePlayPage.render],
            by simp [GamePlayPage.render]⟩
        · exact ⟨⟨_, k1, k2, hfacts⟩, by simp [GamePlayPage.render], by simp [GamePlayPage.render]⟩
      · exact hnone _ (by simp)
    · exact hnone _ (by simp)
  · exact h

end PagesIn

end Tabs

namespace BrowserFacts

variable {w : World} {b : β} {browser : Browser}

theorem setTab (h : BrowserFacts own w b browser) (t : ℕ) {tab : Tab} (htab : PagesIn own w b tab)
    {stored : Option String} (hstored : ∀ s, stored = some s → OwnSession own b s) :
    BrowserFacts own w b { browser.setTab t tab with sessionId := stored } where
  session := hstored
  pages := by
    intro t' page hpage
    by_cases ht : t' = t
    · subst ht
      simp only [Browser.setTab, Function.update_self] at hpage
      exact htab page hpage
    · simp only [Browser.setTab, Function.update_of_ne ht] at hpage
      exact h.pages t' page hpage

/-- **Whatever happens in a browser** keeps its pages and its session. -/
theorem act (h : BrowserFacts own w b browser) {a : Act} (ha : MakesOwn own b a) :
    BrowserFacts own w b (browser.act a).1 := by
  have htab : ∀ t, PagesIn own w b (browser.tabs t) := h.pages
  have hset : ∀ t tab, PagesIn own w b tab → BrowserFacts own w b (browser.setTab t tab) :=
    fun t tab hin => h.setTab t hin h.session
  have hsession : ∀ {random}, own b (generateUUID random) →
      BrowserFacts own w b
        { browser with sessionId := some (getSessionId browser.sessionId random) } := by
    intro random hrandom
    refine ⟨?_, h.pages⟩
    rintro s ⟨⟩
    exact ownSession_getSessionId h.session hrandom
  cases a with
  | goto t url => exact hset t _ (PagesIn.goto own w b _ url)
  | submitUsername t random username =>
      simp only [Browser.act]
      split
      · unfold Browser.submitUsername
        split_ifs
        · exact hsession ha
        · exact hset t _ ((htab t).alert _)
      · exact h
  | submitGameId t random gameIdString username =>
      simp only [Browser.act]
      split
      · unfold Browser.submitGameId
        split_ifs
        · exact hsession ha
        · exact hset t _ ((htab t).alert _)
        · exact hset t _ ((htab t).alert _)
      · exact h
  | startGame t =>
      simp only [Browser.act]
      split
      · unfold Browser.startGame
        split_ifs
        · exact hset t _ ((htab t).alert _)
        · exact h
        · exact h
      · exact h
  | playCard1 t =>
      simp only [Browser.act]
      split <;> exact h
  | playCard2 t =>
      simp only [Browser.act]
      split <;> exact h
  | leaveGame t =>
      simp only [Browser.act]
      split
      · exact h.setTab t (PagesIn.goto own w b _ _) (by simp)
      · exact h
  | event t k random =>
      simp only [Browser.act]
      split
      · rename_i event hevent
        have hin : PagesIn own w b
            { browser.tabs t with inbox := (browser.tabs t).inbox.eraseIdx k } := htab t
        obtain ⟨hstored, hpages⟩ := hin.handle h.session ha event
        exact h.setTab t hpages hstored
      · exact h
  | loseEvent t k => exact hset t _ (htab t)
  | warMessageTimeout t =>
      exact hset t _ ((htab t).write (fun _ => rfl) (fun _ => rfl) fun _ => rfl)

/-- **What a browser sends** is what its page says. -/
theorem send (h : BrowserFacts own w b browser) {a : Act} (ha : MakesOwn own b a) :
    ∀ frame ∈ (browser.act a).2, FrameFacts own w b frame := by
  intro frame hframe
  have hnone : frame ∉ ([] : List Frame) := List.not_mem_nil
  cases a with
  | submitUsername t random username =>
      simp only [Browser.act] at hframe
      split at hframe
      · unfold Browser.submitUsername at hframe
        split_ifs at hframe
        · rw [List.mem_singleton.1 hframe]
          exact ownSession_getSessionId h.session ha
        · exact absurd hframe hnone
      · exact absurd hframe hnone
  | submitGameId t random gameIdString username =>
      simp only [Browser.act] at hframe
      split at hframe
      · unfold Browser.submitGameId at hframe
        split_ifs at hframe
        · rw [List.mem_singleton.1 hframe]
          exact ownSession_getSessionId h.session ha
        · exact absurd hframe hnone
        · exact absurd hframe hnone
      · exact absurd hframe hnone
  | startGame t =>
      simp only [Browser.act] at hframe
      split at hframe
      · rename_i page hview
        obtain ⟨g, k1, k2, hfacts⟩ := (h.pages t page hview).facts
        unfold Browser.startGame at hframe
        split_ifs at hframe
        · exact absurd hframe hnone
        · simp only [List.mem_cons, List.not_mem_nil, or_false] at hframe
          rcases hframe with rfl | rfl
          · exact ⟨k1, hfacts.player1⟩
          · cases hk2 : k2 with
            | none => exact Or.inl (hfacts.alone hk2)
            | some k => exact Or.inr ⟨k, (hfacts.player2 k hk2).1⟩
        · exact absurd hframe hnone
      · exact absurd hframe hnone
  | playCard1 t =>
      simp only [Browser.act] at hframe
      split at hframe
      · rename_i page hview
        have hpage := h.pages t page hview
        obtain ⟨g, k1, k2, hfacts⟩ := hpage.facts
        split_ifs at hframe with hbutton
        · rw [List.mem_singleton.1 hframe, hfacts.player1Id, Numerals.trim_toString]
          exact ⟨k1, _, rfl, hfacts.player1, hpage.button1 hbutton⟩
        · exact absurd hframe hnone
      · exact absurd hframe hnone
  | playCard2 t =>
      simp only [Browser.act] at hframe
      split at hframe
      · rename_i page hview
        have hpage := h.pages t page hview
        obtain ⟨g, k1, k2, hfacts⟩ := hpage.facts
        split_ifs at hframe with hbutton
        · have hown := hpage.button2 hbutton
          -- the browser has the session of player 2, so there is a player 2
          cases hk2 : k2 with
          | none => exact absurd (hfacts.alone hk2) hown.ne_empty
          | some k =>
              obtain ⟨hknown, hne⟩ := hfacts.player2 k hk2
              have hid2 : page.player2Id = toString k := by rw [hfacts.player2Id, hk2]; rfl
              rw [List.mem_singleton.1 hframe, hfacts.player1Id, hid2, Numerals.trim_toString,
                Numerals.trim_toString, gameIdNumber_eq hfacts.gameID]
              exact ⟨k1, _, k, _, g, rfl, rfl, rfl, hfacts.player1, hknown, hne,
                ⟨hfacts.gamePositive, hfacts.gameIssued⟩, hown⟩
        · exact absurd hframe hnone
      · exact absurd hframe hnone
  | leaveGame t =>
      simp only [Browser.act] at hframe
      split at hframe
      · rename_i page hview
        obtain ⟨g, k1, k2, hfacts⟩ := (h.pages t page hview).facts
        unfold Browser.leaveGame at hframe
        simp only at hframe
        split_ifs at hframe
        · rw [List.mem_singleton.1 hframe]
          exact ⟨g, gameIdNumber_eq hfacts.gameID, hfacts.gameIssued, Or.inr ⟨k1, hfacts.player1⟩⟩
        · rw [List.mem_singleton.1 hframe]
          refine ⟨g, gameIdNumber_eq hfacts.gameID, hfacts.gameIssued, ?_⟩
          cases hk2 : k2 with
          | none => exact Or.inl (hfacts.alone hk2)
          | some k => exact Or.inr ⟨k, (hfacts.player2 k hk2).1⟩
      · exact absurd hframe hnone
  | event t k random =>
      simp only [Browser.act] at hframe
      split at hframe <;> exact absurd hframe hnone
  | goto t url => exact absurd hframe hnone
  | loseEvent t k => exact absurd hframe hnone
  | warMessageTimeout t => exact absurd hframe hnone

theorem load {deck : Deck} (h : BrowserFacts own w b browser) (hreached : Reached deck w) (t : ℕ)
    (number : ℤ) : BrowserFacts own w b (browser.load w t number) := by
  have hin : PagesIn own w b (browser.tabs t) := h.pages t
  exact h.setTab t (hin.load hreached number browser.sessionId) h.session

/-- Events arrive, after a request was served. -/
theorem receive (h : BrowserFacts own w b browser) (events : List Event) :
    BrowserFacts own w b (browser.receive events) where
  session := h.session
  pages := by
    intro t page hpage
    refine h.pages t page ?_
    simp only [Browser.receive] at hpage
    split_ifs at hpage <;> exact hpage

theorem next (h : BrowserFacts own w b browser) (htables : Tables w) (call : Call) :
    BrowserFacts own (server.next w call) b browser :=
  ⟨h.session, fun t page hpage => (h.pages t page hpage).next htables call⟩

end BrowserFacts

/-! ### The network -/

theorem network_serve {w : World} {frame : Frame} {request : Request}
    (hrequest : frame.request = some request) (choice : CardOrder × CardOrder) :
    network.serve w frame choice =
      (server.next w ⟨request, choice.1, choice.2⟩,
        eventsOf request (server.out w ⟨request, choice.1, choice.2⟩)) := by
  simp only [network, hrequest]

theorem network_serve_none {w : World} {frame : Frame} (hrequest : frame.request = none)
    (choice : CardOrder × CardOrder) : network.serve w frame choice = (w, []) := by
  simp only [network, hrequest]

/-- **Nothing that can happen makes a page wrong.** -/
theorem keepsPages (own : β → String → Prop) (deck : Deck) :
    network.Keeps (Reached deck) (BrowserFacts own) (FrameFacts own) (MakesOwn own) where
  serve := by
    intro w b frame choice hreached hframe
    cases hrequest : frame.request with
    | none =>
        rw [network_serve_none hrequest]
        exact hreached
    | some request =>
        rw [network_serve hrequest]
        exact hreached.next fun session hnew => hframe.newSession hrequest hnew
  request := by
    intro w b frame c frame' choice hreached hframe hframe'
    cases hrequest : frame.request with
    | none =>
        rw [network_serve_none hrequest]
        exact hframe'
    | some request =>
        rw [network_serve hrequest]
        exact hframe'.next _
  receive := by
    intro w b frame c browser choice hreached hframe hbrowser
    cases hrequest : frame.request with
    | none =>
        rw [network_serve_none hrequest]
        exact hbrowser.receive []
    | some request =>
        rw [network_serve hrequest]
        exact (hbrowser.next hreached.tables _).receive _
  act := fun _ hbrowser ha => hbrowser.act ha
  send := fun _ hbrowser ha => hbrowser.send ha
  visit := fun v hreached hbrowser => hbrowser.load hreached v.1 v.2

theorem sound_initial (own : β → String → Prop) (deck : Deck) :
    Network.Sound (Reached deck) (BrowserFacts own) (FrameFacts own) (Net.initial β deck) where
  server := ⟨⟨[], rfl⟩, by simp [Net.initial, World.initial]⟩
  clients := by
    intro b
    exact ⟨by simp [Net.initial, Browser.new], by simp [Net.initial, Browser.new, Tab.blank]⟩
  requests := by simp [Net.initial]

/-- The state of the network after some moves. -/
def netRun (β : Type) [DecidableEq β] (deck : Deck) (moves : List (NetMove β)) : Net β :=
  network.machine.run (Net.initial β deck) moves

theorem sound_netRun [DecidableEq β] (own : β → String → Prop) (deck : Deck)
    {moves : List (NetMove β)} (hmoves : ∀ move ∈ moves, move.Allowed (MakesOwn own)) :
    Network.Sound (Reached deck) (BrowserFacts own) (FrameFacts own) (netRun β deck moves) :=
  (keepsPages own deck).run (sound_initial own deck) hmoves

/-- Without a condition on the session ids that the browsers make. -/
theorem sound_any [DecidableEq β] (deck : Deck) (moves : List (NetMove β)) :
    Network.Sound (Reached deck) (BrowserFacts fun _ _ => True) (FrameFacts fun _ _ => True)
      (netRun β deck moves) := by
  refine sound_netRun _ deck fun move _ => ?_
  cases move with
  | act b a => cases a <;> trivial
  | _ => trivial

end WarCardGame
