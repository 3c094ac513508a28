import WarCardGame.Client.Pages
import WarCardGame.Server.Turns

/-!
# Whose buttons do what

The server takes the ids in a request as they come.  That a browser plays for nobody
but its own player is the work of the pages: the button to play is displayed where
the session in `localStorage` is the session of the player, and it sends the id that
is on the page.

* `pages_stay_true` — the ids and sessions on a page are those of the stored rows,
  and the buttons of the page send exactly these.
* `plays_are_own` — **no browser plays for the player of another**, and no other
  browser is told that it is not its turn.
* `plays_fail_only_after_delete` — a play that a page sends is understood, and ends in an
  exception only if a row it names has been deleted.
-/

namespace WarCardGame

open Lib

variable {β : Type} [DecidableEq β]

/-! ## What the buttons of a page send -/

section Buttons

variable {w : World} {browser : Browser} {t : ℕ} {page : GamePlayPage} {g k1 : ℤ} {k2 : Option ℤ}
  {frame : Frame}

omit [DecidableEq β]

/-- An id on a page, or the empty text for a player who was not there. -/
theorem longOfText_id (k : Option ℤ) :
    longOfText (Numerals.trim ((k.map toString).getD "")) = some k := by
  cases k with
  | none => decide
  | some k =>
      show longOfText (Numerals.trim (toString k)) = _
      rw [Numerals.trim_toString, longOfText_toString]

theorem PageFacts.request_playCard1 (h : PageFacts w page g k1 k2)
    (hview : (browser.tabs t).view = .gamePlay page)
    (hframe : frame ∈ (browser.act (.playCard1 t)).2) :
    page.playCard1Button = true ∧ frame.request = some (.playCardPlayer1 k1) := by
  simp only [Browser.act, hview] at hframe
  split_ifs at hframe with hbutton
  · rw [List.mem_singleton.1 hframe, h.player1Id, Numerals.trim_toString, Frame.request,
      Numerals.readInt_toString]
    exact ⟨hbutton, rfl⟩
  · exact absurd hframe List.not_mem_nil

theorem PageFacts.request_playCard2 (h : PageFacts w page g k1 k2)
    (hview : (browser.tabs t).view = .gamePlay page)
    (hframe : frame ∈ (browser.act (.playCard2 t)).2) :
    page.playCard2Button = true ∧
      frame.request = some (.playCardPlayer2 ⟨some k1, k2, some g⟩) := by
  simp only [Browser.act, hview] at hframe
  split_ifs at hframe with hbutton
  · have hid1 := longOfText_id (some k1)
    have hid2 := longOfText_id k2
    rw [← h.player2Id] at hid2
    rw [show ((some k1).map toString).getD "" = page.player1Id from h.player1Id.symm] at hid1
    rw [List.mem_singleton.1 hframe, gameIdNumber_eq h.gameID]
    refine ⟨hbutton, ?_⟩
    simp only [Frame.request, hid1, hid2]
  · exact absurd hframe List.not_mem_nil

/-- Leaving names the session of player 1 if it is the browser's own, and otherwise
that of player 2, whoever asks. -/
theorem PageFacts.request_leaveGame (h : PageFacts w page g k1 k2)
    (hview : (browser.tabs t).view = .gamePlay page)
    (hframe : frame ∈ (browser.act (.leaveGame t)).2) :
    frame.request = some (.leaveGame ⟨some g, some (if browser.sessionId = some page.player1Session
      then page.player1Session else page.player2Session)⟩) := by
  simp only [Browser.act, hview, Browser.leaveGame] at hframe
  split_ifs at hframe with hsession
  · rw [List.mem_singleton.1 hframe, gameIdNumber_eq h.gameID, if_pos hsession]
    rfl
  · rw [List.mem_singleton.1 hframe, gameIdNumber_eq h.gameID, if_neg hsession]
    rfl

end Buttons

/-- **The pages tell the truth.**  Whatever has happened in the network, the texts of
a page are the ids of a game and of its players as they were when the page was
rendered; a stored player with such an id has the session on the page, the first seat
of the game is theirs or empty, and the buttons send the ids and sessions that the
texts say. -/
theorem pages_stay_true (deck : Deck) (moves : List (NetMove β)) (b : β) (t : ℕ)
    (page : GamePlayPage)
    (hpage : (((netRun β deck moves).clients b).tabs t).view = .gamePlay page) :
    let n := netRun β deck moves
    ∃ (g k1 : ℤ) (k2 : Option ℤ),
      page.gameID = "Game ID: " ++ toString g ∧ page.player1Id = toString k1 ∧
      page.player2Id = (k2.map toString).getD "" ∧
      (∀ p ∈ n.server.players, p.playerId = k1 → p.sessionId = some page.player1Session) ∧
      (∀ p ∈ n.server.players, some p.playerId = k2 →
        p.sessionId = some page.player2Session ∧ p.playerId ≠ k1) ∧
      (∀ row ∈ n.server.games, row.gameId = g → row.player1 = some k1 ∨ row.player1 = none) ∧
      (∀ frame ∈ ((n.clients b).act (.playCard1 t)).2,
        frame.request = some (.playCardPlayer1 k1)) ∧
      (∀ frame ∈ ((n.clients b).act (.playCard2 t)).2,
        frame.request = some (.playCardPlayer2 ⟨some k1, k2, some g⟩)) ∧
      (∀ frame ∈ ((n.clients b).act (.leaveGame t)).2,
        frame.request = some (.leaveGame ⟨some g, some
          (if (n.clients b).sessionId = some page.player1Session then page.player1Session
            else page.player2Session)⟩)) := by
  intro n
  obtain ⟨g, k1, k2, hfacts⟩ := (((sound_any deck moves).clients b).pages t page hpage).facts
  refine ⟨g, k1, k2, hfacts.gameID, hfacts.player1Id, hfacts.player2Id, hfacts.player1.row, ?_,
    hfacts.gameRow, fun frame hframe => (hfacts.request_playCard1 hpage hframe).2,
    fun frame hframe => (hfacts.request_playCard2 hpage hframe).2,
    fun frame hframe => hfacts.request_leaveGame hpage hframe⟩
  intro p hp hk2
  obtain ⟨hknown, hne⟩ := hfacts.player2 p.playerId hk2.symm
  exact ⟨hknown.row p hp rfl, hne⟩

/-- The random digits of Ann's browser. -/
def annDigits : ℕ → Fin 16 := fun _ => 0

/-- The random digits of Bob's browser. -/
def bobDigits : ℕ → Fin 16 := fun _ => 1

/-- A browser opens the home page, creates a game and is taken to its page. -/
def openedGame : List (NetMove Unit) :=
  [.act () (.goto 0 .home), .visit () (0, 7), .act () (.submitUsername 0 annDigits "Ann"),
    .serve 0 (.same, .same), .act () (.event 0 0 annDigits), .visit () (0, 7)]

/-- The page it sees. -/
def openedPage : GamePlayPage :=
  GamePlayPage.render ⟨1, some "Ann", none, some (generateUUID annDigits), none, some 1, none, 7⟩

theorem pages_stay_true_openedGame :
    (((netRun Unit migratedDeck openedGame).clients ()).tabs 0).view = .gamePlay openedPage ∧
      ∃ (g k1 : ℤ) (k2 : Option ℤ), openedPage.gameID = "Game ID: " ++ toString g ∧
        openedPage.player1Id = toString k1 ∧
        openedPage.player2Id = (k2.map toString).getD "" ∧
        ∀ p ∈ (netRun Unit migratedDeck openedGame).server.players, p.playerId = k1 →
          p.sessionId = some openedPage.player1Session := by
  have hview : (((netRun Unit migratedDeck openedGame).clients ()).tabs 0).view =
      .gamePlay openedPage := by decide +kernel
  obtain ⟨g, k1, k2, h⟩ := pages_stay_true migratedDeck openedGame () 0 openedPage hview
  exact ⟨hview, g, k1, k2, h.1, h.2.1, h.2.2.1, h.2.2.2.1⟩

/-! ## Whose player is played for -/

/-- The player for whom a request puts down a card. -/
def Request.playsFor : Request → Option ℤ
  | .playCardPlayer1 player1Id => some player1Id
  | .playCardPlayer2 request => request.player2Id
  | _ => none

/-- The session to which an event says that it is not their turn. -/
def Event.notYourTurn : Event → Option (Option String)
  | .playCardPlayer1Test response => if response.turn then none else some response.playerSession
  | .playCardPlayer2Test response => if response.turn then none else some response.playerSession
  | _ => none

section Plays

variable {w : World} {call : Call}

omit [DecidableEq β]

/-- An answer that refuses a play for the turn goes to the session of the player. -/
theorem refused_playCard1 {playerId : ℤ} (hrequest : call.request = .playCardPlayer1 playerId)
    {r : PlayCardResponse} (h : (server.out w call).response = .ok (.playCard (some r)))
    (hturn : r.turn = false) : ∃ p ∈ w.players, p.playerId = playerId ∧
      r.playerSession = p.sessionId := by
  rw [response_playCard1 hrequest, playCard1_apply] at h
  cases hrow : PlayerRepository.rowOf w.quiet.players playerId with
  | none =>
      rw [hrow] at h
      cases h
  | some p =>
      rw [hrow] at h
      have hid : p.playerId = playerId := by simpa using List.find?_some hrow
      refine ⟨p, List.mem_of_find?_eq_some hrow, hid, ?_⟩
      simp only at h
      split_ifs at h with hplayer1
      · split at h
        · cases h
          cases hturn
        · cases h
      · cases h
        rfl

/-- What a request of player 2 that is answered has found. -/
theorem refused_playCard2 {request : PlayCardRequest}
    (hrequest : call.request = .playCardPlayer2 request) {r : PlayCardResponse}
    (h : (server.out w call).response = .ok (.playCard (some r))) (hturn : r.turn = false) :
    ∃ p ∈ w.players, request.player2Id = some p.playerId ∧ r.playerSession = p.sessionId := by
  rw [response_playCard2 hrequest] at h
  by_cases hnull : request.player1Id = none ∨ request.player2Id = none ∨ request.gameId = none
  · rw [playCard2_null call.rows w.quiet hnull] at h
    cases h
  obtain ⟨_ | player1Id, _ | player2Id, _ | gameId⟩ := request
  all_goals try simp at hnull
  rw [playCard2_apply] at h
  cases hrow : PlayerRepository.rowOf w.quiet.players player2Id with
  | none =>
      rw [hrow] at h
      cases h
  | some p =>
      rw [hrow] at h
      have hid : p.playerId = player2Id := by simpa using List.find?_some hrow
      refine ⟨p, List.mem_of_find?_eq_some hrow, by rw [hid], ?_⟩
      simp only at h
      split_ifs at h with hplayer2
      · split at h
        · -- the card was accepted, so the answer says that it was their turn
          rename_i card hand hplay
          rcases hround : gameRound call.rows player1Id player2Id gameId
              (w.quiet.putDown2 card) with ⟨e | u, v⟩
          · rw [Handler.bind_error hround] at h
            cases h
          · rw [Handler.bind_ok hround, Handler.bind_pure_result] at h
            cases hfinish : (finishRound player1Id player2Id gameId hand v).1 with
            | error e =>
                rw [hfinish] at h
                cases h
            | ok u =>
                rw [hfinish] at h
                cases h
                cases hturn
        · cases h
      · cases h
        rfl

/-- An event that refuses a play for the turn is the answer to a play. -/
theorem mem_answer_notYourTurn {request : Request} {response : Except Failure Response}
    {event : Event} (hevent : event ∈ answer request response) {session : Option String}
    (hsession : event.notYourTurn = some session) :
    ((∃ id, request = .playCardPlayer1 id) ∨ ∃ r, request = .playCardPlayer2 r) ∧
      ∃ r, response = .ok (.playCard (some r)) ∧ r.turn = false ∧ session = r.playerSession := by
  have hplay : ∀ r : PlayCardResponse,
      (if r.turn then none else some r.playerSession) = some session →
        r.turn = false ∧ session = r.playerSession := by
    intro r h
    cases hturn : r.turn with
    | true => simp [hturn] at h
    | false => exact ⟨rfl, by simpa [hturn] using h.symm⟩
  unfold answer at hevent
  split at hevent
  · rw [List.mem_singleton.1 hevent] at hsession
    cases hsession
  · rw [List.mem_singleton.1 hevent] at hsession
    cases hsession
  · rw [List.mem_singleton.1 hevent] at hsession
    cases hsession
  · rw [List.mem_singleton.1 hevent] at hsession
    cases hsession
  · rename_i id r
    rw [List.mem_singleton.1 hevent] at hsession
    exact ⟨Or.inl ⟨id, rfl⟩, r, rfl, hplay r hsession⟩
  · rename_i request r
    rw [List.mem_singleton.1 hevent] at hsession
    exact ⟨Or.inr ⟨request, rfl⟩, r, rfl, hplay r hsession⟩
  · exact absurd hevent List.not_mem_nil

/-- The player a refusal is about. -/
theorem notYourTurn_player (call : Call) {event : Event}
    (hevent : event ∈ eventsOf call.request (server.out w call)) {session : Option String}
    (hsession : event.notYourTurn = some session) :
    ∃ p ∈ w.players, call.request.playsFor = some p.playerId ∧ session = p.sessionId := by
  rcases List.mem_append.1 hevent with hsent | hanswer
  · obtain ⟨m, -, rfl⟩ := List.mem_map.1 hsent
    cases hsession
  · obtain ⟨⟨id, hrequest⟩ | ⟨request, hrequest⟩, r, hresponse, hturn, rfl⟩ :=
      mem_answer_notYourTurn hanswer hsession
    · obtain ⟨p, hp, rfl, hplayer⟩ := refused_playCard1 hrequest hresponse hturn
      exact ⟨p, hp, by rw [hrequest]; rfl, hplayer⟩
    · obtain ⟨p, hp, hid, hplayer⟩ := refused_playCard2 hrequest hresponse hturn
      exact ⟨p, hp, by rw [hrequest]; exact hid, hplayer⟩

end Plays

omit [DecidableEq β] in
/-- A frame that plays for a player was sent by the browser with their session. -/
theorem FrameFacts.playsFor {own : β → String → Prop} {w : World} {b : β} {frame : Frame}
    (h : FrameFacts own w b frame) {request : Request} (hrequest : frame.request = some request)
    {k : ℤ} (hk : request.playsFor = some k) : ∃ s, Known w k s ∧ own b s := by
  cases frame with
  | create username s =>
      cases hrequest
      cases hk
  | join gameId username s =>
      cases hrequest
      cases hk
  | dealPlayer1Test body =>
      simp only [Frame.request] at hrequest
      split_ifs at hrequest
      cases hrequest
      cases hk
  | dealPlayer2Test body =>
      simp only [Frame.request] at hrequest
      split_ifs at hrequest
      cases hrequest
      cases hk
  | playCardPlayer1Test body =>
      obtain ⟨k', s, rfl, hknown, -, hown⟩ := h
      rw [Frame.request, Numerals.readInt_toString] at hrequest
      cases hrequest
      cases hk
      exact ⟨s, hknown, hown⟩
  | playCardPlayer2Test id1 id2 gameId =>
      obtain ⟨k1, s1, k2, s2, g, rfl, rfl, rfl, -, hknown, -, -, -, hown⟩ := h
      simp only [Frame.request, longOfText_toString] at hrequest
      cases hrequest
      cases hk
      exact ⟨s2, hknown, hown⟩
  | leave gameId s playerId =>
      cases hrequest
      cases hk

/-- Two browsers: the first one creates a game, the second one joins it, the first
one starts the game and clicks on its cards. -/
def firstClick : List (NetMove Bool) :=
  [.act false (.goto 0 .home), .visit false (0, 7),
    .act false (.submitUsername 0 annDigits "Ann"), .serve 0 (.same, .same),
    .act false (.event 0 0 annDigits), .visit false (0, 7),
    .act true (.goto 0 .home), .visit true (0, 7),
    .act true (.submitGameId 0 bobDigits " 1" "Bob"), .serve 0 (.same, .same),
    .act true (.event 0 0 bobDigits), .visit true (0, 7),
    .act false (.event 0 0 annDigits), .visit false (0, 7),
    .act false (.startGame 0), .serve 0 (.same, .same), .serve 0 (.same, .same),
    .act false (.event 0 0 annDigits), .act false (.playCard1 0)]

/-- The browser that makes a session id. -/
def firstClickOwner (session : String) : Bool := session = generateUUID bobDigits

theorem firstClick_requests :
    (netRun Bool migratedDeck firstClick).requests = [(false, .playCardPlayer1Test "1")] := by
  decide +kernel

/-- The frame asks for a card to be played. -/
def Frame.isPlay : Frame → Bool
  | .playCardPlayer1Test _ => true
  | .playCardPlayer2Test _ _ _ => true
  | _ => false

/-- The players a play request names. -/
def Request.playerIds : Request → List ℤ
  | .playCardPlayer1 player1Id => [player1Id]
  | .playCardPlayer2 request => request.player1Id.toList ++ request.player2Id.toList
  | _ => []

/-- The game a play request names. -/
def Request.gameIds : Request → List ℤ
  | .playCardPlayer2 request => request.gameId.toList
  | _ => []

/-- **A play from a page fails only if a row has been deleted.**  Whatever has happened
in the network, a frame that a button to play has sent is understood, and the request
ends in an exception only if it names a player or a game whose id was given out and
who is no longer stored: somebody has left.  Ids are given out from one on. -/
theorem plays_fail_only_after_delete (deck : Deck) (moves : List (NetMove β)) (b : β)
    (frame : Frame) (hframe : (b, frame) ∈ (netRun β deck moves).requests)
    (hplay : frame.isPlay = true) :
    let w := (netRun β deck moves).server
    ∃ request, frame.request = some request ∧ ∀ rows shuffle,
      (server.out w ⟨request, rows, shuffle⟩).response.isOk = false →
      (∃ k ∈ request.playerIds, 0 < k ∧ k < w.nextPlayerId ∧ k ∉ w.playerIds) ∨
        ∃ g ∈ request.gameIds,
          0 < g ∧ g < w.nextGameId ∧ g ∉ w.games.map GameEntity.gameId := by
  intro w
  have hsound := sound_any deck moves
  have hfacts := hsound.requests (b, frame) hframe
  obtain ⟨calls, hrun⟩ := hsound.server.run
  cases frame with
  | playCardPlayer1Test body =>
      obtain ⟨k, s, rfl, hknown, -⟩ := hfacts
      refine ⟨.playCardPlayer1 k, by rw [Frame.request, Numerals.readInt_toString]; rfl, ?_⟩
      intro rows shuffle hfailed
      refine Or.inl ⟨k, List.mem_singleton_self k, hknown.positive, hknown.issued,
        fun hmem => ?_⟩
      obtain ⟨p, hrow⟩ := exists_rowOf_player hmem
      have hanswered : (server.out w ⟨.playCardPlayer1 k, rows, shuffle⟩).response.isOk = true :=
        playCard1_answered rfl hrow
      cases hanswered.symm.trans hfailed
  | playCardPlayer2Test id1 id2 gameId =>
      obtain ⟨k1, s1, k2, s2, g, rfl, rfl, rfl, hknown1, hknown2, -, hissued, -⟩ := hfacts
      refine ⟨.playCardPlayer2 ⟨some k1, some k2, some g⟩,
        by simp only [Frame.request, longOfText_toString], ?_⟩
      intro rows shuffle hfailed
      by_contra hstored
      push Not at hstored
      obtain ⟨hplayers, hgames⟩ := hstored
      obtain ⟨p1, hp1⟩ :=
        exists_rowOf_player (hplayers k1 (by simp [Request.playerIds]) hknown1.positive
          hknown1.issued)
      obtain ⟨p2, hp2⟩ :=
        exists_rowOf_player (hplayers k2 (by simp [Request.playerIds]) hknown2.positive
          hknown2.issued)
      have hgame := hgames g (by simp [Request.gameIds]) hissued.1 hissued.2
      obtain ⟨row, hrow⟩ := exists_rowOf_game (w := w) (k := g) (by simpa using hgame)
      have hcard1 : w.player2Turn = true → w.playedCard1 ≠ none := by
        rw [show w = server.run (World.initial deck) calls from hrun]
        exact (piles_run deck calls).playedCard1
      have hstored : Stored k1 k2 g p1 p2 w := ⟨⟨row, hrow⟩, hp1, hp2⟩
      have hanswered : (server.out w ⟨.playCardPlayer2 ⟨some k1, some k2, some g⟩, rows,
          shuffle⟩).response.isOk = true := playCard2_answered rfl hstored hcard1
      cases hanswered.symm.trans hfailed
  | _ => cases hplay

/-- The first browser leaves while its card is on its way, and the leave is served
first. -/
def leftMeanwhile : List (NetMove Bool) :=
  firstClick ++ [.act false (.leaveGame 0), .serve 1 (.same, .same)]

theorem plays_fail_only_after_delete_leftMeanwhile :
    (false, Frame.playCardPlayer1Test "1") ∈
        (netRun Bool migratedDeck leftMeanwhile).requests ∧
      (server.out (netRun Bool migratedDeck leftMeanwhile).server
        ⟨.playCardPlayer1 1, .same, .same⟩).response.isOk = false ∧
      1 < (netRun Bool migratedDeck leftMeanwhile).server.nextPlayerId ∧
      1 ∉ (netRun Bool migratedDeck leftMeanwhile).server.playerIds := by
  have hmem : (false, Frame.playCardPlayer1Test "1") ∈
      (netRun Bool migratedDeck leftMeanwhile).requests := by decide +kernel
  have hfailed : (server.out (netRun Bool migratedDeck leftMeanwhile).server
      ⟨.playCardPlayer1 1, .same, .same⟩).response.isOk = false := by decide +kernel
  have hread : (Frame.playCardPlayer1Test "1").request = some (.playCardPlayer1 1) := by
    decide +kernel
  obtain ⟨request, hrequest, hdeleted⟩ :=
    plays_fail_only_after_delete migratedDeck leftMeanwhile false _ hmem rfl
  refine ⟨hmem, hfailed, ?_⟩
  cases hread.symm.trans hrequest
  generalize (netRun Bool migratedDeck leftMeanwhile).server = w at hdeleted hfailed ⊢
  rcases hdeleted .same .same hfailed with ⟨k, hk, -, hissued, hgone⟩ | ⟨g, hg, -⟩
  · cases List.mem_singleton.1 hk
    exact ⟨hissued, hgone⟩
  · cases hg

end WarCardGame
