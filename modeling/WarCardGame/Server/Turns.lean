import WarCardGame.Server.Plays
import WarCardGame.Server.Tables

/-!
# The turn protocol

Whose turn it is stands in two independent flags that four operations write.
`TurnState plays w` says what they amount to: `plays` are the plays accepted
since the turn was last reset, they alternate from player 1 on, the flags say
who is next, and while player 2 is next `playedCard1` is the card of the last
of them.

* `leaveGame_turn` — a request to leave resets the turn, or leaves it alone.
* `TurnState.step` — what every request keeps.
* `turn_protocol` — the protocol over whole runs.
-/

namespace WarCardGame

open Lib
open Lib.War (Side)

/-! ## What the protocol is about -/

/-- A `CardsService` as its constructor leaves it, over any database. -/
structure FreshService (w : World) : Prop where
  player1Turn : w.player1Turn = true
  player2Turn : w.player2Turn = false
  playedCard1 : w.playedCard1 = none
  playedCard2 : w.playedCard2 = none
  player1CapturedCards : w.player1CapturedCards = []
  player2CapturedCards : w.player2CapturedCards = []

/-- A request to deal, to play or to leave; a play names players and a game that
are stored at that moment. -/
def turnRequest (w : World) (call : Call) : Bool :=
  match call.request with
  | .dealCardsPlayer1 _ => true
  | .dealCardsPlayer2 _ => true
  | .playCardPlayer1 player1Id => decide (player1Id ∈ w.playerIds)
  | .playCardPlayer2 request =>
      decide (request.player1Id ∈ w.playerIds.map some) &&
        decide (request.player2Id ∈ w.playerIds.map some) &&
        decide (request.gameId ∈ w.games.map fun g => some g.gameId)
  | .leaveGame _ => true
  | .createGameAndPlayer _ => false
  | .joinGame _ => false

/-- The request is a leave that gets to `resetTurn`: it finds the game and the
player, and no foreign key refuses the delete. -/
def resetsTurn (w : World) (call : Call) : Bool :=
  match call.request with
  | .leaveGame request =>
      (request.gameId.any fun gameId => (GameRepository.rowOf w.games gameId).isSome) &&
        (match sessionLookup w.players request.playerSession with
          | .ok player => player.isSome
          | .error _ => false) &&
        (server.out w call).response.isOk
  | _ => false

/-- The record of accepted plays after one more request. -/
def playsAfter (plays : List Play) (w : World) (call : Call) : List Play :=
  if resetsTurn w call then [] else plays ++ (acceptedPlay call (server.out w call)).toList

/-- The plays accepted since the turn was last reset, in order. -/
def playsSinceReset (w : World) (calls : List Call) : List Play :=
  server.history playsAfter [] w calls

/-- Player 1, player 2, player 1, and so on: the first `n`. -/
def turnOrder (n : ℕ) : List Side :=
  (List.range n).map fun i => if i % 2 = 0 then .player1 else .player2

theorem turnOrder_succ (n : ℕ) :
    turnOrder (n + 1) = turnOrder n ++ [if n % 2 = 0 then .player1 else .player2] := by
  simp [turnOrder, List.range_succ]

/-! ## Leaving -/

/-- **A request to leave** resets the turn or leaves it alone; the played card
stays. -/
theorem leaveGame_turn {call : Call} {request : LeaveGameRequest}
    (hrequest : call.request = .leaveGame request) (w : World) :
    (server.next w call).playedCard1 = w.playedCard1 ∧
    ((resetsTurn w call = true ∧ (server.next w call).player1Turn = true ∧
        (server.next w call).player2Turn = false) ∨
      (resetsTurn w call = false ∧ (server.next w call).player1Turn = w.player1Turn ∧
        (server.next w call).player2Turn = w.player2Turn)) := by
  have herror : ∀ {e w'}, GameService.leaveGame call.rows call.shuffle request w.quiet =
      (.error e, w') → (server.out w call).response = .error e := by
    intro e w' h
    rw [response_leaveGame hrequest, GameController.leaveGame, Handler.bind_error h]
    rfl
  obtain ⟨ms, hstate⟩ := leaveGame_state call.rows call.shuffle request w.quiet
  rw [next_leaveGame hrequest, hstate]
  rcases leaveGame_cases call.rows call.shuffle request w.quiet with
    ⟨e, h, -⟩ | ⟨gameId, hid, hmissing, h⟩ | ⟨gameId, game, player, hid, hgame, hplayer, h⟩
  · have hresets : resetsTurn w call = false := by
      simp [resetsTurn, hrequest, herror h, Except.isOk, Except.toBool]
    rw [h]
    exact ⟨rfl, Or.inr ⟨hresets, rfl, rfl⟩⟩
  · have hresets : resetsTurn w call = false := by
      rcases hmissing with hgame | hplayer
      · have hrow : GameRepository.rowOf w.games gameId = none := hgame
        simp [resetsTurn, hrequest, hid, hrow]
      · have hlook : sessionLookup w.players request.playerSession = .ok none := hplayer
        simp [resetsTurn, hrequest, hlook]
    rw [h]
    exact ⟨rfl, Or.inr ⟨hresets, rfl, rfl⟩⟩
  · obtain ⟨-, h1, h2, hcard, -⟩ :=
      vacated_closeGame_frame call.rows call.shuffle player game w.quiet
    simp only at h
    split_ifs at h with hreferenced
    · have hresets : resetsTurn w call = false := by
        simp [resetsTurn, hrequest, herror h, Except.isOk, Except.toBool]
      rw [h]
      exact ⟨hcard, Or.inr ⟨hresets, h1, h2⟩⟩
    · have hok : (server.out w call).response = .ok .leaveGame := by
        obtain ⟨_, session⟩ := request
        cases hid
        rw [response_leaveGame hrequest, leaveGame_ok (by rw [h])]
        rfl
      have hrow : GameRepository.rowOf w.games gameId = some game := hgame
      have hlook : sessionLookup w.players request.playerSession = .ok (some player) := hplayer
      have hresets : resetsTurn w call = true := by
        simp [resetsTurn, hrequest, hid, hrow, hlook, hok, Except.isOk, Except.toBool]
      rw [h]
      exact ⟨hcard, Or.inl ⟨hresets, rfl, rfl⟩⟩

/-! ## The invariant -/

/-- What the two flags and the played card amount to. -/
structure TurnState (plays : List Play) (w : World) : Prop where
  order : plays.map Play.side = turnOrder plays.length
  player1Turn : w.player1Turn = decide (plays.length % 2 = 0)
  player2Turn : w.player2Turn = decide (plays.length % 2 = 1)
  playedCard1 : w.player2Turn = true →
    ∃ c, plays.getLast? = some ⟨.player1, c⟩ ∧ w.playedCard1 = some c

namespace TurnState

variable {plays : List Play} {w w' : World}

/-- Nothing accepted yet. -/
theorem start (h1 : w.player1Turn = true) (h2 : w.player2Turn = false) : TurnState [] w where
  order := rfl
  player1Turn := h1
  player2Turn := h2
  playedCard1 := fun h => by
    rw [h2] at h
    cases h

theorem same (h : TurnState plays w) (h1 : w'.player1Turn = w.player1Turn)
    (h2 : w'.player2Turn = w.player2Turn) (hcard : w'.playedCard1 = w.playedCard1) :
    TurnState plays w' where
  order := h.order
  player1Turn := h1.trans h.player1Turn
  player2Turn := h2.trans h.player2Turn
  playedCard1 := by
    rw [h2, hcard]
    exact h.playedCard1

/-- Player 1's card is accepted. -/
theorem play1 (h : TurnState plays w) (hturn : w.player1Turn = true) {c : CardsEntity}
    (h1 : w'.player1Turn = false) (h2 : w'.player2Turn = true) (hcard : w'.playedCard1 = some c) :
    TurnState (plays ++ [⟨.player1, c⟩]) w' := by
  have heven : plays.length % 2 = 0 := by simpa [h.player1Turn] using hturn
  refine ⟨?_, ?_, ?_, fun _ => ⟨c, by simp, hcard⟩⟩
  · simp [h.order, turnOrder_succ, heven]
  · rw [h1, List.length_append, List.length_singleton, eq_comm, decide_eq_false_iff_not]
    omega
  · rw [h2, List.length_append, List.length_singleton, eq_comm, decide_eq_true_iff]
    omega

/-- Player 2's card is accepted. -/
theorem play2 (h : TurnState plays w) (hturn : w.player2Turn = true) {c : CardsEntity}
    (h1 : w'.player1Turn = true) (h2 : w'.player2Turn = false) :
    TurnState (plays ++ [⟨.player2, c⟩]) w' := by
  have hodd : plays.length % 2 = 1 := by simpa [h.player2Turn] using hturn
  refine ⟨?_, ?_, ?_, fun h => ?_⟩
  · simp [h.order, turnOrder_succ, hodd]
  · rw [h1, List.length_append, List.length_singleton, eq_comm, decide_eq_true_iff]
    omega
  · rw [h2, List.length_append, List.length_singleton, eq_comm, decide_eq_false_iff_not]
    omega
  · rw [h2] at h
    cases h

theorem playedCard1_ne_none (h : TurnState plays w) (hturn : w.player2Turn = true) :
    w.playedCard1 ≠ none := by
  obtain ⟨c, -, hc⟩ := h.playedCard1 hturn
  simp [hc]

end TurnState

/-- A stored key has a row. -/
theorem exists_rowOf_player {w : World} {k : ℤ} (hk : k ∈ w.playerIds) :
    ∃ player, PlayerRepository.rowOf w.players k = some player := by
  obtain ⟨p, hp, hkey⟩ := List.mem_map.1 hk
  rw [← Option.isSome_iff_exists, PlayerRepository.rowOf, List.find?_isSome]
  exact ⟨p, hp, by simpa using hkey⟩

theorem exists_rowOf_game {w : World} {k : ℤ} (hk : some k ∈ w.games.map fun g => some g.gameId) :
    ∃ game, GameRepository.rowOf w.games k = some game := by
  obtain ⟨g, hg, hkey⟩ := List.mem_map.1 hk
  rw [← Option.isSome_iff_exists, GameRepository.rowOf, List.find?_isSome]
  exact ⟨g, hg, by simpa using hkey⟩

/-- A play request of player 2 whose ids are stored names three rows. -/
theorem stored_of_turnRequest {w : World} {call : Call} {request : PlayCardRequest}
    (hrequest : call.request = .playCardPlayer2 request) (hallowed : turnRequest w call = true) :
    ∃ player1Id player2Id gameId player1 player2,
      request = ⟨some player1Id, some player2Id, some gameId⟩ ∧
        Stored player1Id player2Id gameId player1 player2 w := by
  simp only [turnRequest, hrequest, Bool.and_eq_true, decide_eq_true_eq] at hallowed
  obtain ⟨⟨h1, h2⟩, hg⟩ := hallowed
  obtain ⟨id1, id2, idg⟩ := request
  obtain ⟨player1Id, hid1, rfl⟩ := List.mem_map.1 h1
  obtain ⟨player2Id, hid2, rfl⟩ := List.mem_map.1 h2
  obtain ⟨g, hgmem, rfl⟩ := List.mem_map.1 hg
  obtain ⟨player1, hrow1⟩ := exists_rowOf_player hid1
  obtain ⟨player2, hrow2⟩ := exists_rowOf_player hid2
  exact ⟨player1Id, player2Id, g.gameId, player1, player2, rfl,
    exists_rowOf_game (List.mem_map.2 ⟨g, hgmem, rfl⟩), hrow1, hrow2⟩

/-- A request that is no leave does not reset the turn. -/
theorem playsAfter_of_not_leave {plays : List Play} {w : World} {call : Call}
    (h : ∀ request, call.request ≠ .leaveGame request) :
    playsAfter plays w call = plays ++ (acceptedPlay call (server.out w call)).toList := by
  have hresets : resetsTurn w call = false := by
    unfold resetsTurn
    split
    · rename_i request hrequest
      exact absurd hrequest (h request)
    · rfl
  rw [playsAfter, hresets, if_neg Bool.false_ne_true]

/-- A deal is no play. -/
theorem playsAfter_deal {plays : List Play} {w : World} {call : Call} {session : Option String}
    (hrequest : call.request = .dealCardsPlayer1 session ∨
      call.request = .dealCardsPlayer2 session) :
    playsAfter plays w call = plays := by
  rw [playsAfter_of_not_leave (by rcases hrequest with h | h <;> simp [h])]
  rcases hrequest with h | h <;> simp [acceptedPlay, h]

/-- A deal leaves the fields of the service alone. -/
theorem deal_service {w w' : World} {call : Call} {session : Option String}
    (hrequest : call.request = .dealCardsPlayer1 session ∨
      call.request = .dealCardsPlayer2 session) (hstep : Step w call w') :
    w'.player1Turn = w.player1Turn ∧ w'.player2Turn = w.player2Turn ∧
      w'.playedCard1 = w.playedCard1 := by
  cases hstep with
  | unchanged ms => exact ⟨rfl, rfl, rfl⟩
  | deal session player hand => exact ⟨rfl, rfl, rfl⟩
  | _ => rcases hrequest with h | h <;> simp_all

/-- **What every request keeps.** -/
theorem TurnState.step {plays : List Play} {w : World} {call : Call} (h : TurnState plays w)
    (hallowed : turnRequest w call = true) :
    TurnState (playsAfter plays w call) (server.next w call) := by
  have hquiet : TurnState plays w.quiet := h.same rfl rfl rfl
  cases hrequest : call.request with
  | createGameAndPlayer request => simp [turnRequest, hrequest] at hallowed
  | joinGame request => simp [turnRequest, hrequest] at hallowed
  | dealCardsPlayer1 session =>
      obtain ⟨h1, h2, hcard⟩ := deal_service (Or.inl hrequest) (step_next w call)
      rw [playsAfter_deal (Or.inl hrequest)]
      exact h.same h1 h2 hcard
  | dealCardsPlayer2 session =>
      obtain ⟨h1, h2, hcard⟩ := deal_service (Or.inr hrequest) (step_next w call)
      rw [playsAfter_deal (Or.inr hrequest)]
      exact h.same h1 h2 hcard
  | playCardPlayer1 playerId =>
      rw [playsAfter_of_not_leave (by simp [hrequest])]
      have hid : playerId ∈ w.playerIds := by simpa [turnRequest, hrequest] using hallowed
      obtain ⟨player, hrow⟩ := exists_rowOf_player hid
      rcases playCard1_step hrequest hrow with
        ⟨-, hnext, haccepted, -⟩ | ⟨card, hand, hturn, -, hnext, haccepted⟩ <;>
        rw [hnext, haccepted]
      · simpa using hquiet
      · exact h.play1 hturn rfl rfl rfl
  | playCardPlayer2 request =>
      rw [playsAfter_of_not_leave (by simp [hrequest])]
      obtain ⟨player1Id, player2Id, gameId, player1, player2, rfl, hstored⟩ :=
        stored_of_turnRequest hrequest hallowed
      rcases playCard2_step hrequest hstored h.playedCard1_ne_none with
        ⟨-, hnext, haccepted, -⟩ | ⟨card, hand, w', hturn, -, -, hnext, haccepted⟩ <;>
        rw [hnext, haccepted]
      · simpa using hquiet
      · exact h.play2 hturn rfl rfl
  | leaveGame request =>
      obtain ⟨hcard, ⟨hresets, h1, h2⟩ | ⟨hresets, h1, h2⟩⟩ := leaveGame_turn hrequest w
      · rw [playsAfter, if_pos hresets]
        exact TurnState.start h1 h2
      · have hnone : acceptedPlay call (server.out w call) = none := by
          simp [acceptedPlay, hrequest]
        rw [playsAfter, if_neg (by simp [hresets]), hnone, Option.toList_none, List.append_nil]
        exact h.same h1 h2 hcard

theorem turnState_run {w₀ : World} (hfresh : FreshService w₀) {calls : List Call}
    (hallowed : ∀ x ∈ server.steps w₀ calls, turnRequest x.1 x.2 = true) :
    TurnState (playsSinceReset w₀ calls) (server.run w₀ calls) :=
  Machine.history_invariant (C := fun w call => turnRequest w call = true)
    (fun _ _ _ h hallowed => h.step hallowed)
    (TurnState.start hfresh.player1Turn hfresh.player2Turn) hallowed

/-- A play request that is not accepted leaves no trace. -/
theorem TurnState.next_of_not_accepted {plays : List Play} {w : World} {call : Call}
    (h : TurnState plays w) (hallowed : turnRequest w call = true)
    (hplay : call.request.isPlay = true)
    (hnot : acceptedPlay call (server.out w call) = none) : server.next w call = w.quiet := by
  cases hrequest : call.request with
  | playCardPlayer1 playerId =>
      have hid : playerId ∈ w.playerIds := by simpa [turnRequest, hrequest] using hallowed
      obtain ⟨player, hrow⟩ := exists_rowOf_player hid
      rcases playCard1_step hrequest hrow with
        ⟨-, hnext, -⟩ | ⟨card, hand, -, -, -, haccepted⟩
      · exact hnext
      · rw [haccepted] at hnot
        cases hnot
  | playCardPlayer2 request =>
      obtain ⟨player1Id, player2Id, gameId, player1, player2, rfl, hstored⟩ :=
        stored_of_turnRequest hrequest hallowed
      rcases playCard2_step hrequest hstored h.playedCard1_ne_none with
        ⟨-, hnext, -⟩ | ⟨card, hand, w', -, -, -, -, haccepted⟩
      · exact hnext
      · rw [haccepted] at hnot
        cases hnot
  | _ => simp [hrequest, Request.isPlay] at hplay

/-- An accepted play of player 2 is a request of player 2. -/
theorem request_of_accepted2 {call : Call} {outcome : Outcome} {card : CardsEntity}
    (h : acceptedPlay call outcome = some ⟨.player2, card⟩) :
    ∃ request, call.request = .playCardPlayer2 request := by
  unfold acceptedPlay at h
  split at h
  · simp at h
  · rename_i request response hrequest hresponse
    exact ⟨_, hrequest⟩
  · cases h

/-- The round an accepted card of player 2 starts compares it with the last
accepted card of player 1. -/
theorem TurnState.round_of_accepted {plays : List Play} {w : World} {call : Call}
    (h : TurnState plays w) (hallowed : turnRequest w call = true) {card : CardsEntity}
    (haccepted : acceptedPlay call (server.out w call) = some ⟨.player2, card⟩) :
    ∃ player1Id player2Id gameId c1 w' ms,
      call.request = .playCardPlayer2 ⟨some player1Id, some player2Id, some gameId⟩ ∧
      plays.getLast? = some ⟨.player1, c1⟩ ∧
      (w.quiet.putDown2 card).playedCard1 = some c1 ∧
      (w.quiet.putDown2 card).playedCard2 = some card ∧
      gameRound call.rows player1Id player2Id gameId (w.quiet.putDown2 card) = (.ok (), w') ∧
      server.next w call = w'.turnBack.send ms := by
  obtain ⟨request, hrequest⟩ := request_of_accepted2 haccepted
  obtain ⟨player1Id, player2Id, gameId, player1, player2, rfl, hstored⟩ :=
    stored_of_turnRequest hrequest hallowed
  rcases playCard2_step hrequest hstored h.playedCard1_ne_none with
    ⟨-, -, hnot, -⟩ | ⟨card', hand, w', hturn, -, hround, hnext, haccepted'⟩
  · rw [hnot] at haccepted
    cases haccepted
  · rw [haccepted'] at haccepted
    cases haccepted
    obtain ⟨c1, hlast, hcard1⟩ := h.playedCard1 hturn
    exact ⟨player1Id, player2Id, gameId, c1, w', _, hrequest, hlast, hcard1, rfl, hround, hnext⟩

/-- **The turn protocol.**  Start from a fresh service and deal, play and leave
in any order, with plays that name stored rows.  Then exactly one flag is set;
the plays accepted since the last reset alternate, player 1 first; a play that
is not accepted changes nothing; and the round of an accepted card of player 2
compares it with the card of the last accepted play, which is player 1's. -/
theorem turn_protocol (w₀ : World) (hfresh : FreshService w₀) (calls : List Call)
    (hallowed : ∀ x ∈ server.steps w₀ calls, turnRequest x.1 x.2 = true) :
    let w := server.run w₀ calls
    let plays := playsSinceReset w₀ calls
    w.player1Turn = !w.player2Turn ∧
    plays.map Play.side = turnOrder plays.length ∧
    ∀ call, turnRequest w call = true →
      (call.request.isPlay = true → acceptedPlay call (server.out w call) = none →
        server.next w call = w.quiet) ∧
      (∀ card, acceptedPlay call (server.out w call) = some ⟨.player2, card⟩ →
        ∃ player1Id player2Id gameId c1 w' ms,
          call.request = .playCardPlayer2 ⟨some player1Id, some player2Id, some gameId⟩ ∧
          plays.getLast? = some ⟨.player1, c1⟩ ∧
          (w.quiet.putDown2 card).playedCard1 = some c1 ∧
          (w.quiet.putDown2 card).playedCard2 = some card ∧
          gameRound call.rows player1Id player2Id gameId (w.quiet.putDown2 card) = (.ok (), w') ∧
          server.next w call = w'.turnBack.send ms) := by
  intro w plays
  have hstate : TurnState plays w := turnState_run hfresh hallowed
  refine ⟨?_, hstate.order, fun call hcall => ⟨?_, ?_⟩⟩
  · rw [hstate.player1Turn, hstate.player2Turn]
    rcases Nat.mod_two_eq_zero_or_one plays.length with h | h <;> simp [h]
  · exact hstate.next_of_not_accepted hcall
  · exact fun card haccepted => hstate.round_of_accepted hcall haccepted

/-- A fresh service over two players in a game, and four cards. -/
def freshTable : World where
  players := [⟨1, "player1", some "session1"⟩, ⟨2, "player2", some "session2"⟩]
  cards := [⟨1, "5", "Hearts", 5, false, -1, none⟩, ⟨2, "8", "Hearts", 8, false, -1, none⟩,
    ⟨3, "3", "Clubs", 3, false, -1, none⟩, ⟨4, "9", "Clubs", 9, false, -1, none⟩]
  games := [⟨1, some 1, some 2, none, .newGame⟩]
  nextPlayerId := 3
  nextGameId := 2
  player1Turn := true
  player2Turn := false
  playedCard1 := none
  playedCard2 := none
  player1CapturedCards := []
  player2CapturedCards := []
  sent := []

/-- A deal, a card of player 1, and one more that is refused. -/
def openingCalls : List Call :=
  [⟨.dealCardsPlayer1 (some "session1"), .same, .same⟩,
    ⟨.dealCardsPlayer2 (some "session2"), .same, .same⟩,
    ⟨.playCardPlayer1 1, .same, .same⟩, ⟨.playCardPlayer1 1, .same, .same⟩]

/-- The answer of player 2. -/
def answerCall : Call := ⟨.playCardPlayer2 ⟨some 1, some 2, some 1⟩, .same, .same⟩

/-- The round is played, and player 1 puts down the next card. -/
def roundCalls : List Call := openingCalls ++ [answerCall, ⟨.playCardPlayer1 1, .same, .same⟩]

/-- Then player 2 leaves, and player 1 begins anew. -/
def leaveCalls : List Call :=
  roundCalls ++ [⟨.leaveGame ⟨some 1, some "session2"⟩, .same, .same⟩,
    ⟨.playCardPlayer1 1, .same, .same⟩]

theorem turn_protocol_roundAndLeave :
    FreshService freshTable ∧
    (∀ x ∈ server.steps freshTable leaveCalls, turnRequest x.1 x.2 = true) ∧
    (playsSinceReset freshTable roundCalls).map Play.side = turnOrder 3 ∧
    (playsSinceReset freshTable leaveCalls).map Play.side = turnOrder 1 ∧
    ∃ c1, (playsSinceReset freshTable openingCalls).getLast? = some ⟨.player1, c1⟩ ∧
      (server.run freshTable openingCalls).playedCard1 = some c1 := by
  have hfresh : FreshService freshTable := ⟨rfl, rfl, rfl, rfl, rfl, rfl⟩
  have hopening : ∀ x ∈ server.steps freshTable openingCalls, turnRequest x.1 x.2 = true := by
    rw [← List.all_eq_true]
    decide +kernel
  have hround : ∀ x ∈ server.steps freshTable roundCalls, turnRequest x.1 x.2 = true := by
    rw [← List.all_eq_true]
    decide +kernel
  have hleave : ∀ x ∈ server.steps freshTable leaveCalls, turnRequest x.1 x.2 = true := by
    rw [← List.all_eq_true]
    decide +kernel
  have hthree : (playsSinceReset freshTable roundCalls).length = 3 := by decide +kernel
  have hone : (playsSinceReset freshTable leaveCalls).length = 1 := by decide +kernel
  have horder3 := (turn_protocol freshTable hfresh roundCalls hround).2.1
  have horder1 := (turn_protocol freshTable hfresh leaveCalls hleave).2.1
  rw [hthree] at horder3
  rw [hone] at horder1
  -- the card of player 2 is compared with the one that player 1 has put down
  obtain ⟨-, hcompares⟩ := (turn_protocol freshTable hfresh openingCalls hopening).2.2 answerCall
    (by decide +kernel)
  obtain ⟨-, -, -, c1, -, -, -, hlast, hcard1, -⟩ :=
    hcompares ⟨3, "3", "Clubs", 3, true, 0, some 2⟩ (by decide +kernel)
  exact ⟨hfresh, hleave, horder3, horder1, c1, hlast, hcard1⟩

end WarCardGame
