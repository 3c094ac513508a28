import WarCardGame.Game.Conservation

/-!
# The piles that the clients show

When a pile grows the server sends the whole pile, and the page `gamePlay` replaces
what it shows by what it is sent.  So the page is right as long as every change of a
pile is followed by a message to the topic of that pile, whatever happens next: a
request may throw after it has changed a pile.

* `ClientPage.onMessage` — what the page does with a message.
* `Follows` — between two states, the last list sent for each pile is the pile.
* `Follows.handle` — every request but a leave keeps to that.
* `displays_follow_piles` — **the page shows the piles** after every request.
-/

namespace WarCardGame

open Lib
open Lib.War (Side)

/-! ## The page -/

/-- The elements of the page that show the captured cards of a player: a line for
each card, the property `style.display`, and the text of the count. -/
structure CapturedPanel where
  lines : List String
  styleDisplay : String
  count : String
  deriving DecidableEq, Repr

/-- The elements as `gamePlay.html` has them. -/
def CapturedPanel.initial : CapturedPanel := ⟨[], "", ""⟩

/-- What `displayPlayer1CapturedCards` and `displayPlayer2CapturedCards` have in
common, with the function for the count that each of them calls. -/
def displayCapturedCards (capturedCards : List CardsEntity) : CapturedPanel where
  lines := capturedCards.map fun card => card.name ++ " - " ++ card.suit
  styleDisplay := if 0 < capturedCards.length then "block" else "none"
  count := "Captured cards count: " ++ toString capturedCards.length

/-- The part of the page `gamePlay` that shows captured cards. -/
structure ClientPage where
  player1 : CapturedPanel
  player2 : CapturedPanel
  deriving DecidableEq, Repr

namespace ClientPage

def initial : ClientPage := ⟨.initial, .initial⟩

def panel (page : ClientPage) : Side → CapturedPanel
  | .player1 => page.player1
  | .player2 => page.player2

/-- `displayPlayer1CapturedCards`. -/
def displayPlayer1CapturedCards (page : ClientPage) (capturedCards : List CardsEntity) :
    ClientPage :=
  { page with player1 := displayCapturedCards capturedCards }

/-- `displayPlayer2CapturedCards`. -/
def displayPlayer2CapturedCards (page : ClientPage) (capturedCards : List CardsEntity) :
    ClientPage :=
  { page with player2 := displayCapturedCards capturedCards }

/-- The subscriptions of `websocket.js`: no other topic touches these elements. -/
def onMessage (page : ClientPage) : Message → ClientPage
  | .capturedCardsPlayer1 cards => page.displayPlayer1CapturedCards cards
  | .capturedCardsPlayer2 cards => page.displayPlayer2CapturedCards cards
  | .gameWar _ => page
  | .gameWinner _ => page
  | .updateGameAfterLeave _ => page

end ClientPage

/-! ## The lists sent -/

/-- The list that a message carries to the topic of a side's pile. -/
def Message.capturedCards (side : Side) : Message → Option (List CardsEntity)
  | .capturedCardsPlayer1 cards => if side = .player1 then some cards else none
  | .capturedCardsPlayer2 cards => if side = .player2 then some cards else none
  | _ => none

/-- The last list sent to the topic of a side's pile, if there is one. -/
def lastCaptured (side : Side) (messages : List Message) : Option (List CardsEntity) :=
  (messages.filterMap (Message.capturedCards side)).getLast?

theorem lastCaptured_append (side : Side) (ms ns : List Message) :
    lastCaptured side (ms ++ ns) = (lastCaptured side ns).or (lastCaptured side ms) := by
  rw [lastCaptured, List.filterMap_append, List.getLast?_append]
  rfl

theorem lastCaptured_singleton (side : Side) (m : Message) :
    lastCaptured side [m] = m.capturedCards side := by
  cases h : m.capturedCards side with
  | none => simp [lastCaptured, h]
  | some cards => simp [lastCaptured, h]

/-- A panel is what the last list makes of it. -/
theorem ClientPage.panel_foldl (page : ClientPage) (side : Side) (messages : List Message) :
    (messages.foldl onMessage page).panel side =
      (lastCaptured side messages).elim (page.panel side) displayCapturedCards := by
  induction messages using List.reverseRecOn with
  | nil => rfl
  | append_singleton messages m ih =>
      rw [List.foldl_append, lastCaptured_append, lastCaptured_singleton]
      cases m <;> cases side <;> first | rfl | exact ih

/-! ## What a request does -/

/-- What happened between two states: the messages sent on the way end with the
piles, and a pile for which nothing was sent is as it was. -/
def Follows (w w' : World) : Prop :=
  ∃ messages, w'.sent = w.sent ++ messages ∧
    ∀ side, (lastCaptured side messages).getD (w.pileOf side) = w'.pileOf side

namespace Follows

/-- Neither a message nor a change of a pile. -/
theorem of_same {w w' : World} (hsent : w'.sent = w.sent)
    (hpile1 : w'.player1CapturedCards = w.player1CapturedCards)
    (hpile2 : w'.player2CapturedCards = w.player2CapturedCards) : Follows w w' := by
  refine ⟨[], by rw [hsent, List.append_nil], fun side => ?_⟩
  cases side with
  | player1 => exact hpile1.symm
  | player2 => exact hpile2.symm

theorem refl (w : World) : Follows w w := of_same rfl rfl rfl

theorem trans {w w' w'' : World} (h : Follows w w') (h' : Follows w' w'') : Follows w w'' := by
  obtain ⟨ms, hsent, hpiles⟩ := h
  obtain ⟨ns, hsent', hpiles'⟩ := h'
  refine ⟨ms ++ ns, by rw [hsent', hsent, List.append_assoc], fun side => ?_⟩
  rw [← hpiles' side, ← hpiles side, lastCaptured_append, Option.getD_or]

/-- A message to another topic. -/
theorem send_text (w : World) {m : Message} (h : ∀ side, m.capturedCards side = none) :
    Follows w (w.send [m]) := by
  refine ⟨[m], rfl, fun side => ?_⟩
  rw [lastCaptured_singleton, h side]
  rfl

/-- A pile grows, and is sent. -/
theorem captured1 (w : World) (cards : List CardsEntity) : Follows w (w.captured1 cards) := by
  refine ⟨[.capturedCardsPlayer1 (w.player1CapturedCards ++ cards)], rfl, fun side => ?_⟩
  cases side <;> rfl

theorem captured2 (w : World) (cards : List CardsEntity) : Follows w (w.captured2 cards) := by
  refine ⟨[.capturedCardsPlayer2 (w.player2CapturedCards ++ cards)], rfl, fun side => ?_⟩
  cases side <;> rfl

/-- Everything a round does keeps to it. -/
theorem rule : RoundRule Follows where
  refl := refl
  trans := trans
  saveCard _ := of_same rfl rfl rfl
  captured1 := captured1
  captured2 := captured2
  sendWar w := send_text w fun _ => rfl
  sendWinner w _ := send_text w fun _ => rfl

theorem finishRound (player1Id player2Id gameId : ℤ) (hand : List CardsEntity) (w : World) :
    Follows w (WarCardGame.finishRound player1Id player2Id gameId hand w).2 := by
  have hturn : Follows w w.turnBack := of_same rfl rfl rfl
  rcases finishRound_cases player1Id player2Id gameId hand w with
    ⟨-, h⟩ | ⟨game, player1, player2, -, -, -, -, h⟩ | ⟨-, -, h⟩ <;> rw [h]
  · exact hturn
  · exact hturn.trans (send_text _ fun _ => rfl)
  · exact hturn

theorem playCard1 (rows : CardOrder) (playerId : ℤ) (w : World) :
    Follows w (WarCardGame.playCard1 rows playerId w).2 := by
  rw [playCard1_apply]
  cases PlayerRepository.rowOf w.players playerId with
  | none => exact refl w
  | some player1 =>
      cases w.player1Turn with
      | false => exact refl w
      | true =>
          rcases playFirst (CardsRepository.cardsOf rows playerId w.cards) with _ | ⟨card, hand⟩
          · exact refl w
          · exact of_same rfl rfl rfl

/-- A request of player 2, with arbitrary ids, and wherever it stops. -/
theorem playCard2 (rows : CardOrder) (request : PlayCardRequest) (w : World) :
    Follows w (WarCardGame.playCard2 rows request w).2 := by
  by_cases hnull : request.player1Id = none ∨ request.player2Id = none ∨ request.gameId = none
  · rw [playCard2_null rows w hnull]
    exact refl w
  obtain ⟨_ | player1Id, _ | player2Id, _ | gameId⟩ := request
  all_goals try simp at hnull
  rw [playCard2_apply]
  cases PlayerRepository.rowOf w.players player2Id with
  | none => exact refl w
  | some player2 =>
      cases w.player2Turn with
      | false => exact refl w
      | true =>
          rcases playFirst (CardsRepository.cardsOf rows player2Id w.cards) with _ | ⟨card, hand⟩
          · exact refl w
          · have hdown : Follows w (w.putDown2 card) := of_same rfl rfl rfl
            have hround := rule.gameRound rows player1Id player2Id gameId (w.putDown2 card)
            refine hdown.trans (Handler.bind_related (R := Follows) rule.trans hround fun _ v => ?_)
            rw [Handler.bind_pure_state]
            exact finishRound player1Id player2Id gameId hand v

theorem dealCards1 (rows shuffle : CardOrder) (session : Option String) (w : World) :
    Follows w (WarCardGame.dealCards1 rows shuffle session w).2 := by
  rw [dealCards1_apply]
  cases sessionLookup w.players session with
  | error e => exact refl w
  | ok player => exact of_same rfl rfl rfl

theorem dealCards2 (rows shuffle : CardOrder) (session : Option String) (w : World) :
    Follows w (WarCardGame.dealCards2 rows shuffle session w).2 := by
  rw [dealCards2_apply]
  cases sessionLookup w.players session with
  | error e => exact refl w
  | ok player => exact of_same rfl rfl rfl

theorem createGameAndPlayer (request : CreateGameRequest) (w : World) :
    Follows w (GameController.createGameAndPlayer request w).2 := by
  rcases createGameAndPlayer_cases request w with ⟨-, h⟩ | ⟨name, session, -, h⟩ <;> rw [h]
  · exact refl w
  · exact of_same rfl rfl rfl

theorem joinGame (request : JoinGameRequest) (w : World) :
    Follows w (GameController.joinGame request w).2 := by
  rcases joinGame_cases request w with ⟨-, h⟩ | ⟨gameId, -, -, h⟩ |
    ⟨gameId, game, -, -, ⟨-, h⟩ | ⟨name, session, -, ⟨-, h⟩ | ⟨-, -, h⟩⟩⟩ <;> rw [h]
  · exact refl w
  · exact refl w
  · exact refl w
  · exact of_same rfl rfl rfl
  · exact of_same rfl rfl rfl

end Follows

/-- The request is a leave. -/
def Call.isLeave (call : Call) : Bool :=
  match call.request with
  | .leaveGame _ => true
  | _ => false

/-- **Every request but a leave** sends the piles it changes, whether it returns or
throws. -/
theorem Follows.handle {call : Call} (hcall : call.isLeave = false) (w : World) :
    Follows w (WarCardGame.handle call w).2 := by
  unfold WarCardGame.handle
  cases hrequest : call.request with
  | createGameAndPlayer request =>
      simp only [Handler.bind_pure_state]
      exact Follows.createGameAndPlayer request w
  | joinGame request =>
      simp only [Handler.bind_pure_state]
      exact Follows.joinGame request w
  | dealCardsPlayer1 session =>
      simp only [Handler.bind_pure_state]
      exact Follows.dealCards1 call.rows call.shuffle session w
  | dealCardsPlayer2 session =>
      simp only [Handler.bind_pure_state]
      exact Follows.dealCards2 call.rows call.shuffle session w
  | playCardPlayer1 player1Id =>
      simp only [Handler.bind_pure_state]
      exact Follows.playCard1 call.rows player1Id w
  | playCardPlayer2 request =>
      simp only [Handler.bind_pure_state]
      exact Follows.playCard2 call.rows request w
  | leaveGame request => simp [Call.isLeave, hrequest] at hcall

/-! ## Whole runs -/

/-- The messages published in a run, in order. -/
def published (w : World) (calls : List Call) : List Message :=
  (server.outputs w calls).flatMap Outcome.sent

/-- The last list sent in one request, or the pile before it, is the pile. -/
theorem lastCaptured_next {call : Call} (hcall : call.isLeave = false) (w : World) (side : Side) :
    (lastCaptured side (server.out w call).sent).getD (w.pileOf side) =
      (server.next w call).pileOf side := by
  obtain ⟨messages, hsent, hpiles⟩ := Follows.handle hcall w.quiet
  have hmessages : (server.out w call).sent = messages := hsent
  rw [hmessages]
  exact hpiles side

/-- The same for a run. -/
theorem lastCaptured_published {calls : List Call} (hcalls : ∀ call ∈ calls, call.isLeave = false)
    (w : World) (side : Side) :
    (lastCaptured side (published w calls)).getD (w.pileOf side) =
      (server.run w calls).pileOf side := by
  induction calls generalizing w with
  | nil => rfl
  | cons call calls ih =>
      have hstep := lastCaptured_next (hcalls call (List.mem_cons_self ..)) w side
      have hrest := ih (fun c hc => hcalls c (List.mem_cons_of_mem _ hc)) (server.next w call)
      have hsplit : published w (call :: calls) =
          (server.out w call).sent ++ published (server.next w call) calls := rfl
      -- a list sent later replaces one sent now
      rw [Machine.run_cons, ← hrest, hsplit, lastCaptured_append, Option.getD_or, hstep]

/-- A panel shows a pile: the text of the count is the number of its cards, there is a
line for each card in order, and the lines are displayed if there are any. -/
structure CapturedPanel.Shows (panel : CapturedPanel) (pile : List CardsEntity) : Prop where
  count : panel.count = "Captured cards count: " ++ toString pile.length
  lines : panel.lines = pile.map fun card => card.name ++ " - " ++ card.suit
  displayed : panel.styleDisplay = "block" ↔ pile ≠ []

/-- **What the script shows of a list** is the list: its count, and its cards. -/
theorem shows_displayCapturedCards (pile : List CardsEntity) :
    (displayCapturedCards pile).Shows pile where
  count := rfl
  lines := rfl
  displayed := by
    cases pile with
    | nil => exact iff_of_false (by decide) (by simp)
    | cons card rest => exact iff_of_true rfl (by simp)

/-- **The page shows the piles.**  From a state with empty piles, after every request
of a run without a leave, whether the requests return or throw: the last list sent
for a pile (the empty list if none was sent) is the pile.  A page that takes the
messages in order shows it, with the right count; only while nothing was sent for a pile,
which is empty then, the page is as `gamePlay.html` has it, without a count. -/
theorem displays_follow_piles (w : World) (hpile1 : w.player1CapturedCards = [])
    (hpile2 : w.player2CapturedCards = []) (calls : List Call)
    (hcalls : ∀ call ∈ calls, call.isLeave = false) (pre : List Call) (hpre : pre <+: calls)
    (side : Side) :
    let panel := ((published w pre).foldl ClientPage.onMessage .initial).panel side
    let pile := (server.run w pre).pileOf side
    (lastCaptured side (published w pre)).getD [] = pile ∧
      (lastCaptured side (published w pre) ≠ none → panel.Shows pile) ∧
      (lastCaptured side (published w pre) = none → panel = .initial ∧ pile = []) := by
  intro panel pile
  have hempty : w.pileOf side = [] := by
    cases side with
    | player1 => exact hpile1
    | player2 => exact hpile2
  have hlast := lastCaptured_published (fun c hc => hcalls c (hpre.subset hc)) w side
  rw [hempty] at hlast
  have hpile : (lastCaptured side (published w pre)).getD [] = pile := hlast
  have hpanel : panel = (lastCaptured side (published w pre)).elim
      (ClientPage.initial.panel side) displayCapturedCards := ClientPage.panel_foldl _ _ _
  cases hsent : lastCaptured side (published w pre) with
  | none =>
      rw [hsent] at hpile hpanel
      refine ⟨hpile, fun hsome => absurd rfl hsome, fun _ => ⟨?_, hpile.symm⟩⟩
      rw [hpanel]
      cases side <;> rfl
  | some cards =>
      rw [hsent] at hpile hpanel
      refine ⟨hpile, fun _ => ?_, fun hnone => by cases hnone⟩
      rw [hpanel, ← hpile]
      exact shows_displayCapturedCards cards

/-- Player 1's last card wins, and player 2's request names a game that is not
stored: the pile is sent before the request throws. -/
def lastCardsOfUnknownGame : List Call :=
  [⟨.playCardPlayer1 1, .same, .same⟩,
    ⟨.playCardPlayer2 ⟨some 1, some 2, some 9⟩, .same, .same⟩]

theorem displays_follow_piles_failedRequest :
    let w := (Match.ofRanks [7] [5]).world
    ((server.outputs w lastCardsOfUnknownGame).map fun o => o.response.isOk) = [true, false] ∧
      (server.run w lastCardsOfUnknownGame).player1CapturedCards.length = 2 ∧
      (((published w lastCardsOfUnknownGame).foldl ClientPage.onMessage .initial).panel
        .player1).count = "Captured cards count: 2" := by
  intro w
  have hlength : (server.run w lastCardsOfUnknownGame).player1CapturedCards.length = 2 := by
    decide +kernel
  refine ⟨by decide +kernel, hlength, ?_⟩
  obtain ⟨-, hshows, -⟩ := displays_follow_piles w rfl rfl lastCardsOfUnknownGame (by decide)
    lastCardsOfUnknownGame (List.prefix_refl _) .player1
  rw [(hshows (by decide +kernel)).count]
  show "Captured cards count: " ++
    toString (server.run w lastCardsOfUnknownGame).player1CapturedCards.length = _
  rw [hlength]
  rfl

end WarCardGame
