import WarCardGame.Client.Authority
import WarCardGame.Server.Plays

/-!
# The cards on the table

`gamePlay.js` loads an image for each of 52 cards, under the name of the card, and the
page shows a card by the name of its image.  It shows what the answers to the plays
tell it, and it forgets the card of player 2 when player 1 puts down the next one.

* `Event.onTable`, `Draws.handle` — what an event does to the two cards shown.
* `playCard1_table`, `playCard2_table` — what a play does to the server, next to what is
  published of it.
* `table_right_iff` — **the page shows the pair that was played**, all the way through a
  game, exactly if no play of player 2 fails after the turn was given back.  The cards
  that a war draws are not shown.
* `Browser.tabs_act` — the rule for what all tabs of a browser keep.
* `pictures_preloaded` — whatever happens, **every image that is shown was loaded**.
-/

namespace WarCardGame

open Lib

/-! ## What an event shows -/

namespace GamePlayPage

/-- The images of the two cards. -/
def table (page : GamePlayPage) : Option String × Option String :=
  (page.player1CardSprite, page.player2CardSprite)

end GamePlayPage

/-- The image of the card that an event brings to the table. -/
def Event.picture : Event → Option String
  | .playCardPlayer1Test response =>
      if response.turn then response.card.map GamePlayPage.textureOf else none
  | .playCardPlayer2Test response =>
      if response.turn then response.card.map GamePlayPage.textureOf else none
  | _ => none

/-- The event tells of a play in turn. -/
def Event.inTurn : Event → Bool
  | .playCardPlayer1Test response => response.turn
  | .playCardPlayer2Test response => response.turn
  | _ => false

/-- What an event does to the images: a play of player 1 starts a new pair. -/
def Event.onTable (table : Option String × Option String) : Event → Option String × Option String
  | .playCardPlayer1Test response =>
      if response.turn then ((response.card.map GamePlayPage.textureOf).or table.1, none) else table
  | .playCardPlayer2Test response =>
      if response.turn then (table.1, (response.card.map GamePlayPage.textureOf).or table.2)
      else table
  | _ => table

/-- The event may take a tab to another page. -/
def Event.redirects : Event → Bool
  | .createGame _ => true
  | .joinGame _ => true
  | _ => false

theorem Event.picture_of_not_inTurn {event : Event} (h : event.inTurn = false) :
    event.picture = none := by
  cases event with
  | playCardPlayer1Test response => exact if_neg (Bool.eq_false_iff.1 h)
  | playCardPlayer2Test response => exact if_neg (Bool.eq_false_iff.1 h)
  | _ => rfl

theorem Event.onTable_of_not_inTurn {event : Event} (h : event.inTurn = false)
    (table : Option String × Option String) : event.onTable table = table := by
  cases event with
  | playCardPlayer1Test response => exact if_neg (Bool.eq_false_iff.1 h)
  | playCardPlayer2Test response => exact if_neg (Bool.eq_false_iff.1 h)
  | _ => rfl

theorem onTable_foldl_of_not_inTurn {events : List Event}
    (h : ∀ event ∈ events, event.inTurn = false) (table : Option String × Option String) :
    events.foldl Event.onTable table = table := by
  induction events with
  | nil => rfl
  | cons event events ih =>
      rw [List.foldl_cons, Event.onTable_of_not_inTurn (h event (List.mem_cons_self ..)) table]
      exact ih fun e he => h e (List.mem_cons_of_mem _ he)

/-- The images of the two cards, if the tab shows the page of a game. -/
def Tab.table (tab : Tab) : Option (Option String × Option String) :=
  match tab.view with
  | .gamePlay page => some page.table
  | _ => none

theorem Tab.exists_page {tab : Tab} {table : Option String × Option String}
    (h : tab.table = some table) : ∃ page, tab.view = .gamePlay page ∧ page.table = table := by
  unfold Tab.table at h
  split at h
  · rename_i page hpage
    cases h
    exact ⟨page, hpage, rfl⟩
  · cases h

/-- A script takes a tab to `tab'` and the images from a table to the next. -/
structure Draws (next : Option String × Option String → Option String × Option String)
    (tab tab' : Tab) : Prop where
  table : tab'.table = tab.table.map next
  inbox : tab'.inbox = tab.inbox

namespace Draws

variable {tab : Tab}

theorem refl (tab : Tab) : Draws id tab tab := ⟨Option.map_id.symm ▸ rfl, rfl⟩

theorem onPage {f : GamePlayPage → GamePlayPage}
    {next : Option String × Option String → Option String × Option String}
    (hf : ∀ page, (f page).table = next page.table) (tab : Tab) :
    Draws next tab (tab.onPage f) := by
  unfold Tab.onPage
  split
  · rename_i page hpage
    exact ⟨by simp [Tab.table, hpage, hf], rfl⟩
  · rename_i hother
    refine ⟨?_, rfl⟩
    unfold Tab.table
    split
    · rename_i page hpage
      exact absurd hpage (hother page)
    · rfl

theorem onDealCards (stored : Option String) (response : DealCardsResponse) (tab : Tab) :
    Draws id tab (tab.onDealCards stored response) := by
  unfold Tab.onDealCards
  split_ifs
  · refine onPage (fun page => ?_) tab
    unfold GamePlayPage.handlePlayCardButtonVisibility
    split_ifs <;> rfl
  · exact refl tab

theorem updateUIAfterLeaving (session : String) (response : LeaveGameResponse) (tab : Tab) :
    Draws id tab (tab.updateUIAfterLeaving session response) := by
  have halert : ∀ (text : String) (f : GamePlayPage → GamePlayPage),
      (∀ page, (f page).table = page.table) → Draws id tab ((tab.alert text).onPage f) := by
    intro text f hf
    have hsame : Draws id (tab.alert text) ((tab.alert text).onPage f) := onPage hf _
    exact ⟨hsame.table, hsame.inbox⟩
  unfold Tab.updateUIAfterLeaving
  split_ifs
  · exact halert _ _ fun _ => rfl
  · exact refl tab
  · exact halert _ _ fun _ => rfl
  · exact refl tab
  · exact refl tab

/-- A play in turn is shown; out of turn nothing changes. -/
theorem onPlayCard (display : GamePlayPage → Option CardsEntity → GamePlayPage)
    (next : Option String × Option String → Option String → Option String × Option String)
    (hdisplay : ∀ page card, (display page card).table =
      next page.table (card.map GamePlayPage.textureOf))
    (stored : Option String) (response : PlayCardResponse) (tab : Tab) :
    Draws (fun table => if response.turn then
        next table (response.card.map GamePlayPage.textureOf) else table)
      tab (tab.onPlayCard display stored response) := by
  unfold Tab.onPlayCard
  by_cases hturn : response.turn = true
  · simp only [if_pos hturn]
    exact onPage (fun page => hdisplay page response.card) tab
  · simp only [if_neg hturn]
    split_ifs
    · exact ⟨(refl tab).table, rfl⟩
    · exact refl tab

/-- **What an event does to the images** depends neither on the game of the page nor on
whose browser it is. -/
theorem handle (stored : Option String) (random : ℕ → Fin 16) {event : Event}
    (hevent : event.redirects = false) (tab : Tab) :
    Draws event.onTable tab (tab.handle stored random event).2 := by
  cases event with
  | createGame response => cases hevent
  | joinGame response => cases hevent
  | dealCardsPlayer1Test response => exact onDealCards stored response tab
  | dealCardsPlayer2Test response => exact onDealCards stored response tab
  | playCardPlayer1Test response =>
      exact onPlayCard GamePlayPage.displayPlayer1PlayedCardTest
        (fun table picture => (picture.or table.1, none))
        (fun page card => by cases card <;> rfl) stored response tab
  | playCardPlayer2Test response =>
      exact onPlayCard GamePlayPage.displayPlayer2PlayedCardTest
        (fun table picture => (table.1, picture.or table.2))
        (fun page card => by cases card <;> rfl) stored response tab
  | sent message =>
      cases message with
      | updateGameAfterLeave response => exact updateUIAfterLeaving _ response tab
      | _ => exact onPage (fun _ => rfl) tab

end Draws

/-! ## What a play shows -/

section Plays

variable {w : World} {call : Call}

/-- The messages of the services bring no card to the table. -/
theorem inTurn_of_mem_sent {messages : List Message} {event : Event}
    (h : event ∈ messages.map Event.sent) : event.inTurn = false ∧ event.redirects = false := by
  obtain ⟨m, -, rfl⟩ := List.mem_map.1 h
  exact ⟨rfl, rfl⟩

/-- A deal touches neither the cards on the table nor the turn, and shows nothing. -/
theorem deal_table {session : Option String} (hrequest : call.request = .dealCardsPlayer1 session ∨
      call.request = .dealCardsPlayer2 session) :
    ((server.next w call).playedCard1 = w.playedCard1 ∧
      (server.next w call).playedCard2 = w.playedCard2 ∧
      (server.next w call).player2Turn = w.player2Turn) ∧
    ∀ event ∈ answer call.request (server.out w call).response,
      event.inTurn = false ∧ event.redirects = false := by
  constructor
  · have hstep := step_next w call
    generalize server.next w call = w' at hstep
    cases hstep with
    | unchanged ms => exact ⟨rfl, rfl, rfl⟩
    | deal session player hand => exact ⟨rfl, rfl, rfl⟩
    | _ => rcases hrequest with h | h <;> simp_all
  · rcases hrequest with hrequest | hrequest
    · have hresponse : (server.out w call).response =
          (dealCards1 call.rows call.shuffle session w.quiet).1.map .dealCards := by
        show (handle call w.quiet).1 = _
        simp only [handle, hrequest, Handler.bind_pure_result]
      rw [hresponse, hrequest]
      cases (dealCards1 call.rows call.shuffle session w.quiet).1 with
      | error e => simp [Except.map, answer]
      | ok r => simp [Except.map, answer, Event.inTurn, Event.redirects]
    · have hresponse : (server.out w call).response =
          (dealCards2 call.rows call.shuffle session w.quiet).1.map .dealCards := by
        show (handle call w.quiet).1 = _
        simp only [handle, hrequest, Handler.bind_pure_result]
      rw [hresponse, hrequest]
      cases (dealCards2 call.rows call.shuffle session w.quiet).1 with
      | error e => simp [Except.map, answer]
      | ok r => simp [Except.map, answer, Event.inTurn, Event.redirects]

/-- **A play of player 1** changes nothing and shows nothing, or it puts down a card of
the table and shows it. -/
theorem playCard1_table {playerId : ℤ} (hrequest : call.request = .playCardPlayer1 playerId) :
    (server.next w call = w.quiet ∧
      ∀ event ∈ answer call.request (server.out w call).response,
        event.inTurn = false ∧ event.redirects = false) ∨
    ∃ c ∈ w.cards, ∃ session, server.next w call = w.quiet.putDown1 c.setPlayed ∧
      answer call.request (server.out w call).response =
        [.playCardPlayer1Test ⟨some c.setPlayed, true, session⟩] := by
  rw [next_playCard1 hrequest, response_playCard1 hrequest, playCard1_apply, hrequest]
  cases PlayerRepository.rowOf w.quiet.players playerId with
  | none => exact Or.inl ⟨rfl, by simp [Except.map, answer]⟩
  | some player1 =>
      simp only
      split_ifs with hturn
      · cases hplay : playFirst (CardsRepository.cardsOf call.rows playerId w.quiet.cards) with
        | none => exact Or.inl ⟨rfl, by simp [Except.map, answer]⟩
        | some r =>
            obtain ⟨card, hand⟩ := r
            obtain ⟨c, hc, -, -, rfl⟩ := mem_of_playFirst hplay
            exact Or.inr ⟨c, hc, player1.sessionId, rfl, rfl⟩
      · exact Or.inl ⟨rfl, by simp [Except.map, answer, Event.inTurn, Event.redirects]⟩

/-- **A play of player 2** changes nothing and shows nothing, or it puts down a card of
the table.  Then it is answered, the card is shown and the turn given back, or it ends
in an exception, and nothing is shown. -/
theorem playCard2_table {request : PlayCardRequest}
    (hrequest : call.request = .playCardPlayer2 request) :
    (server.next w call = w.quiet ∧
      ∀ event ∈ answer call.request (server.out w call).response,
        event.inTurn = false ∧ event.redirects = false) ∨
    ∃ c ∈ w.cards, w.player2Turn = true ∧ (server.next w call).playedCard1 = w.playedCard1 ∧
      (server.next w call).playedCard2 = some c.setPlayed ∧
      ((∃ session, (server.next w call).player2Turn = false ∧
          (server.out w call).response = .ok (.playCard (some ⟨some c.setPlayed, true, session⟩))) ∨
        ∃ e, (server.out w call).response = .error e) := by
  rw [next_playCard2 hrequest, response_playCard2 hrequest, hrequest]
  by_cases hnull : request.player1Id = none ∨ request.player2Id = none ∨ request.gameId = none
  · rw [playCard2_null call.rows w.quiet hnull]
    exact Or.inl ⟨rfl, by simp [Except.map, answer]⟩
  obtain ⟨_ | player1Id, _ | player2Id, _ | gameId⟩ := request
  all_goals try simp at hnull
  rw [playCard2_apply]
  cases PlayerRepository.rowOf w.quiet.players player2Id with
  | none => exact Or.inl ⟨rfl, by simp [Except.map, answer]⟩
  | some player2 =>
      simp only
      split_ifs with hturn
      · cases hplay : playFirst (CardsRepository.cardsOf call.rows player2Id w.quiet.cards) with
        | none => exact Or.inl ⟨rfl, by simp [Except.map, answer]⟩
        | some r =>
            obtain ⟨card, hand⟩ := r
            obtain ⟨c, hc, -, -, rfl⟩ := mem_of_playFirst hplay
            refine Or.inr ⟨c, hc, hturn, ?_⟩
            simp only
            rcases hround : gameRound call.rows player1Id player2Id gameId
                (w.quiet.putDown2 c.setPlayed) with ⟨e | u, w'⟩
            · have hframe := RoundFrame.of_gameRound hround
              rw [Handler.bind_error hround]
              exact ⟨hframe.playedCard1, hframe.playedCard2, Or.inr ⟨e, rfl⟩⟩
            · have hframe := RoundFrame.of_gameRound hround
              rw [Handler.bind_ok hround]
              rcases finishRound_cases player1Id player2Id gameId hand w' with
                ⟨-, hfinish⟩ | ⟨game, p1, p2, -, -, -, -, hfinish⟩ | ⟨-, -, hfinish⟩
              · rw [Handler.bind_ok hfinish]
                exact ⟨hframe.playedCard1, hframe.playedCard2,
                  Or.inl ⟨player2.sessionId, rfl, rfl⟩⟩
              · rw [Handler.bind_ok hfinish]
                exact ⟨hframe.playedCard1, hframe.playedCard2,
                  Or.inl ⟨player2.sessionId, rfl, rfl⟩⟩
              · rw [Handler.bind_error hfinish]
                exact ⟨hframe.playedCard1, hframe.playedCard2, Or.inr ⟨_, rfl⟩⟩
      · exact Or.inl ⟨rfl, by simp [Except.map, answer, Event.inTurn, Event.redirects]⟩

end Plays

/-! ## The table of the server -/

/-- The images of the played pair: player 1's card, and player 2's unless player 2 is
still to answer. -/
def World.table (w : World) : Option String × Option String :=
  (w.playedCard1.map GamePlayPage.textureOf,
    if w.player2Turn then none else w.playedCard2.map GamePlayPage.textureOf)

/-- The request is one of a game that is being played: a deal or a play. -/
def Request.inGame : Request → Bool
  | .dealCardsPlayer1 _ => true
  | .dealCardsPlayer2 _ => true
  | .playCardPlayer1 _ => true
  | .playCardPlayer2 _ => true
  | _ => false

/-- The request ends in an exception after the turn was given back. -/
def FailsAfterTurnBack (w : World) (call : Call) : Prop :=
  (server.out w call).response.isOk = false ∧ w.player2Turn = true ∧
    (server.next w call).player2Turn = false

instance (w : World) (call : Call) : Decidable (FailsAfterTurnBack w call) :=
  inferInstanceAs (Decidable (_ ∧ _ ∧ _))

/-- Nothing of the table changes, and nothing is shown. -/
theorem table_same {w : World} {call : Call} {events : List Event}
    (hshown : ∀ event ∈ events, event.inTurn = false)
    (h1 : (server.next w call).playedCard1 = w.playedCard1)
    (h2 : (server.next w call).playedCard2 = w.playedCard2)
    (hturn : (server.next w call).player2Turn = w.player2Turn) :
    events.foldl Event.onTable w.table = (server.next w call).table ↔
      ¬ FailsAfterTurnBack w call := by
  refine iff_of_true ?_ ?_
  · rw [onTable_foldl_of_not_inTurn hshown, World.table, World.table, h1, h2, hturn]
  · rintro ⟨-, htrue, hfalse⟩
    rw [hturn, htrue] at hfalse
    cases hfalse

/-- **One request.**  What it publishes makes the table of a page the server's, exactly
if it does not fail after the turn was given back. -/
theorem table_step_iff {w : World} {call : Call} (hcall : call.request.inGame = true) :
    (eventsOf call.request (server.out w call)).foldl Event.onTable w.table =
      (server.next w call).table ↔ ¬ FailsAfterTurnBack w call := by
  have hsent : ∀ (table : Option String × Option String) (messages : List Message),
      (messages.map Event.sent).foldl Event.onTable table = table := fun table messages =>
    onTable_foldl_of_not_inTurn (fun event h => (inTurn_of_mem_sent h).1) table
  rw [eventsOf, List.foldl_append, hsent]
  cases hrequest : call.request with
  | createGameAndPlayer request => rw [hrequest] at hcall; cases hcall
  | joinGame request => rw [hrequest] at hcall; cases hcall
  | leaveGame request => rw [hrequest] at hcall; cases hcall
  | dealCardsPlayer1 session =>
      obtain ⟨⟨h1, h2, hturn⟩, hshown⟩ := deal_table (w := w) (Or.inl hrequest)
      rw [← hrequest]
      exact table_same (fun event he => (hshown event he).1) h1 h2 hturn
  | dealCardsPlayer2 session =>
      obtain ⟨⟨h1, h2, hturn⟩, hshown⟩ := deal_table (w := w) (Or.inr hrequest)
      rw [← hrequest]
      exact table_same (fun event he => (hshown event he).1) h1 h2 hturn
  | playCardPlayer1 playerId =>
      rw [← hrequest]
      rcases playCard1_table (w := w) hrequest with
        ⟨hnext, hshown⟩ | ⟨c, hc, session, hnext, hanswer⟩
      · exact table_same (fun event he => (hshown event he).1) (by rw [hnext]; rfl)
          (by rw [hnext]; rfl) (by rw [hnext]; rfl)
      · rw [hanswer, hnext]
        refine iff_of_true rfl ?_
        rintro ⟨-, -, hfalse⟩
        rw [hnext] at hfalse
        cases hfalse
  | playCardPlayer2 request =>
      rw [← hrequest]
      rcases playCard2_table (w := w) hrequest with
        ⟨hnext, hshown⟩ | ⟨c, hc, hturn, h1, h2, ⟨session, hback, hok⟩ | ⟨e, herror⟩⟩
      · exact table_same (fun event he => (hshown event he).1) (by rw [hnext]; rfl)
          (by rw [hnext]; rfl) (by rw [hnext]; rfl)
      · refine iff_of_true ?_ ?_
        · rw [hok, hrequest, World.table, World.table, h1, h2, hback]
          rfl
        · rintro ⟨hno, -⟩
          rw [hok] at hno
          cases hno
      · -- the card is not shown, which is right as long as the turn is player 2's
        have hnothing : answer call.request (.error e) = [] := by rw [hrequest]; rfl
        rw [herror, hnothing, List.foldl_nil, World.table, World.table, h1, h2, hturn]
        cases hback : (server.next w call).player2Turn with
        | true =>
            refine iff_of_true rfl ?_
            rintro ⟨-, -, hfalse⟩
            rw [hback] at hfalse
            cases hfalse
        | false =>
            refine iff_of_false ?_ (not_not_intro ⟨by rw [herror]; rfl, hturn, hback⟩)
            simp

/-! ## A page that is left open -/

/-- A request of a game that is being played. -/
abbrev GameCall : Type := { call : Call // call.request.inGame = true }

/-- The server, and a tab that handles what is published in the order in which it is
published; next to the tab stands the `localStorage` of its browser. -/
def watching (random : ℕ → Fin 16) :
    Machine (World × Option String × Tab) GameCall Unit where
  step s call :=
    ((server.next s.1 call.1,
      (eventsOf call.1.request (server.out s.1 call.1)).foldl
        (fun b event => b.2.handle b.1 random event) s.2), ())

/-- The page does not touch the server. -/
theorem steps_watching (random : ℕ → Fin 16) (s : World × Option String × Tab)
    (calls : List GameCall) :
    ((watching random).steps s calls).map (fun x => (x.1.1, x.2.1)) =
      server.steps s.1 (calls.map (·.1)) := by
  induction calls generalizing s with
  | nil => rfl
  | cons call calls ih =>
      rw [Machine.steps_cons, List.map_cons, List.map_cons, Machine.steps_cons, ih]
      rfl

/-- No event of a game takes a tab to another page. -/
theorem redirects_of_mem_eventsOf {w : World} {call : Call} (hcall : call.request.inGame = true)
    {event : Event} (h : event ∈ eventsOf call.request (server.out w call)) :
    event.redirects = false := by
  rcases List.mem_append.1 h with hsent | hanswer
  · exact (inTurn_of_mem_sent hsent).2
  cases hrequest : call.request with
  | createGameAndPlayer request => rw [hrequest] at hcall; cases hcall
  | joinGame request => rw [hrequest] at hcall; cases hcall
  | leaveGame request => rw [hrequest] at hcall; cases hcall
  | dealCardsPlayer1 session => exact ((deal_table (Or.inl hrequest)).2 event hanswer).2
  | dealCardsPlayer2 session => exact ((deal_table (Or.inr hrequest)).2 event hanswer).2
  | playCardPlayer1 playerId =>
      rcases playCard1_table (w := w) hrequest with ⟨-, hshown⟩ | ⟨c, -, session, -, heq⟩
      · exact (hshown event hanswer).2
      · rw [heq, List.mem_singleton] at hanswer
        rw [hanswer]
        rfl
  | playCardPlayer2 request =>
      rcases playCard2_table (w := w) hrequest with
        ⟨-, hshown⟩ | ⟨c, -, -, -, -, ⟨session, -, hok⟩ | ⟨e, herror⟩⟩
      · exact (hshown event hanswer).2
      · rw [hok, hrequest] at hanswer
        rw [List.mem_singleton.1 hanswer]
        rfl
      · rw [herror, hrequest] at hanswer
        exact absurd hanswer List.not_mem_nil

/-- A tab that handles events of a game, one after the other. -/
theorem Draws.table_foldl {events : List Event}
    (hevents : ∀ event ∈ events, event.redirects = false) (random : ℕ → Fin 16)
    (b : Option String × Tab) :
    (events.foldl (fun b event => b.2.handle b.1 random event) b).2.table =
      b.2.table.map fun table => events.foldl Event.onTable table := by
  induction events generalizing b with
  | nil => exact (Draws.refl b.2).table
  | cons event events ih =>
      have hdraws := Draws.handle b.1 random (hevents event (List.mem_cons_self ..)) b.2
      rw [List.foldl_cons, ih (fun e he => hevents e (List.mem_cons_of_mem _ he)), hdraws.table,
        Option.map_map]
      rfl

/-- **The cards on the page are the played pair.**  A page of any game, in any
browser, is left open while deals and plays with arbitrary ids are handled, and handles
what is published in order.  If it shows the played pair at the start, it shows
it after every request exactly if no play of player 2 ends in an exception after it
has given back the turn. -/
theorem table_right_iff (w : World) (stored : Option String) (tab : Tab) (random : ℕ → Fin 16)
    (hstart : tab.table = some w.table) (calls : List GameCall) :
    (∀ pre, pre <+: calls →
      let s := (watching random).run (w, stored, tab) pre
      s.2.2.table = some s.1.table) ↔
    ∀ x ∈ server.steps w (calls.map (·.1)), ¬ FailsAfterTurnBack x.1 x.2 := by
  rw [← steps_watching random (w, stored, tab), List.forall_mem_map]
  refine (watching random).always_iff (P := fun s => s.2.2.table = some s.1.table)
    (C := fun s call => ¬ FailsAfterTurnBack s.1 call.1) ?_ hstart calls
  rintro ⟨w, stored, tab⟩ ⟨call, hcall⟩ h
  have hnext := Draws.table_foldl (fun event he => redirects_of_mem_eventsOf (w := w) hcall he)
    random (stored, tab)
  rw [← table_step_iff hcall]
  show Tab.table _ = some (server.next w call).table ↔ _
  have hnow : tab.table = some w.table := h
  rw [hnow, Option.map_some] at hnext
  exact (Eq.congr_left hnext).trans (Option.some_inj)

/-- The page of player 1 when the cards have been dealt, and a round. -/
def firstRound : List GameCall :=
  [⟨⟨.playCardPlayer1 1, .same, .same⟩, rfl⟩,
    ⟨⟨.playCardPlayer1 1, .same, .same⟩, rfl⟩,
    ⟨⟨.playCardPlayer2 ⟨some 1, some 2, some 1⟩, .same, .same⟩, rfl⟩]

theorem table_right_iff_firstRound :
    let n := netRun Bool migratedDeck firstClick
    let tab := (n.clients false).tabs 0
    tab.table = some n.server.table ∧
      ∀ pre, pre <+: firstRound →
        let s := (watching annDigits).run (n.server, (n.clients false).sessionId, tab) pre
        s.2.2.table = some s.1.table := by
  have hstart : (((netRun Bool migratedDeck firstClick).clients false).tabs 0).table =
      some (netRun Bool migratedDeck firstClick).server.table := by decide +kernel
  exact ⟨hstart, (table_right_iff _ _ _ _ hstart firstRound).2 (by decide +kernel)⟩

/-! ## The images that were loaded -/

/-- The names under which `preload` loads the images. -/
def preloadedImages : List String :=
  ["Clubs", "Spades", "Hearts", "Diamonds"].flatMap fun suit =>
    ["2", "3", "4", "5", "6", "7", "8", "9", "10", "Jack", "Queen", "King", "Ace"].map fun value =>
      value ++ "_" ++ suit

/-- The images of all cards are among `images`. -/
def Printed (images : List String) (cards : List CardsEntity) : Prop :=
  ∀ c ∈ cards, GamePlayPage.textureOf c ∈ images

section Loaded

variable {images : List String}

namespace Printed

variable {cards : List CardsEntity}

/-- A deal prints no new card. -/
theorem deal (h : Printed images cards) {hand : List CardsEntity} (hhand : Printed images hand)
    (player : Option ℤ) :
    Printed images (Rows.saveAll CardsEntity.cardId (dealt player 0 hand) cards) := by
  intro c hc
  rcases Rows.mem_of_mem_saveAll _ hc with hdealt | ⟨hold, -⟩
  · obtain ⟨d, hd, n, rfl⟩ := exists_of_mem_dealt hdealt
    exact hhand d hd
  · exact h c hold

theorem reDealt (h : Printed images cards) (rows shuffle : CardOrder) (player1 player2 : Option ℤ) :
    Printed images (reDealt rows shuffle player1 player2 cards) := by
  have hdeck : Printed images (shuffle.apply
      ((rows.apply cards).map fun card => { card with players := none, isPlayed := false })) := by
    intro c hc
    obtain ⟨d, hd, rfl⟩ := List.mem_map.1 ((shuffle.perm _).mem_iff.1 hc)
    exact h d ((rows.perm _).mem_iff.1 hd)
  exact (h.deal (fun c hc => hdeck c (List.mem_of_mem_take hc)) player1).deal
    (fun c hc => hdeck c (List.mem_of_mem_drop hc)) player2

theorem vacated {w : World} (h : Printed images w.cards) (call : Call) (game : GameEntity)
    (player : PlayersEntity) :
    Printed images ((vacated call.rows call.shuffle player game w).2.closeGame
      (vacated call.rows call.shuffle player game w).1).cards := by
  rw [World.cards_closeGame]
  unfold WarCardGame.vacated
  split_ifs
  · exact h.reDealt call.rows call.shuffle none game.player2
  · exact h.reDealt call.rows call.shuffle game.player1 none
  · exact h

/-- A card that is put down was there. -/
theorem save (h : Printed images cards) {c : CardsEntity} (hc : c ∈ cards) :
    Printed images (Rows.save CardsEntity.cardId c.setPlayed cards) := by
  intro d hd
  rcases (Rows.mem_save _).1 hd with ⟨hold, -⟩ | ⟨rfl, -⟩
  · exact h d hold
  · exact h c hc

theorem round {w w' : World} (h : Printed images w.cards) (hframe : RoundFrame w w') :
    Printed images w'.cards := by
  intro c hc
  rcases hframe.cards c hc with hold | ⟨d, hd, rfl⟩
  · exact h c hold
  · exact h d hd

/-- **No request prints a card.** -/
theorem step {w w' : World} {call : Call} (h : Printed images w.cards) (hstep : Step w call w') :
    Printed images w'.cards := by
  cases hstep with
  | unchanged ms => exact h
  | create request name session => exact h
  | joinFull request gameId name session game => exact h
  | join request gameId name session game => exact h
  | deal session player hand hrequest hplayer hhand =>
      exact h.deal (fun c hc => h c (hhand hc)) _
  | play1 playerId c hrequest hc => exact h.save hc
  | roundFailed player1Id player2Id gameId c e _ hrequest hc howner hunplayed hturn hround =>
      have hdown : Printed images (w.putDown2 c.setPlayed).cards := h.save hc
      exact hdown.round (RoundFrame.of_gameRound hround)
  | round player1Id player2Id gameId c v ms hrequest hc howner hunplayed hturn hround =>
      have hdown : Printed images (w.putDown2 c.setPlayed).cards := h.save hc
      have hround' : Printed images v.cards := hdown.round (RoundFrame.of_gameRound hround)
      exact hround'
  | leaveRefused gameId session game player ms => exact h.vacated call game player
  | leave gameId session game player ms => exact h.vacated call game player

end Printed

/-- Outside a game no play is told of. -/
theorem inTurn_of_mem_answer {request : Request} (hlobby : request.inGame = false)
    {response : Except Failure Response} {event : Event} (h : event ∈ answer request response) :
    event.inTurn = false := by
  rcases response with e | r
  · cases request <;> simp [answer] at h
  · cases r <;> cases request <;> simp [answer, Request.inGame] at h hlobby <;> rw [h] <;> rfl

/-- **Whatever is published shows a card of the table.** -/
theorem picture_mem_of_mem_eventsOf {w : World} (call : Call) (h : Printed images w.cards)
    {event : Event} (hevent : event ∈ eventsOf call.request (server.out w call))
    {picture : String} (hpicture : event.picture = some picture) : picture ∈ images := by
  have hnot : event.inTurn ≠ false := fun hfalse => by
    rw [Event.picture_of_not_inTurn hfalse] at hpicture
    cases hpicture
  rcases List.mem_append.1 hevent with hsent | hanswer
  · exact absurd (inTurn_of_mem_sent hsent).1 hnot
  cases hrequest : call.request with
  | createGameAndPlayer request =>
      exact absurd (inTurn_of_mem_answer (by rw [hrequest]; rfl) hanswer) hnot
  | joinGame request =>
      exact absurd (inTurn_of_mem_answer (by rw [hrequest]; rfl) hanswer) hnot
  | leaveGame request =>
      exact absurd (inTurn_of_mem_answer (by rw [hrequest]; rfl) hanswer) hnot
  | dealCardsPlayer1 session =>
      exact absurd ((deal_table (Or.inl hrequest)).2 event hanswer).1 hnot
  | dealCardsPlayer2 session =>
      exact absurd ((deal_table (Or.inr hrequest)).2 event hanswer).1 hnot
  | playCardPlayer1 playerId =>
      rcases playCard1_table (w := w) hrequest with ⟨-, hshown⟩ | ⟨c, hc, session, -, heq⟩
      · exact absurd (hshown event hanswer).1 hnot
      · rw [heq, List.mem_singleton] at hanswer
        rw [hanswer] at hpicture
        cases hpicture
        exact h c hc
  | playCardPlayer2 request =>
      rcases playCard2_table (w := w) hrequest with
        ⟨-, hshown⟩ | ⟨c, hc, -, -, -, ⟨session, -, hok⟩ | ⟨e, herror⟩⟩
      · exact absurd (hshown event hanswer).1 hnot
      · rw [hok, hrequest] at hanswer
        rw [List.mem_singleton.1 hanswer] at hpicture
        cases hpicture
        exact h c hc
      · rw [herror, hrequest] at hanswer
        exact absurd hanswer List.not_mem_nil

/-- The images of the tab were loaded, and so were those of the cards that its script
has not been told of yet. -/
structure Pictured (images : List String) (tab : Tab) : Prop where
  table : ∀ table ∈ tab.table, ∀ picture, table.1 = some picture ∨ table.2 = some picture →
    picture ∈ images
  inbox : ∀ event ∈ tab.inbox, ∀ picture, event.picture = some picture → picture ∈ images

/-- An event brings its own image to the table, and no other. -/
theorem Event.mem_onTable {event : Event} {table : Option String × Option String} {picture : String}
    (h : (event.onTable table).1 = some picture ∨ (event.onTable table).2 = some picture) :
    event.picture = some picture ∨ table.1 = some picture ∨ table.2 = some picture := by
  cases hturn : event.inTurn with
  | false =>
      rw [Event.onTable_of_not_inTurn hturn] at h
      exact Or.inr h
  | true =>
      cases event with
      | playCardPlayer1Test response =>
          have hshown : response.turn = true := hturn
          simp only [Event.onTable, Event.picture, hshown, if_true, Option.or_eq_some_iff,
            reduceCtorEq, or_false] at h ⊢
          tauto
      | playCardPlayer2Test response =>
          have hshown : response.turn = true := hturn
          simp only [Event.onTable, Event.picture, hshown, if_true, Option.or_eq_some_iff] at h ⊢
          tauto
      | _ => cases hturn

namespace Pictured

variable {tab tab' : Tab}

theorem goto (images : List String) (tab : Tab) (url : Url) : Pictured images (tab.goto url) where
  table := fun table htable => by cases htable
  inbox := fun event hevent => by cases hevent

theorem alert (h : Pictured images tab) (text : String) : Pictured images (tab.alert text) :=
  ⟨h.table, h.inbox⟩

theorem eraseIdx (h : Pictured images tab) (k : ℕ) :
    Pictured images { tab with inbox := tab.inbox.eraseIdx k } :=
  ⟨h.table, fun event hevent => h.inbox event (List.mem_of_mem_eraseIdx hevent)⟩

/-- A script that only draws images that were loaded. -/
theorem draws (h : Pictured images tab)
    {next : Option String × Option String → Option String × Option String}
    (hdraws : Draws next tab tab')
    (hnext : ∀ table picture, (next table).1 = some picture ∨ (next table).2 = some picture →
      picture ∈ images ∨ table.1 = some picture ∨ table.2 = some picture) :
    Pictured images tab' where
  table := by
    intro table' htable' picture hpicture
    rw [hdraws.table, Option.mem_def, Option.map_eq_some_iff] at htable'
    obtain ⟨table, htable, rfl⟩ := htable'
    rcases hnext table picture hpicture with hnew | hold
    · exact hnew
    · exact h.table table htable picture hold
  inbox := by
    rw [hdraws.inbox]
    exact h.inbox

/-- **An event is handled**, the image of which was loaded. -/
theorem handle (h : Pictured images tab) (stored : Option String) (random : ℕ → Fin 16)
    {event : Event} (hevent : ∀ picture, event.picture = some picture → picture ∈ images) :
    Pictured images (tab.handle stored random event).2 := by
  cases hredirects : event.redirects with
  | false =>
      refine h.draws (Draws.handle stored random hredirects tab) fun table picture hpicture => ?_
      exact (Event.mem_onTable hpicture).imp_left (hevent picture)
  | true =>
      cases event with
      | createGame response =>
          show Pictured images (if _ then _ else _)
          split_ifs
          · exact goto images tab _
          · exact h
      | joinGame response =>
          show Pictured images (if _ then _ else if _ then _ else _)
          split_ifs
          · exact goto images tab _
          · exact h.alert _
          · exact h
      | _ => cases hredirects

/-- **A page that is loaded** shows no card yet. -/
theorem load (h : Pictured images tab) (w : World) (number : ℤ) (stored : Option String) :
    Pictured images (tab.load w number stored) := by
  have hblank : ∀ view, (∀ table, Tab.table { tab with view := view } = some table →
      table = (none, none)) → Pictured images { tab with view := view } := by
    intro view hview
    refine ⟨fun table htable picture hpicture => ?_, h.inbox⟩
    rw [hview table htable] at hpicture
    simp at hpicture
  unfold Tab.load
  split
  · exact hblank _ (by simp [Tab.table])
  · split
    · split
      · refine hblank _ fun table htable => ?_
        cases htable
        unfold GamePlayPage.adjustLayoutForPlayer
        split_ifs <;> rfl
      · exact hblank _ (by simp [Tab.table])
    · exact hblank _ (by simp [Tab.table])
  · exact h

theorem receive (h : Pictured images tab) {events : List Event}
    (hevents : ∀ event ∈ events, ∀ picture, event.picture = some picture → picture ∈ images) :
    Pictured images { tab with inbox := tab.inbox ++ events } := by
  refine ⟨h.table, fun event hevent => ?_⟩
  rcases List.mem_append.1 hevent with hold | hnew
  · exact h.inbox event hold
  · exact hevents event hnew

end Pictured

/-- **The rule for tabs.**  What a tab keeps when it goes to a page, when the user is
told something, when an event of its inbox is handled or lost, and when the message of a
war is taken away, all tabs of a browser keep whatever happens. -/
theorem Browser.tabs_act {P : Tab → Prop} {browser : Browser}
    (hgoto : ∀ tab url, P tab → P (tab.goto url)) (halert : ∀ tab text, P tab → P (tab.alert text))
    (hevent : ∀ (tab : Tab) k event stored random, P tab → tab.inbox[k]? = some event →
      P (Tab.handle stored random { tab with inbox := tab.inbox.eraseIdx k } event).2)
    (hlose : ∀ (tab : Tab) k, P tab → P { tab with inbox := tab.inbox.eraseIdx k })
    (hmessage : ∀ tab : Tab, P tab → P (tab.onPage fun page => { page with message := "" }))
    (h : ∀ t, P (browser.tabs t)) (a : Act) (t : ℕ) : P ((browser.act a).1.tabs t) := by
  have hset : ∀ s tab, P tab → P ((browser.setTab s tab).tabs t) := by
    intro s tab htab
    by_cases ht : t = s
    · subst ht
      simpa only [Browser.setTab, Function.update_self] using htab
    · simpa only [Browser.setTab, Function.update_of_ne ht] using h t
  cases a with
  | goto s url => exact hset s _ (hgoto _ url (h s))
  | submitUsername s random username =>
      simp only [Browser.act]
      split
      · unfold Browser.submitUsername
        split_ifs
        · exact h t
        · exact hset s _ (halert _ _ (h s))
      · exact h t
  | submitGameId s random gameIdString username =>
      simp only [Browser.act]
      split
      · unfold Browser.submitGameId
        split_ifs
        · exact h t
        · exact hset s _ (halert _ _ (h s))
        · exact hset s _ (halert _ _ (h s))
      · exact h t
  | startGame s =>
      simp only [Browser.act]
      split
      · unfold Browser.startGame
        split_ifs
        · exact hset s _ (halert _ _ (h s))
        · exact h t
        · exact h t
      · exact h t
  | playCard1 s =>
      simp only [Browser.act]
      split <;> exact h t
  | playCard2 s =>
      simp only [Browser.act]
      split <;> exact h t
  | leaveGame s =>
      simp only [Browser.act]
      split
      · exact hset s _ (hgoto _ _ (h s))
      · exact h t
  | event s k random =>
      simp only [Browser.act]
      split
      · rename_i event hk
        exact hset s _ (hevent _ k event _ random (h s) hk)
      · exact h t
  | loseEvent s k => exact hset s _ (hlose _ k (h s))
  | warMessageTimeout s => exact hset s _ (hmessage _ (h s))

/-- **The images of all tabs stay loaded**, whatever happens. -/
theorem keepsPictures (β : Type) (images : List String) :
    network.Keeps (fun w => Printed images w.cards)
      (fun _ (_ : β) browser => ∀ t, Pictured images (browser.tabs t)) (fun _ _ _ => True)
      (fun _ _ => True) where
  serve := by
    intro w b frame choice hprinted _
    cases hrequest : frame.request with
    | none =>
        rw [network_serve_none hrequest]
        exact hprinted
    | some request =>
        rw [network_serve hrequest]
        have hquiet : Printed images w.quiet.cards := hprinted
        exact hquiet.step (step_next w _)
  request := fun _ _ _ _ => trivial
  receive := by
    intro w b frame c browser choice hprinted _ hbrowser t
    cases hrequest : frame.request with
    | none =>
        rw [network_serve_none hrequest]
        show Pictured images (if _ then _ else _)
        split_ifs
        · exact (hbrowser t).receive (by simp)
        · exact hbrowser t
    | some request =>
        rw [network_serve hrequest]
        show Pictured images (if _ then _ else _)
        split_ifs
        · refine (hbrowser t).receive fun event hevent picture hpicture => ?_
          exact picture_mem_of_mem_eventsOf ⟨request, choice.1, choice.2⟩ hprinted hevent hpicture
        · exact hbrowser t
  act := by
    intro w b browser a _ hbrowser _
    refine Browser.tabs_act (fun tab url _ => Pictured.goto images tab url)
      (fun _ text h => h.alert text) ?_ (fun _ k h => h.eraseIdx k) ?_ hbrowser a
    · intro tab k event stored random h hk
      exact (h.eraseIdx k).handle stored random (h.inbox event (List.mem_of_getElem? hk))
    · intro tab h
      have hsame : Draws id tab (tab.onPage fun page => { page with message := "" }) :=
        Draws.onPage (fun _ => rfl) tab
      exact h.draws hsame fun _ _ => Or.inr
  send := fun _ _ _ _ _ => trivial
  visit := by
    intro w b browser v _ hbrowser t
    by_cases ht : t = v.1
    · subst ht
      simpa only [network, Browser.load, Browser.setTab, Function.update_self] using
        (hbrowser v.1).load w v.2 browser.sessionId
    · simpa only [network, Browser.load, Browser.setTab, Function.update_of_ne ht] using hbrowser t

end Loaded

/-- **Every image that is shown was loaded.**  Whatever the users of any number of
browsers do, and in whatever order requests and events arrive or are lost: a card on a
page of a game is one of those whose images `preload` loads. -/
theorem pictures_preloaded {β : Type} [DecidableEq β] (moves : List (NetMove β)) (b : β) (t : ℕ)
    (page : GamePlayPage)
    (hpage : (((netRun β migratedDeck moves).clients b).tabs t).view = .gamePlay page)
    (picture : String)
    (hpicture : page.player1CardSprite = some picture ∨ page.player2CardSprite = some picture) :
    picture ∈ preloadedImages := by
  have hprinted : Printed preloadedImages migratedDeck.cards := by
    show ∀ c ∈ migratedCards, _
    decide +kernel
  have hblank : Pictured preloadedImages .blank :=
    ⟨by simp [Tab.blank, Tab.table], by simp [Tab.blank]⟩
  have hmoves : ∀ move ∈ moves, move.Allowed fun _ _ => True := by
    intro move _
    cases move <;> trivial
  have hsound := (keepsPictures β preloadedImages).run (n := Net.initial β migratedDeck)
    ⟨hprinted, fun _ _ => hblank, fun _ _ => trivial⟩ hmoves
  refine (hsound.clients b t).table page.table ?_ picture hpicture
  show Tab.table (((netRun β migratedDeck moves).clients b).tabs t) = _
  rw [Tab.table, hpage]

/-- The click of `firstClick` reaches the server, and player 2 sees the card. -/
def firstCard : List (NetMove Bool) :=
  firstClick ++ [.serve 0 (.same, .same), .act true (.event 0 2 bobDigits)]

theorem pictures_preloaded_firstCard :
    ∃ page, (((netRun Bool migratedDeck firstCard).clients true).tabs 0).view = .gamePlay page ∧
      page.player1CardSprite = some "2_Hearts" ∧ "2_Hearts" ∈ preloadedImages := by
  have hshown : (((netRun Bool migratedDeck firstCard).clients true).tabs 0).table =
      some (some "2_Hearts", none) := by decide +kernel
  obtain ⟨page, hpage, htable⟩ := Tab.exists_page hshown
  have hsprite : page.player1CardSprite = some "2_Hearts" := congrArg Prod.fst htable
  exact ⟨page, hpage, hsprite,
    pictures_preloaded firstCard true 0 page hpage "2_Hearts" (Or.inl hsprite)⟩

end WarCardGame
