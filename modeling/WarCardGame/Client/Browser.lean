import WarCardGame.Lib.Network
import WarCardGame.Lib.Numerals
import WarCardGame.Server.Displays

/-!
# The browser

What `app.js`, `websocket.js` and `gamePlay.js` do, on the pages `index.html` and
`gamePlay.html`.  A browser has one `localStorage`, where its session id is kept, and
any number of tabs.  A tab shows a page and has a connection to the broker; the events
that have arrived on it wait in its `inbox` until the script handles them, in any
order, or are lost.

A script that throws changes nothing from that point on.  On the home page the
elements of a game are not there, so most handlers throw at once.

* `Event`, `eventsOf` — what the broker hands to every tab, by topic.
* `Frame`, `Frame.request` — what a script sends, and the request the server makes of it.
* `GamePlayPage` — the elements of `gamePlay.html` that the scripts read and write.
* `Tab.handle` — the subscriptions of `websocket.js`.
* `Browser.act` — everything a user and the browser can do.
* `network` — the browsers around the server.
-/

namespace WarCardGame

open Lib

/-! ## Events -/

/-- What the broker hands to the subscribers of a topic. -/
inductive Event where
  /-- `/topic/createGame` -/
  | createGame (response : CreateGameResponse)
  /-- `/topic/joinGame` -/
  | joinGame (response : JoinResponse)
  /-- `/topic/dealCardsPlayer1Test` -/
  | dealCardsPlayer1Test (response : DealCardsResponse)
  /-- `/topic/dealCardsPlayer2Test` -/
  | dealCardsPlayer2Test (response : DealCardsResponse)
  /-- `/topic/playCardPlayer1Test` -/
  | playCardPlayer1Test (response : PlayCardResponse)
  /-- `/topic/playCardPlayer2Test` -/
  | playCardPlayer2Test (response : PlayCardResponse)
  /-- A message of a service. -/
  | sent (message : Message)
  deriving DecidableEq, Repr

/-- The answer as `@SendTo` publishes it.  Nothing is published for an exception, for
a handler that returns nothing, or for `null`. -/
def answer (request : Request) (response : Except Failure Response) : List Event :=
  match request, response with
  | _, .ok (.createGame r) => [.createGame r]
  | _, .ok (.joinGame r) => [.joinGame r]
  | .dealCardsPlayer1 _, .ok (.dealCards r) => [.dealCardsPlayer1Test r]
  | .dealCardsPlayer2 _, .ok (.dealCards r) => [.dealCardsPlayer2Test r]
  | .playCardPlayer1 _, .ok (.playCard (some r)) => [.playCardPlayer1Test r]
  | .playCardPlayer2 _, .ok (.playCard (some r)) => [.playCardPlayer2Test r]
  | _, _ => []

/-- Everything a request publishes: the messages on the way, then the answer. -/
def eventsOf (request : Request) (outcome : Outcome) : List Event :=
  outcome.sent.map .sent ++ answer request outcome.response

/-! ## Frames -/

/-- What a script sends.  `JSON.stringify` writes `NaN` as `null`. -/
inductive Frame where
  | create (username sessionId : String)
  | join (gameId : Option ℤ) (username sessionId : String)
  | dealPlayer1Test (body : String)
  | dealPlayer2Test (body : String)
  | playCardPlayer1Test (body : String)
  | playCardPlayer2Test (player1Id player2Id : String) (gameId : Option ℤ)
  | leave (gameId : Option ℤ) (playerSession playerId : String)
  deriving DecidableEq, Repr

/-- A `Long` from a text in a JSON object: the empty text is `null`, and a text that
is no number cannot be converted. -/
def longOfText (text : String) : Option (Option ℤ) :=
  if text = "" then some none else (Numerals.readInt text).map some

/-- The request that Spring's message converters make of a frame; a frame that cannot
be converted, or has no body where there must be one, reaches no handler.  Numbers have no
bound here, while the converters refuse those beyond the range of a `Long`. -/
def Frame.request : Frame → Option Request
  | create username sessionId => some (.createGameAndPlayer ⟨some username, some sessionId⟩)
  | join gameId username sessionId => some (.joinGame ⟨gameId, some username, some sessionId⟩)
  | dealPlayer1Test body => if body = "" then none else some (.dealCardsPlayer1 (some body))
  | dealPlayer2Test body => if body = "" then none else some (.dealCardsPlayer2 (some body))
  | playCardPlayer1Test body => (Numerals.readInt body).map .playCardPlayer1
  | playCardPlayer2Test player1Id player2Id gameId =>
      match longOfText player1Id, longOfText player2Id with
      | some id1, some id2 => some (.playCardPlayer2 ⟨id1, id2, gameId⟩)
      | _, _ => none
  | leave gameId playerSession _ => some (.leaveGame ⟨gameId, some playerSession⟩)

/-! ## The session id -/

/-- A hexadecimal digit for a placeholder of the template; other characters stay. -/
def fillPlaceholder (r : Fin 16) (c : Char) : Char :=
  if c = 'x' then Nat.digitChar r else if c = 'y' then Nat.digitChar (r.val &&& 3 ||| 8) else c

/-- `generateUUID`, with the random digit for each character of the template. -/
def generateUUID (random : ℕ → Fin 16) : String :=
  String.ofList ("xxxxxxxx-xxxx-4xxx-yxxx-xxxxxxxxxxxx".toList.mapIdx fun i c =>
    fillPlaceholder (random i) c)

/-- `getSessionId`: the stored session id, or a new one, which then is stored. -/
def getSessionId (stored : Option String) (random : ℕ → Fin 16) : String :=
  match stored with
  | some sessionId => if sessionId = "" then generateUUID random else sessionId
  | none => generateUUID random

/-! ## The page of a game -/

/-- The elements of `gamePlay.html`, with the texts the scripts read and write. -/
structure GamePlayPage where
  gameID : String
  player1Session : String
  player2Session : String
  player1Id : String
  player2Id : String
  /-- The text of `#player1`. -/
  player1 : String
  /-- The text of `#player2`. -/
  player2 : String
  /-- The button has not been removed. -/
  startGameButton : Bool
  /-- The button is displayed. -/
  playCard1Button : Bool
  /-- The button is displayed. -/
  playCard2Button : Bool
  /-- The texture of the sprite, unless its scale is zero. -/
  player1CardSprite : Option String
  player2CardSprite : Option String
  capturedCards : ClientPage
  winner : String
  message : String
  deriving DecidableEq, Repr

namespace GamePlayPage

/-- The page as Thymeleaf renders it: a `null` gives an empty text. -/
def render (model : GameController.GamePlayModel) : GamePlayPage where
  gameID := "Game ID: " ++ toString model.gameId
  player1Session := model.player1Session.getD ""
  player2Session := model.player2Session.getD ""
  player1Id := (model.player1.map toString).getD ""
  player2Id := (model.player2.map toString).getD ""
  player1 := model.player1Username.getD "Player 1"
  player2 := model.player2Username.getD "Player 2"
  startGameButton := true
  playCard1Button := false
  playCard2Button := false
  player1CardSprite := none
  player2CardSprite := none
  capturedCards := .initial
  winner := " "
  message := " "

/-- `adjustLayoutForPlayer`: player 2 sees the two names exchanged. -/
def adjustLayoutForPlayer (page : GamePlayPage) (currentSession : Option String) : GamePlayPage :=
  if currentSession = some page.player2Session then
    { page with player1 := page.player2, player2 := page.player1 }
  else page

/-- `handlePlayCardButtonVisibility`, which throws when the start button is gone. -/
def handlePlayCardButtonVisibility (page : GamePlayPage) (sessionId : Option String) :
    GamePlayPage :=
  if page.startGameButton then
    if sessionId = some page.player1Session then
      { page with startGameButton := false, playCard1Button := true, playCard2Button := false }
    else if sessionId = some page.player2Session then
      { page with startGameButton := false, playCard2Button := true, playCard1Button := false }
    else { page with startGameButton := false }
  else page

/-- The name of a card's image. -/
def textureOf (card : CardsEntity) : String := card.name ++ "_" ++ card.suit

/-- `displayPlayer1PlayedCardTest`: the card of player 2 is taken away.  For `null` it
throws after that. -/
def displayPlayer1PlayedCardTest (page : GamePlayPage) : Option CardsEntity → GamePlayPage
  | some card => { page with player2CardSprite := none, player1CardSprite := some (textureOf card) }
  | none => { page with player2CardSprite := none }

/-- `displayPlayer2PlayedCardTest`.  For `null` it throws. -/
def displayPlayer2PlayedCardTest (page : GamePlayPage) : Option CardsEntity → GamePlayPage
  | some card => { page with player2CardSprite := some (textureOf card) }
  | none => page

/-- `displayWinner`. -/
def displayWinner (page : GamePlayPage) (winner : String) : GamePlayPage :=
  { page with winner := "The winner is: " ++ winner }

/-- `displayWarMessage`; after three seconds the text is taken away again. -/
def displayWarMessage (page : GamePlayPage) (message : String) : GamePlayPage :=
  { page with message := message }

end GamePlayPage

/-! ## Tabs -/

/-- An address of the application. -/
inductive Url where
  /-- `/` -/
  | home
  /-- `/gameplay?gameId=…` -/
  | gameplay (gameId : String)
  deriving DecidableEq, Repr

/-- What a tab shows. -/
inductive View where
  | loading (url : Url)
  | home
  | gamePlay (page : GamePlayPage)
  /-- An error page; it has no script. -/
  | error
  deriving DecidableEq, Repr

/-- A tab, the events that wait for its script, and what the user was told in
dialogs. -/
structure Tab where
  view : View
  inbox : List Event
  alerts : List String
  deriving DecidableEq, Repr

namespace Tab

/-- The tab before anything was opened in it. -/
def blank : Tab := ⟨.error, [], []⟩

/-- Go to another page: the connection is closed. -/
def goto (tab : Tab) (url : Url) : Tab := { tab with view := .loading url, inbox := [] }

/-- `redirectToGameplayPage`. -/
def redirectToGameplayPage (tab : Tab) (gameId : String) : Tab := tab.goto (.gameplay gameId)

/-- `alert`, which is also what `displayErrorMessage` does. -/
def alert (tab : Tab) (text : String) : Tab := { tab with alerts := tab.alerts ++ [text] }

/-- Do something to the page of a game; the elements are on no other page. -/
def onPage (tab : Tab) (f : GamePlayPage → GamePlayPage) : Tab :=
  match tab.view with
  | .gamePlay page => { tab with view := .gamePlay (f page) }
  | _ => tab

/-- The tab is connected to the broker. -/
def connected (tab : Tab) : Bool :=
  match tab.view with
  | .home => true
  | .gamePlay _ => true
  | _ => false

/-- `updateUIAfterLeaving`. -/
def updateUIAfterLeaving (tab : Tab) (currentSessionId : String) (gameState : LeaveGameResponse) :
    Tab :=
  if gameState.player1Session = some currentSessionId then
    if gameState.game.player1 ≠ none then
      (tab.alert "Player 2 has left the game.").onPage fun page =>
        { page with player2 := "Player 2" }
    else tab
  else if gameState.player2Session = some currentSessionId then
    if gameState.game.player2 ≠ none then
      (tab.alert "Player 1 has left the game.").onPage fun page =>
        { page with player1 := "Player 1" }
    else tab
  else tab

/-- The subscriptions of `/topic/playCardPlayer1Test` and `/topic/playCardPlayer2Test`,
with the function that shows the card. -/
def onPlayCard (display : GamePlayPage → Option CardsEntity → GamePlayPage) (tab : Tab)
    (currentSession : Option String) (response : PlayCardResponse) : Tab :=
  if response.turn then tab.onPage fun page => display page response.card
  else if response.playerSession = currentSession then tab.alert "It's not your turn!"
  else tab

/-- The subscriptions of `/topic/dealCardsPlayer1Test` and `/topic/dealCardsPlayer2Test`. -/
def onDealCards (tab : Tab) (sessionId : Option String) (response : DealCardsResponse) : Tab :=
  if sessionId = response.playerSession then
    tab.onPage fun page => page.handlePlayCardButtonVisibility response.playerSession
  else tab

/-- The subscriptions of `websocket.js`, with `localStorage` as it is and as the
handler leaves it. -/
def handle (stored : Option String) (random : ℕ → Fin 16) (tab : Tab) :
    Event → Option String × Tab
  | .createGame response =>
      let session := getSessionId stored random
      (some session,
        if response.createdPlayerSessionId = some session then
          tab.redirectToGameplayPage response.gameId
        else tab)
  | .joinGame response =>
      let session := getSessionId stored random
      (some session,
        if response.isFound then
          tab.redirectToGameplayPage ((response.gameId.map toString).getD "null")
        else if response.joinedPlayerSessionId = some session then tab.alert "Game not found!"
        else tab)
  | .dealCardsPlayer1Test response => (stored, tab.onDealCards stored response)
  | .dealCardsPlayer2Test response => (stored, tab.onDealCards stored response)
  | .playCardPlayer1Test response =>
      (stored, tab.onPlayCard GamePlayPage.displayPlayer1PlayedCardTest stored response)
  | .playCardPlayer2Test response =>
      (stored, tab.onPlayCard GamePlayPage.displayPlayer2PlayedCardTest stored response)
  | .sent (.gameWar text) => (stored, tab.onPage fun page => page.displayWarMessage text)
  | .sent (.gameWinner text) => (stored, tab.onPage fun page => page.displayWinner text)
  | .sent (.updateGameAfterLeave response) =>
      let session := getSessionId stored random
      (some session, tab.updateUIAfterLeaving session response)
  | .sent message =>
      (stored, tab.onPage fun page =>
        { page with capturedCards := page.capturedCards.onMessage message })

/-- The page arrives: `gamePlayPage` is asked for it, and `gamePlay.js` adjusts it. -/
def load (w : World) (number : ℤ) (stored : Option String) (tab : Tab) : Tab :=
  match tab.view with
  | .loading .home => { tab with view := .home }
  | .loading (.gameplay text) =>
      match Numerals.readInt text with
      | some gameId =>
          match (GameController.gamePlayPage number gameId w).1 with
          | .ok (.gamePlay model) =>
              let page := GamePlayPage.render model
              { tab with view := .gamePlay (page.adjustLayoutForPlayer stored) }
          | _ => { tab with view := .error }
      | none => { tab with view := .error }
  | _ => tab

end Tab

/-! ## The browser -/

/-- A browser: the item `sessionId` of its `localStorage`, and its tabs. -/
structure Browser where
  sessionId : Option String
  tabs : ℕ → Tab

/-- A text as it is rendered: white space is collapsed. -/
def innerText (text : String) : String :=
  String.ofList ([' '].intercalate
    ((text.toList.splitOnP fun c => c = ' ' ∨ c = '\t' ∨ c = '\n' ∨ c = '\r').filter (· ≠ [])))

/-- What a user does, and what happens in the browser without the user. -/
inductive Act where
  /-- An address is opened in a tab. -/
  | goto (tab : ℕ) (url : Url)
  /-- The form of a new game is submitted. -/
  | submitUsername (tab : ℕ) (random : ℕ → Fin 16) (username : String)
  /-- The form for joining a game is submitted. -/
  | submitGameId (tab : ℕ) (random : ℕ → Fin 16) (gameIdString username : String)
  /-- A button is clicked. -/
  | startGame (tab : ℕ)
  | playCard1 (tab : ℕ)
  | playCard2 (tab : ℕ)
  | leaveGame (tab : ℕ)
  /-- The event at position `k` is handled. -/
  | event (tab : ℕ) (k : ℕ) (random : ℕ → Fin 16)
  /-- The event at position `k` is lost. -/
  | loseEvent (tab : ℕ) (k : ℕ)
  /-- The timer of `displayWarMessage` goes off. -/
  | warMessageTimeout (tab : ℕ)

namespace Browser

/-- A browser that has not been used yet. -/
def new : Browser := ⟨none, fun _ => .blank⟩

def setTab (b : Browser) (t : ℕ) (tab : Tab) : Browser :=
  { b with tabs := Function.update b.tabs t tab }

/-- Events are handed to every tab that is connected. -/
def receive (b : Browser) (events : List Event) : Browser :=
  { b with tabs := fun t =>
      if (b.tabs t).connected then { b.tabs t with inbox := (b.tabs t).inbox ++ events }
      else b.tabs t }

/-- The handler of the button that submits a user name. -/
def submitUsername (b : Browser) (t : ℕ) (random : ℕ → Fin 16) (username : String) :
    Browser × List Frame :=
  if Numerals.trim username ≠ "" then
    let session := getSessionId b.sessionId random
    ({ b with sessionId := some session }, [.create username session])
  else (b.setTab t ((b.tabs t).alert "Please enter a username."), [])

/-- The handler of the button that submits the id of a game. -/
def submitGameId (b : Browser) (t : ℕ) (random : ℕ → Fin 16) (gameIdString username : String) :
    Browser × List Frame :=
  if Numerals.trim username ≠ "" ∧ Numerals.trim gameIdString ≠ "" then
    let session := getSessionId b.sessionId random
    ({ b with sessionId := some session },
      [.join (Numerals.parseInt gameIdString) username session])
  else if Numerals.trim username = "" then
    (b.setTab t ((b.tabs t).alert "Please enter a username."), [])
  else (b.setTab t ((b.tabs t).alert "Please enter game id."), [])

/-- `parseInt(gameIdText.split(' ')[2])`, with the text of `#gameID`. -/
def gameIdNumber (page : GamePlayPage) : Option ℤ :=
  (Numerals.word 2 (Numerals.trim page.gameID)).bind Numerals.parseInt

/-- The handler of the start button. -/
def startGame (b : Browser) (t : ℕ) (page : GamePlayPage) : Browser × List Frame :=
  if innerText page.player2 = "Player 2" then
    (b.setTab t ((b.tabs t).alert "Wait for player2 to join!"), [])
  else (b, [.dealPlayer1Test page.player1Session, .dealPlayer2Test page.player2Session])

/-- The handler of the leave button. -/
def leaveGame (b : Browser) (t : ℕ) (page : GamePlayPage) : Browser × List Frame :=
  ({ b.setTab t ((b.tabs t).goto .home) with sessionId := none },
    if b.sessionId = some page.player1Session then
      [.leave (gameIdNumber page) page.player1Session page.player1Id]
    else [.leave (gameIdNumber page) page.player2Session page.player2Id])

/-- Everything that can happen in a browser.  A button is clicked only where it is
displayed, and a form is on the home page. -/
def act (b : Browser) : Act → Browser × List Frame
  | .goto t url => (b.setTab t ((b.tabs t).goto url), [])
  | .submitUsername t random username =>
      match (b.tabs t).view with
      | .home => b.submitUsername t random username
      | _ => (b, [])
  | .submitGameId t random gameIdString username =>
      match (b.tabs t).view with
      | .home => b.submitGameId t random gameIdString username
      | _ => (b, [])
  | .startGame t =>
      match (b.tabs t).view with
      | .gamePlay page => if page.startGameButton then b.startGame t page else (b, [])
      | _ => (b, [])
  | .playCard1 t =>
      match (b.tabs t).view with
      | .gamePlay page =>
          (b, if page.playCard1Button then [.playCardPlayer1Test (Numerals.trim page.player1Id)]
            else [])
      | _ => (b, [])
  | .playCard2 t =>
      match (b.tabs t).view with
      | .gamePlay page =>
          (b, if page.playCard2Button then
              [.playCardPlayer2Test (Numerals.trim page.player1Id) (Numerals.trim page.player2Id)
                (gameIdNumber page)]
            else [])
      | _ => (b, [])
  | .leaveGame t =>
      match (b.tabs t).view with
      | .gamePlay page => b.leaveGame t page
      | _ => (b, [])
  | .event t k random =>
      match (b.tabs t).inbox[k]? with
      | some event =>
          let tab := { b.tabs t with inbox := (b.tabs t).inbox.eraseIdx k }
          let result := tab.handle b.sessionId random event
          ({ b.setTab t result.2 with sessionId := result.1 }, [])
      | none => (b, [])
  | .loseEvent t k =>
      (b.setTab t { b.tabs t with inbox := (b.tabs t).inbox.eraseIdx k }, [])
  | .warMessageTimeout t =>
      (b.setTab t ((b.tabs t).onPage fun page => { page with message := "" }), [])

/-- The page that tab `t` is loading arrives; `number` is what `randomNumber` gives. -/
def load (w : World) (b : Browser) (t : ℕ) (number : ℤ) : Browser :=
  b.setTab t ((b.tabs t).load w number b.sessionId)

end Browser

/-! ## The network -/

/-- The browsers around the server.  The choices made outside are the order in which
the database lists rows, and the shuffle. -/
def network : Network World Browser Frame Event (CardOrder × CardOrder) Act (ℕ × ℤ) where
  serve w frame choice :=
    match frame.request with
    | some request =>
        let call : Call := ⟨request, choice.1, choice.2⟩
        (server.next w call, eventsOf request (server.out w call))
    | none => (w, [])
  receive := Browser.receive
  act := Browser.act
  visit w b load := b.load w load.1 load.2

/-- The state of the network, with browsers `β`. -/
abbrev Net (β : Type) : Type := Network.State β World Browser Frame

/-- What can happen in the network. -/
abbrev NetMove (β : Type) : Type := Network.Move β (CardOrder × CardOrder) Act (ℕ × ℤ)

/-- A fresh server, and browsers that have not been used. -/
def Net.initial (β : Type) (deck : Deck) : Net β := ⟨World.initial deck, [], fun _ => .new⟩

end WarCardGame
