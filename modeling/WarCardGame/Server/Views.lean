import WarCardGame.Server.Step
import WarCardGame.Service.Deals

/-!
# What the players of a game can see

All games share one card table, one turn, one played pair and one pair of piles.
`Party.shared` is the part of them that the requests of a game read: of a card
that is dealt to nobody in the game they read neither owner nor position.
`Party.own` are the rows of the game and its players.

* `Party.Same` — two states that agree in both.
* `Party.Same.handle` — in such states a request of the game gives the same answer
  and the same messages, and the states agree afterwards.
-/

namespace WarCardGame

open Lib

/-! ## Games and their requests -/

/-- A game with its two players, by the keys and the sessions their requests
name. -/
structure Party where
  player1Id : ℤ
  player2Id : ℤ
  gameId : ℤ
  session1 : Option String
  session2 : Option String

namespace Party

variable (A : Party)

def isPlayer (playerId : ℤ) : Bool := playerId = A.player1Id || playerId = A.player2Id

def isSession (session : Option String) : Bool := session = A.session1 || session = A.session2

/-- A column refers to a player of the game. -/
def names (key : Option ℤ) : Bool := key.any A.isPlayer

/-- The game's row, or one that refers to one of its players. -/
def isGame (game : GameEntity) : Bool :=
  game.gameId = A.gameId || A.names game.player1 || A.names game.player2 || A.names game.winner

/-- The deals, plays and leaves of the game. -/
def owns (call : Call) : Bool :=
  match call.request with
  | .dealCardsPlayer1 session => A.isSession session
  | .dealCardsPlayer2 session => A.isSession session
  | .playCardPlayer1 playerId => A.isPlayer playerId
  | .playCardPlayer2 ⟨some player1Id, some player2Id, some gameId⟩ =>
      A.isPlayer player1Id && A.isPlayer player2Id && decide (gameId = A.gameId)
  | .leaveGame ⟨some gameId, session⟩ => decide (gameId = A.gameId) && A.isSession session
  | _ => false

end Party

/-! ## Views -/

/-- What the requests of a game read of the state that all games share. -/
structure SharedView where
  cards : List (CardsEntity × Option CardsEntity)
  player1Turn : Bool
  player2Turn : Bool
  /-- Player 1's card, while player 2 has to answer it. -/
  playedCard1 : Option CardsEntity
  pile1 : List CardsEntity
  pile2 : List CardsEntity
  deriving DecidableEq

namespace Party

variable (A : Party)

/-- A card row as the game sees it: its face, and all of it if it is dealt to one
of the players. -/
def viewCard (c : CardsEntity) : CardsEntity × Option CardsEntity :=
  (c.face, if A.names c.players then some c else none)

def shared (w : World) : SharedView where
  cards := w.cards.map A.viewCard
  player1Turn := w.player1Turn
  player2Turn := w.player2Turn
  playedCard1 := if w.player2Turn then w.playedCard1 else none
  pile1 := w.player1CapturedCards
  pile2 := w.player2CapturedCards

/-- The rows of the game and its players. -/
def own (w : World) : List PlayersEntity × List GameEntity :=
  (w.players.filter fun p => A.isPlayer p.playerId, w.games.filter A.isGame)

/-- Two states that the requests of the game cannot tell apart. -/
structure Same (v w : World) : Prop where
  cards : v.cards.map A.viewCard = w.cards.map A.viewCard
  player1Turn : v.player1Turn = w.player1Turn
  player2Turn : v.player2Turn = w.player2Turn
  playedCard1 : v.player2Turn = true → v.playedCard1 = w.playedCard1
  pile1 : v.player1CapturedCards = w.player1CapturedCards
  pile2 : v.player2CapturedCards = w.player2CapturedCards
  players : (v.players.filter fun p => A.isPlayer p.playerId) =
    w.players.filter fun p => A.isPlayer p.playerId
  games : v.games.filter A.isGame = w.games.filter A.isGame
  sent : v.sent = w.sent

/-- During a round the played pair counts as well. -/
structure SameRound (v w : World) : Prop extends A.Same v w where
  card1 : v.playedCard1 = w.playedCard1
  card2 : v.playedCard2 = w.playedCard2

variable {A} {v w : World}

theorem same_of_views (hshared : A.shared v = A.shared w) (hown : A.own v = A.own w)
    (hsent : v.sent = w.sent) : A.Same v w := by
  have hturn : v.player2Turn = w.player2Turn := congrArg SharedView.player2Turn hshared
  refine ⟨congrArg SharedView.cards hshared, congrArg SharedView.player1Turn hshared, hturn, ?_,
    congrArg SharedView.pile1 hshared, congrArg SharedView.pile2 hshared,
    congrArg Prod.fst hown, congrArg Prod.snd hown, hsent⟩
  intro h2
  have hcard : (if v.player2Turn then v.playedCard1 else none) =
      if w.player2Turn then w.playedCard1 else none := congrArg SharedView.playedCard1 hshared
  rwa [← hturn, if_pos h2, if_pos h2] at hcard

theorem Same.shared_eq (h : A.Same v w) : A.shared v = A.shared w := by
  have hcard : (if v.player2Turn then v.playedCard1 else none) =
      if w.player2Turn then w.playedCard1 else none := by
    rw [← h.player2Turn]
    split_ifs with h2
    · exact h.playedCard1 h2
    · rfl
  rw [shared, shared, hcard, h.cards, h.player1Turn, h.player2Turn, h.pile1, h.pile2]

theorem Same.own_eq (h : A.Same v w) : A.own v = A.own w := by
  rw [own, own, h.players, h.games]

/-! ## What a request looks up -/

namespace Same

theorem player (h : A.Same v w) {playerId : ℤ} (hid : A.isPlayer playerId = true) :
    PlayerRepository.rowOf v.players playerId = PlayerRepository.rowOf w.players playerId := by
  have hsel : ∀ p : PlayersEntity, decide (p.playerId = playerId) = true →
      A.isPlayer p.playerId = true := by
    intro p hp
    rw [decide_eq_true_eq] at hp
    rw [hp, hid]
  have hfind := congrArg (List.find? fun p => decide (p.playerId = playerId)) h.players
  rwa [Rows.find?_selection hsel, Rows.find?_selection hsel] at hfind

theorem game (h : A.Same v w) :
    GameRepository.rowOf v.games A.gameId = GameRepository.rowOf w.games A.gameId := by
  have hsel : ∀ g : GameEntity, decide (g.gameId = A.gameId) = true → A.isGame g = true := by
    intro g hg
    simp only [decide_eq_true_eq] at hg
    simp [isGame, hg]
  have hfind := congrArg (List.find? fun g => decide (g.gameId = A.gameId)) h.games
  rwa [Rows.find?_selection hsel, Rows.find?_selection hsel] at hfind

/-- The cards dealt to the players. -/
theorem ownCards (h : A.Same v w) :
    (v.cards.filter fun c => A.names c.players) = w.cards.filter fun c => A.names c.players := by
  have hview : ∀ cards : List CardsEntity, (cards.map A.viewCard).filterMap Prod.snd =
      cards.filter fun c => A.names c.players := by
    intro cards
    rw [List.filterMap_map, ← List.filterMap_eq_filter]
    refine List.filterMap_congr fun c _ => ?_
    simp only [Function.comp, viewCard, Option.guard]
  rw [← hview, ← hview, h.cards]

theorem cardsOf (h : A.Same v w) {playerId : ℤ} (hid : A.isPlayer playerId = true)
    (rows : CardOrder) :
    CardsRepository.cardsOf rows playerId v.cards =
      CardsRepository.cardsOf rows playerId w.cards := by
  have hsel : ∀ c : CardsEntity, decide (c.players = some playerId) = true →
      A.names c.players = true := by
    intro c hc
    rw [decide_eq_true_eq] at hc
    rw [hc, names, Option.any_some, hid]
  have hfilter := congrArg (List.filter fun c => decide (c.players = some playerId)) h.ownCards
  rw [Rows.filter_selection hsel, Rows.filter_selection hsel] at hfilter
  rw [CardsRepository.cardsOf, CardsRepository.cardsOf, hfilter]

/-! ## What a request writes -/

theorem save (h : A.Same v w) (c : CardsEntity) : A.Same (v.saveCard c) (w.saveCard c) := by
  have hview : ∀ cards : List CardsEntity,
      (Rows.save CardsEntity.cardId c cards).map A.viewCard =
        (cards.map A.viewCard).map fun x => if x.1.cardId = c.cardId then A.viewCard c else x := by
    intro cards
    rw [Rows.save, List.map_map, List.map_map]
    refine List.map_congr_left fun x _ => ?_
    show A.viewCard (if x.cardId = c.cardId then c else x) =
      if x.cardId = c.cardId then A.viewCard c else A.viewCard x
    split_ifs <;> rfl
  refine ⟨?_, h.player1Turn, h.player2Turn, h.playedCard1, h.pile1, h.pile2, h.players, h.games,
    h.sent⟩
  show (Rows.save CardsEntity.cardId c v.cards).map A.viewCard = _
  rw [hview, h.cards]
  exact (hview w.cards).symm

theorem send (h : A.Same v w) (ms : List Message) : A.Same (v.send ms) (w.send ms) :=
  ⟨h.cards, h.player1Turn, h.player2Turn, h.playedCard1, h.pile1, h.pile2, h.players, h.games,
    congrArg (· ++ ms) h.sent⟩

theorem saveAll (h : A.Same v w) (cs : List CardsEntity) :
    A.Same { v with cards := Rows.saveAll CardsEntity.cardId cs v.cards }
      { w with cards := Rows.saveAll CardsEntity.cardId cs w.cards } := by
  induction cs generalizing v w with
  | nil => exact h
  | cons c cs ih => exact ih (h.save c)

theorem faces (h : A.Same v w) : v.cards.map CardsEntity.face = w.cards.map CardsEntity.face := by
  have hview := congrArg (List.map Prod.fst) h.cards
  rwa [List.map_map, List.map_map] at hview

/-- Dealing the first or the second half of the table. -/
theorem dealt_half (h : A.Same v w) {rows shuffle : CardOrder}
    (hrows : rows.Uniform CardsEntity.cardId) (hshuffle : shuffle.Uniform CardsEntity.cardId)
    (player : Option ℤ) :
    dealt player 0 (shuffle.apply
        ((rows.apply v.cards).take ((rows.apply v.cards).length / 2))) =
      dealt player 0 (shuffle.apply
        ((rows.apply w.cards).take ((rows.apply w.cards).length / 2))) ∧
    dealt player 0 (shuffle.apply
        ((rows.apply v.cards).drop ((rows.apply v.cards).length / 2))) =
      dealt player 0 (shuffle.apply
        ((rows.apply w.cards).drop ((rows.apply w.cards).length / 2))) := by
  have hfaces := face_apply hrows h.faces
  exact ⟨dealt_cut map_half1 hshuffle player hfaces, dealt_cut map_half2 hshuffle player hfaces⟩

theorem reDeal (h : A.Same v w) {rows shuffle : CardOrder}
    (hrows : rows.Uniform CardsEntity.cardId) (hshuffle : shuffle.Uniform CardsEntity.cardId)
    (player1 player2 : Option ℤ) :
    A.Same { v with cards := reDealt rows shuffle player1 player2 v.cards }
      { w with cards := reDealt rows shuffle player1 player2 w.cards } := by
  have hreset : ∀ cards : List CardsEntity,
      (((rows.apply cards).map fun c => { c with players := none, isPlayed := false }).map
        CardsEntity.face) =
      ((rows.apply cards).map CardsEntity.face).map fun c => { c with isPlayed := false } := by
    intro cards
    rw [List.map_map, List.map_map]
    rfl
  have hdeck : ((shuffle.apply ((rows.apply v.cards).map fun c =>
        { c with players := none, isPlayed := false })).map CardsEntity.face) =
      (shuffle.apply ((rows.apply w.cards).map fun c =>
        { c with players := none, isPlayed := false })).map CardsEntity.face := by
    refine face_apply hshuffle ?_
    rw [hreset, hreset, face_apply hrows h.faces]
  unfold reDealt
  generalize shuffle.apply ((rows.apply v.cards).map fun c =>
    { c with players := none, isPlayed := false }) = deck at hdeck ⊢
  generalize shuffle.apply ((rows.apply w.cards).map fun c =>
    { c with players := none, isPlayed := false }) = deck' at hdeck ⊢
  have hlength : deck.length = deck'.length := by
    have hmap := congrArg List.length hdeck
    rwa [List.length_map, List.length_map] at hmap
  have hfirst : dealt player1 0 (deck.take (deck.length / 2)) =
      dealt player1 0 (deck'.take (deck'.length / 2)) :=
    dealt_eq_of_faces _ _ (by rw [List.map_take, List.map_take, hdeck, hlength])
  have hsecond : dealt player2 0 (deck.drop (deck.length / 2)) =
      dealt player2 0 (deck'.drop (deck'.length / 2)) :=
    dealt_eq_of_faces _ _ (by rw [List.map_drop, List.map_drop, hdeck, hlength])
  simp only [hfirst, hsecond]
  exact (h.saveAll _).saveAll _

end Same

/-! ## Rounds -/

namespace SameRound

theorem save (h : A.SameRound v w) (c : CardsEntity) :
    A.SameRound (v.saveCard c) (w.saveCard c) :=
  ⟨h.toSame.save c, h.card1, h.card2⟩

theorem send (h : A.SameRound v w) (ms : List Message) : A.SameRound (v.send ms) (w.send ms) :=
  ⟨h.toSame.send ms, h.card1, h.card2⟩

theorem captured1 (h : A.SameRound v w) (cs : List CardsEntity) :
    A.SameRound (v.captured1 cs) (w.captured1 cs) := by
  refine ⟨⟨h.cards, h.player1Turn, h.player2Turn, h.playedCard1, ?_, h.pile2, h.players, h.games,
    ?_⟩, h.card1, h.card2⟩
  · simp only [World.captured1, h.pile1]
  · simp only [World.captured1, h.pile1, h.sent]

theorem captured2 (h : A.SameRound v w) (cs : List CardsEntity) :
    A.SameRound (v.captured2 cs) (w.captured2 cs) := by
  refine ⟨⟨h.cards, h.player1Turn, h.player2Turn, h.playedCard1, h.pile1, ?_, h.players, h.games,
    ?_⟩, h.card1, h.card2⟩
  · simp only [World.captured2, h.pile2]
  · simp only [World.captured2, h.pile2, h.sent]

theorem award (h : A.SameRound v w) (username1 username2 winner : String)
    (cs : List CardsEntity) :
    A.SameRound (v.award username1 username2 winner cs)
      (w.award username1 username2 winner cs) := by
  unfold World.award
  split_ifs
  · exact h.captured1 cs
  · exact h.captured2 cs
  · exact h

variable {player1Id player2Id : ℤ} (h1 : A.isPlayer player1Id = true)
  (h2 : A.isPlayer player2Id = true)

theorem drawNextCard (h : A.SameRound v w) (rows : CardOrder) {playerId : ℤ}
    (hid : A.isPlayer playerId = true) :
    Handler.Alike A.SameRound (WarCardGame.drawNextCard rows playerId v)
      (WarCardGame.drawNextCard rows playerId w) := by
  rw [drawNextCard_apply, drawNextCard_apply, h.cardsOf hid]
  rcases playFirst (CardsRepository.cardsOf rows playerId w.cards) with _ | ⟨card, hand⟩
  · exact ⟨rfl, h⟩
  · exact ⟨rfl, h.save card⟩

include h1 h2

theorem drawWarCards (h : A.SameRound v w) (rows : CardOrder) (n : ℕ) (cs : List CardsEntity) :
    Handler.Alike A.SameRound (WarCardGame.drawWarCards rows player1Id player2Id n cs v)
      (WarCardGame.drawWarCards rows player1Id player2Id n cs w) := by
  induction n generalizing cs v w with
  | zero => exact ⟨rfl, h⟩
  | succ n ih =>
      unfold WarCardGame.drawWarCards
      refine (h.drawNextCard rows h1).bind (fun _ _ h => h) fun c1 v w h => ?_
      cases c1 with
      | none => exact ⟨rfl, h⟩
      | some c1 =>
          refine (h.drawNextCard rows h2).bind (fun _ _ h => h) fun c2 v w h => ?_
          cases c2 with
          | none => exact ⟨rfl, h⟩
          | some c2 => exact ih h _

theorem declareWinner (h : A.Same v w) :
    Handler.Alike A.Same (WarCardGame.declareWinner A.gameId player1Id player2Id v)
      (WarCardGame.declareWinner A.gameId player1Id player2Id w) := by
  have hgame := h.game
  have hplayer1 := h.player h1
  have hplayer2 := h.player h2
  rcases rows_stored_or_missing A.gameId player1Id player2Id w with ⟨g, p1, p2, hg, hp1, hp2⟩ | hno
  · rw [declareWinner_apply hg hp1 hp2,
      declareWinner_apply (hgame.trans hg) (hplayer1.trans hp1) (hplayer2.trans hp2), h.pile1,
      h.pile2]
    exact ⟨rfl, h⟩
  · rw [declareWinner_missing hno, declareWinner_missing]
    · exact ⟨rfl, h⟩
    · rwa [hgame, hplayer1, hplayer2]

theorem declareWinnerAndAddWarCards (h : A.SameRound v w) (cs : List CardsEntity) :
    Handler.Alike A.SameRound
      (WarCardGame.declareWinnerAndAddWarCards A.gameId player1Id player2Id cs v)
      (WarCardGame.declareWinnerAndAddWarCards A.gameId player1Id player2Id cs w) := by
  have hgame := h.game
  have hplayer1 := h.player h1
  have hplayer2 := h.player h2
  rcases rows_stored_or_missing A.gameId player1Id player2Id w with ⟨g, p1, p2, hg, hp1, hp2⟩ | hno
  · rw [declareWinnerAndAddWarCards_apply hg hp1 hp2,
      declareWinnerAndAddWarCards_apply (hgame.trans hg) (hplayer1.trans hp1)
        (hplayer2.trans hp2), h.pile1, h.pile2]
    exact ⟨rfl, (h.award _ _ _ cs).send _⟩
  · rw [declareWinnerAndAddWarCards_missing hno, declareWinnerAndAddWarCards_missing]
    · exact ⟨rfl, h⟩
    · rwa [hgame, hplayer1, hplayer2]

/-- A war goes the same way, level by level. -/
theorem war (h : A.SameRound v w) (rows : CardOrder) :
    Handler.Alike A.SameRound (WarCardGame.war rows player1Id player2Id A.gameId v)
      (WarCardGame.war rows player1Id player2Id A.gameId w) := by
  revert w
  refine war_induction rows player1Id player2Id (motive := fun v => ∀ {w}, A.SameRound v w →
    Handler.Alike A.SameRound (WarCardGame.war rows player1Id player2Id A.gameId v)
      (WarCardGame.war rows player1Id player2Id A.gameId w)) ?_ v
  intro v ih w h
  have hdraws : Handler.Alike A.SameRound (warDraw rows player1Id player2Id v)
      (warDraw rows player1Id player2Id w) := by
    unfold warDraw
    rw [h.card1, h.card2]
    exact h.drawWarCards h1 h2 rows 3 _
  obtain ⟨d, v', hv⟩ := drawWarCards_ok rows player1Id player2Id 3
    (v.playedCard1.toList ++ v.playedCard2.toList) v
  have hdrawv : warDraw rows player1Id player2Id v = (.ok d, v') := hv
  obtain ⟨w', hdraww, hsame⟩ : ∃ w', warDraw rows player1Id player2Id w = (.ok d, w') ∧
      A.SameRound v' w' := by
    rw [hdrawv] at hdraws
    exact ⟨(warDraw rows player1Id player2Id w).2, Prod.ext hdraws.1.symm rfl, hdraws.2⟩
  cases d with
  | player1Out cs =>
      rw [war_player1Out A.gameId hdrawv, war_player1Out A.gameId hdraww]
      exact (hsame.declareWinnerAndAddWarCards h1 h2 cs).bind (fun _ _ h => h)
        fun _ _ _ h => ⟨rfl, h.send _⟩
  | player2Out cs =>
      rw [war_player2Out A.gameId hdrawv, war_player2Out A.gameId hdraww]
      exact hsame.declareWinnerAndAddWarCards h1 h2 cs
  | drawn cs =>
      obtain ⟨before, a, b, -, -, -, -, -, rfl⟩ :=
        drawWarCards_lastTurn rows player1Id player2Id 2 hdrawv
      obtain ⟨hgt, hlt, heq⟩ := war_drawn A.gameId before hdrawv
      obtain ⟨hgt', hlt', heq'⟩ := war_drawn A.gameId before hdraww
      rcases lt_trichotomy a.rank b.rank with hless | hequal | hmore
      · rw [hlt hless, hlt' hless]
        exact ⟨rfl, hsame.captured2 _⟩
      · rw [heq hequal, heq' hequal]
        exact ih _ _ hdrawv (hsame.send _)
      · rw [hgt hmore, hgt' hmore]
        exact ⟨rfl, hsame.captured1 _⟩

theorem gameRound (h : A.SameRound v w) (rows : CardOrder) :
    Handler.Alike A.SameRound (WarCardGame.gameRound rows player1Id player2Id A.gameId v)
      (WarCardGame.gameRound rows player1Id player2Id A.gameId w) := by
  unfold WarCardGame.gameRound
  rw [Handler.bind_ok (Handler.get_apply v), Handler.bind_ok (Handler.get_apply w), h.card1,
    h.card2]
  cases w.playedCard1 with
  | none => exact ⟨rfl, h⟩
  | some c1 =>
      cases w.playedCard2 with
      | none => exact ⟨rfl, h⟩
      | some c2 =>
          simp only
          split_ifs
          · exact ⟨rfl, h.captured1 _⟩
          · exact ⟨rfl, h.captured2 _⟩
          · exact (h.send [.gameWar warText]).war h1 h2 rows

/-- The end of a round, after which the played pair does not count any more. -/
theorem finishRound (h : A.SameRound v w) (hand : List CardsEntity) :
    Handler.Alike A.Same (WarCardGame.finishRound player1Id player2Id A.gameId hand v)
      (WarCardGame.finishRound player1Id player2Id A.gameId hand w) := by
  have hturn : A.Same v.turnBack w.turnBack :=
    ⟨h.cards, rfl, rfl, fun h => (by cases h), h.pile1, h.pile2, h.players, h.games, h.sent⟩
  unfold WarCardGame.finishRound
  show Handler.Alike A.Same (Handler.when (allCardsPlayed hand) _ v.turnBack)
    (Handler.when (allCardsPlayed hand) _ w.turnBack)
  cases allCardsPlayed hand with
  | false => exact ⟨rfl, hturn⟩
  | true =>
      rw [Handler.when_true]
      exact (declareWinner h1 h2 hturn).bind (fun _ _ h => h) fun _ _ _ h => ⟨rfl, h.send _⟩

end SameRound

/-! ## Plays and deals -/

namespace Same

theorem playCard1 (h : A.Same v w) (rows : CardOrder) {playerId : ℤ}
    (hid : A.isPlayer playerId = true) :
    Handler.Alike A.Same (WarCardGame.playCard1 rows playerId v)
      (WarCardGame.playCard1 rows playerId w) := by
  rw [playCard1_apply, playCard1_apply, h.player hid, h.player1Turn, h.cardsOf hid]
  cases PlayerRepository.rowOf w.players playerId with
  | none => exact ⟨rfl, h⟩
  | some player =>
      cases w.player1Turn with
      | false => exact ⟨rfl, h⟩
      | true =>
          simp only [if_true]
          rcases playFirst (CardsRepository.cardsOf rows playerId w.cards) with _ | ⟨card, hand⟩
          · exact ⟨rfl, h⟩
          · have hsave := h.save card
            exact ⟨rfl, ⟨hsave.cards, rfl, rfl, fun _ => rfl, h.pile1, h.pile2, h.players, h.games,
              h.sent⟩⟩

theorem playCard2 (h : A.Same v w) (rows : CardOrder) {player1Id player2Id : ℤ}
    (h1 : A.isPlayer player1Id = true) (h2 : A.isPlayer player2Id = true) :
    Handler.Alike A.Same
      (WarCardGame.playCard2 rows ⟨some player1Id, some player2Id, some A.gameId⟩ v)
      (WarCardGame.playCard2 rows ⟨some player1Id, some player2Id, some A.gameId⟩ w) := by
  rw [playCard2_apply, playCard2_apply, h.player h2, h.player2Turn, h.cardsOf h2]
  cases PlayerRepository.rowOf w.players player2Id with
  | none => exact ⟨rfl, h⟩
  | some player =>
      cases hturn : w.player2Turn with
      | false => exact ⟨rfl, h⟩
      | true =>
          simp only [if_true]
          rcases playFirst (CardsRepository.cardsOf rows player2Id w.cards) with _ | ⟨card, hand⟩
          · exact ⟨rfl, h⟩
          · have hsave := h.save card
            have hround : A.SameRound (v.putDown2 card) (w.putDown2 card) :=
              ⟨⟨hsave.cards, h.player1Turn, h.player2Turn, h.playedCard1, h.pile1, h.pile2,
                h.players, h.games, h.sent⟩, h.playedCard1 (h.player2Turn.trans hturn), rfl⟩
            refine (hround.gameRound h1 h2 rows).bind (fun _ _ h => h.toSame) fun _ _ _ h => ?_
            exact (h.finishRound h1 h2 hand).bind (fun _ _ h => h) fun _ _ _ h => ⟨rfl, h⟩

theorem dealtTo (h : A.Same v w) (player : Option ℤ) {hand hand' : List CardsEntity}
    (hhand : dealt player 0 hand = dealt player 0 hand') :
    A.Same (v.dealtTo player hand) (w.dealtTo player hand') := by
  unfold World.dealtTo
  rw [hhand]
  exact h.saveAll _

end Same

end Party

/-! ## Rows only go -/

/-- A row of a game that has lost seats since, the winner being one of those who
sat in it. -/
structure GameEntity.ComesFrom (g g' : GameEntity) : Prop where
  gameId : g'.gameId = g.gameId
  player1 : g'.player1 = g.player1 ∨ g'.player1 = none
  player2 : g'.player2 = g.player2 ∨ g'.player2 = none
  winner : g'.winner = g.winner ∨ g'.winner = g.player1 ∨ g'.winner = g.player2

theorem GameEntity.ComesFrom.refl (g : GameEntity) : g.ComesFrom g :=
  ⟨rfl, Or.inl rfl, Or.inl rfl, Or.inl rfl⟩

/-- Deals, plays and leaves add neither players nor games. -/
structure Shrinks (w w' : World) : Prop where
  players : w'.players ⊆ w.players
  games : ∀ g' ∈ w'.games, ∃ g ∈ w.games, g.ComesFrom g'

theorem Shrinks.of_eq {w w' : World} (hplayers : w'.players = w.players)
    (hgames : w'.games = w.games) : Shrinks w w' :=
  ⟨by rw [hplayers]; exact List.Subset.refl _,
    fun g hg => ⟨g, by rwa [hgames] at hg, .refl g⟩⟩

theorem comesFrom_vacated (rows shuffle : CardOrder) (player : PlayersEntity) (game : GameEntity)
    (w : World) :
    game.ComesFrom (vacated rows shuffle player game w).1 ∧
      (vacated rows shuffle player game w).2.games = w.games := by
  unfold vacated
  split_ifs
  · exact ⟨⟨rfl, Or.inr rfl, Or.inl rfl, Or.inr (Or.inr rfl)⟩, rfl⟩
  · exact ⟨⟨rfl, Or.inl rfl, Or.inr rfl, Or.inr (Or.inl rfl)⟩, rfl⟩
  · exact ⟨.refl game, rfl⟩

theorem shrinks_closeGame (rows shuffle : CardOrder) (player : PlayersEntity) {game : GameEntity}
    {w : World} (hgame : game ∈ w.games) :
    Shrinks w ((vacated rows shuffle player game w).2.closeGame
      (vacated rows shuffle player game w).1) := by
  obtain ⟨hfrom, hgames⟩ := comesFrom_vacated rows shuffle player game w
  obtain ⟨hplayers, -⟩ := vacated_closeGame_frame rows shuffle player game w
  generalize vacated rows shuffle player game w = v at hfrom hgames hplayers ⊢
  refine ⟨by rw [hplayers]; exact List.Subset.refl _, fun g' hg' => ?_⟩
  unfold World.closeGame at hg'
  split_ifs at hg'
  · have hmem : g' ∈ v.2.games.filter fun g => g.gameId ≠ v.1.gameId := hg'
    rw [hgames] at hmem
    exact ⟨g', (List.mem_filter.1 hmem).1, .refl g'⟩
  · rcases (Rows.mem_save GameEntity.gameId).1 hg' with ⟨hold, -⟩ | ⟨hnew, -⟩
    · rw [hgames] at hold
      exact ⟨g', hold, .refl g'⟩
    · rw [hnew]
      exact ⟨game, hgame, ⟨hfrom.gameId, hfrom.player1, hfrom.player2, hfrom.winner⟩⟩

/-- The requests that add nobody. -/
def Call.addsNobody (call : Call) : Bool :=
  match call.request with
  | .createGameAndPlayer _ => false
  | .joinGame _ => false
  | _ => true

theorem Step.shrinks {w w' : World} {call : Call} (h : Step w call w')
    (hcall : call.addsNobody = true) : Shrinks w w' := by
  cases h with
  | unchanged ms => exact .of_eq rfl rfl
  | create request name session hrequest => simp [Call.addsNobody, hrequest] at hcall
  | joinFull request gameId name session game hrequest => simp [Call.addsNobody, hrequest] at hcall
  | join request gameId name session game hrequest => simp [Call.addsNobody, hrequest] at hcall
  | deal session player hand => exact .of_eq rfl rfl
  | play1 playerId c => exact .of_eq rfl rfl
  | roundFailed player1Id player2Id gameId c e w' hrequest hc howner hunplayed hturn hround =>
      have hframe := RoundFrame.of_gameRound hround
      exact .of_eq hframe.players hframe.games
  | round player1Id player2Id gameId c w' ms hrequest hc howner hunplayed hturn hround =>
      have hframe := RoundFrame.of_gameRound hround
      exact .of_eq hframe.players hframe.games
  | leaveRefused gameId session game player ms hrequest hgame =>
      have hclose := shrinks_closeGame call.rows call.shuffle player
        (List.mem_of_find?_eq_some hgame)
      exact ⟨hclose.players, hclose.games⟩
  | leave gameId session game player ms hrequest hgame =>
      have hclose := shrinks_closeGame call.rows call.shuffle player
        (List.mem_of_find?_eq_some hgame)
      exact ⟨fun p hp => hclose.players (List.mem_filter.1 hp).1, hclose.games⟩

namespace Party

variable {A : Party} {v w : World}

/-- The sessions and the seats of the game belong to its players. -/
structure Seated (A : Party) (w : World) : Prop where
  session : ∀ p ∈ w.players, A.isSession p.sessionId = true → A.isPlayer p.playerId = true
  seat1 : ∀ g ∈ w.games, g.gameId = A.gameId → ∀ k, g.player1 = some k → A.isPlayer k = true
  seat2 : ∀ g ∈ w.games, g.gameId = A.gameId → ∀ k, g.player2 = some k → A.isPlayer k = true

theorem Seated.quiet (h : A.Seated w) : A.Seated w.quiet := ⟨h.session, h.seat1, h.seat2⟩

theorem Seated.shrink (h : A.Seated v) (hshrinks : Shrinks v w) : A.Seated w where
  session := fun p hp => h.session p (hshrinks.players hp)
  seat1 := by
    intro g' hg' hid k hk
    obtain ⟨g, hg, hfrom⟩ := hshrinks.games g' hg'
    rcases hfrom.player1 with hsame | hnone
    · exact h.seat1 g hg (hfrom.gameId.symm.trans hid) k (hsame.symm.trans hk)
    · rw [hnone] at hk
      cases hk
  seat2 := by
    intro g' hg' hid k hk
    obtain ⟨g, hg, hfrom⟩ := hshrinks.games g' hg'
    rcases hfrom.player2 with hsame | hnone
    · exact h.seat2 g hg (hfrom.gameId.symm.trans hid) k (hsame.symm.trans hk)
    · rw [hnone] at hk
      cases hk

/-! ## Leaving -/

namespace Same

theorem session (h : A.Same v w) (hv : A.Seated v) (hw : A.Seated w) {session : Option String}
    (hs : A.isSession session = true) :
    sessionLookup v.players session = sessionLookup w.players session := by
  have hsel : ∀ u, A.Seated u →
      ((u.players.filter fun p => A.isPlayer p.playerId).filter fun p => p.sessionId = session) =
        u.players.filter fun p => p.sessionId = session := by
    intro u hu
    rw [List.filter_filter]
    refine List.filter_congr fun p hp => ?_
    by_cases hsession : p.sessionId = session
    · simp [hsession, hu.session p hp (hsession ▸ hs)]
    · simp [hsession]
  unfold sessionLookup
  rw [← hsel v hv, ← hsel w hw, h.players]

/-- Who sits in the game. -/
theorem seat (h : A.Same v w) {key : Option ℤ} (hkey : ∀ k, key = some k → A.isPlayer k = true) :
    GameService.playerOf v.players key = GameService.playerOf w.players key := by
  cases key with
  | none => rfl
  | some k => exact h.player (hkey k rfl)

theorem vacated (h : A.Same v w) {rows shuffle : CardOrder}
    (hrows : rows.Uniform CardsEntity.cardId) (hshuffle : shuffle.Uniform CardsEntity.cardId)
    (player : PlayersEntity) {game : GameEntity}
    (h1 : ∀ k, game.player1 = some k → A.isPlayer k = true)
    (h2 : ∀ k, game.player2 = some k → A.isPlayer k = true) :
    (WarCardGame.vacated rows shuffle player game v).1 =
        (WarCardGame.vacated rows shuffle player game w).1 ∧
      A.Same (WarCardGame.vacated rows shuffle player game v).2
        (WarCardGame.vacated rows shuffle player game w).2 := by
  unfold WarCardGame.vacated
  rw [h.seat h1, h.seat h2]
  split_ifs
  · exact ⟨rfl, h.reDeal hrows hshuffle _ _⟩
  · exact ⟨rfl, h.reDeal hrows hshuffle _ _⟩
  · exact ⟨rfl, h⟩

theorem closeGame (h : A.Same v w) {game : GameEntity} (hid : game.gameId = A.gameId) :
    A.Same (v.closeGame game) (w.closeGame game) := by
  have hgame : ∀ g : GameEntity, g.gameId = game.gameId → A.isGame g = true := by
    intro g hg
    simp [isGame, hg.trans hid]
  unfold World.closeGame
  split_ifs
  · refine ⟨h.cards, h.player1Turn, h.player2Turn, h.playedCard1, h.pile1, h.pile2, h.players, ?_,
      h.sent⟩
    show (v.games.filter fun g => g.gameId ≠ game.gameId).filter A.isGame =
      (w.games.filter fun g => g.gameId ≠ game.gameId).filter A.isGame
    rw [List.filter_comm, h.games, List.filter_comm]
  · refine ⟨h.cards, h.player1Turn, h.player2Turn, h.playedCard1, h.pile1, h.pile2, h.players, ?_,
      h.sent⟩
    have hended := hgame { game with gameState := .gameEnded } rfl
    show (Rows.save GameEntity.gameId _ v.games).filter A.isGame =
      (Rows.save GameEntity.gameId _ w.games).filter A.isGame
    rw [Rows.filter_save_of_pos GameEntity.gameId hended fun g _ hg => hgame g hg,
      Rows.filter_save_of_pos GameEntity.gameId hended fun g _ hg => hgame g hg, h.games]

/-- Whether the rows of a player can be deleted. -/
theorem referenced (h : A.Same v w) {playerId : ℤ} (hid : A.isPlayer playerId = true) :
    PlayerRepository.referenced v playerId = PlayerRepository.referenced w playerId := by
  have hcards : ∀ c : CardsEntity, decide (c.players = some playerId) = true →
      A.names c.players = true := by
    intro c hc
    rw [decide_eq_true_eq] at hc
    rw [hc, names, Option.any_some, hid]
  have hgames : ∀ g : GameEntity, (decide (g.player1 = some playerId) ||
      decide (g.player2 = some playerId) || decide (g.winner = some playerId)) = true →
      A.isGame g = true := by
    intro g hg
    simp only [Bool.or_eq_true, decide_eq_true_eq] at hg
    rcases hg with (hg | hg) | hg <;> simp [isGame, names, hg, hid]
  unfold PlayerRepository.referenced
  rw [← Rows.any_selection hcards v.cards, ← Rows.any_selection hcards w.cards, h.ownCards,
    ← Rows.any_selection hgames v.games, ← Rows.any_selection hgames w.games, h.games]

theorem dropPlayer (h : A.Same v w) (player : PlayersEntity) :
    A.Same (v.dropPlayer player) (w.dropPlayer player) := by
  refine ⟨h.cards, h.player1Turn, h.player2Turn, h.playedCard1, h.pile1, h.pile2, ?_, h.games,
    h.sent⟩
  show (v.players.filter fun p => p.playerId ≠ player.playerId).filter _ =
    (w.players.filter fun p => p.playerId ≠ player.playerId).filter _
  rw [List.filter_comm, h.players, List.filter_comm]

theorem reset (h : A.Same v w) : A.Same v.reset w.reset :=
  ⟨h.cards, rfl, rfl, fun h => (by cases h), rfl, rfl, h.players, h.games, h.sent⟩

/-- The part of a leave that the service does. -/
theorem serviceLeave (h : A.Same v w) (hv : A.Seated v) (hw : A.Seated w) {rows shuffle : CardOrder}
    (hrows : rows.Uniform CardsEntity.cardId) (hshuffle : shuffle.Uniform CardsEntity.cardId)
    {session : Option String} (hs : A.isSession session = true) :
    Handler.Alike A.Same (GameService.leaveGame rows shuffle ⟨some A.gameId, session⟩ v)
      (GameService.leaveGame rows shuffle ⟨some A.gameId, session⟩ w) := by
  have hfind : ∀ u : World, GameRepository.findById (some A.gameId) u =
      (.ok (GameRepository.rowOf u.games A.gameId), u) := fun _ => rfl
  have hlookup := h.session hv hw hs
  rcases hgame : GameRepository.rowOf w.games A.gameId with _ | game
  · -- there is no such game
    unfold GameService.leaveGame
    rw [Handler.bind_ok (hfind v), Handler.bind_ok (hfind w), h.game, hgame, Handler.bind_apply,
      Handler.bind_apply, findPlayerBySessionId_apply, findPlayerBySessionId_apply, hlookup]
    cases sessionLookup w.players session with
    | error e => exact ⟨rfl, h⟩
    | ok player => exact ⟨rfl, h⟩
  · rcases hplayer : sessionLookup w.players session with e | _ | player
    · unfold GameService.leaveGame
      rw [Handler.bind_ok (hfind v), Handler.bind_ok (hfind w), Handler.bind_apply,
        Handler.bind_apply, findPlayerBySessionId_apply, findPlayerBySessionId_apply, hlookup,
        hplayer]
      exact ⟨rfl, h⟩
    · unfold GameService.leaveGame
      rw [Handler.bind_ok (hfind v), Handler.bind_ok (hfind w), h.game, hgame, Handler.bind_apply,
        Handler.bind_apply, findPlayerBySessionId_apply, findPlayerBySessionId_apply, hlookup,
        hplayer]
      exact ⟨rfl, h⟩
    · obtain ⟨-, hmem, hsession⟩ := mem_of_sessionLookup hplayer
      have hid : A.isPlayer player.playerId = true := hw.session player hmem (hsession ▸ hs)
      have hrow : game ∈ w.games := List.mem_of_find?_eq_some hgame
      have hgameId : game.gameId = A.gameId := by simpa using List.find?_some hgame
      obtain ⟨hleft, hvacated⟩ := h.vacated hrows hshuffle player
        (hw.seat1 game hrow hgameId) (hw.seat2 game hrow hgameId)
      have hleftId : (WarCardGame.vacated rows shuffle player game w).1.gameId = A.gameId :=
        (comesFrom_vacated rows shuffle player game w).1.gameId.trans hgameId
      rw [leaveGame_found rows shuffle (h.game.trans hgame) (hlookup.trans hplayer),
        leaveGame_found rows shuffle hgame hplayer]
      simp only [hleft]
      have hclosed := hvacated.closeGame hleftId
      rw [hclosed.referenced hid]
      split_ifs
      · exact ⟨rfl, hclosed⟩
      · exact ⟨rfl, (hclosed.dropPlayer player).reset⟩

theorem leaveGame (h : A.Same v w) (hv : A.Seated v) (hw : A.Seated w) {call : Call}
    (hrows : call.rows.Uniform CardsEntity.cardId)
    (hshuffle : call.shuffle.Uniform CardsEntity.cardId) {session : Option String}
    (hrequest : call.request = .leaveGame ⟨some A.gameId, session⟩)
    (hs : A.isSession session = true) :
    Handler.Alike A.Same
      (GameController.leaveGame call.rows call.shuffle ⟨some A.gameId, session⟩ v)
      (GameController.leaveGame call.rows call.shuffle ⟨some A.gameId, session⟩ w) := by
  have hleave := h.serviceLeave hv hw hrows hshuffle hs
  -- the players of the row that is left are still those of the game
  have hseated : A.Seated
      (GameService.leaveGame call.rows call.shuffle ⟨some A.gameId, session⟩ w).2 := by
    obtain ⟨ms, hstate⟩ := leaveGame_state call.rows call.shuffle ⟨some A.gameId, session⟩ w
    have hshrinks := (step_leaveGame (w := w) hrequest).shrinks
      (by simp [Call.addsNobody, hrequest])
    rw [hstate] at hshrinks
    have hafter := hw.shrink hshrinks
    exact ⟨hafter.session, hafter.seat1, hafter.seat2⟩
  unfold GameController.leaveGame
  rw [Handler.bind_apply, Handler.bind_apply]
  generalize GameService.leaveGame call.rows call.shuffle ⟨some A.gameId, session⟩ v = p
    at hleave ⊢
  generalize GameService.leaveGame call.rows call.shuffle ⟨some A.gameId, session⟩ w = q
    at hleave hseated ⊢
  obtain ⟨result, v'⟩ := p
  obtain ⟨result', w'⟩ := q
  obtain ⟨hresult, hsame⟩ := hleave
  cases hresult
  cases result with
  | error e => exact ⟨rfl, hsame⟩
  | ok u =>
      have hfind : ∀ u : World, GameRepository.findById (some A.gameId) u =
          (.ok (GameRepository.rowOf u.games A.gameId), u) := fun _ => rfl
      simp only
      rw [Handler.bind_ok (hfind v'), Handler.bind_ok (hfind w'),
        Handler.bind_ok (Handler.get_apply v'), Handler.bind_ok (Handler.get_apply w'), hsame.game]
      cases hgame : GameRepository.rowOf w'.games A.gameId with
      | none => exact ⟨rfl, hsame⟩
      | some game =>
          have hrow : game ∈ w'.games := List.mem_of_find?_eq_some hgame
          have hgameId : game.gameId = A.gameId := by simpa using List.find?_some hgame
          simp only [hsame.seat (hseated.seat1 game hrow hgameId),
            hsame.seat (hseated.seat2 game hrow hgameId)]
          exact ⟨rfl, hsame.send _⟩

/-! ## Requests -/

/-- **A request of the game gives the same in states the game cannot tell
apart.** -/
theorem handle (h : A.Same v w) (hv : A.Seated v) (hw : A.Seated w) {call : Call}
    (hrows : call.rows.Uniform CardsEntity.cardId)
    (hshuffle : call.shuffle.Uniform CardsEntity.cardId) (hcall : A.owns call = true) :
    Handler.Alike A.Same (WarCardGame.handle call v) (WarCardGame.handle call w) := by
  unfold owns at hcall
  unfold WarCardGame.handle
  cases hrequest : call.request with
  | createGameAndPlayer request => simp [hrequest] at hcall
  | joinGame request => simp [hrequest] at hcall
  | dealCardsPlayer1 session =>
      rw [hrequest] at hcall
      refine Handler.Alike.bind (R := A.Same) ?_ (fun _ _ h => h) fun _ _ _ h => ⟨rfl, h⟩
      rw [dealCards1_apply, dealCards1_apply, h.session hv hw hcall]
      cases sessionLookup w.players session with
      | error e => exact ⟨rfl, h⟩
      | ok player =>
          have hhand := (h.dealt_half hrows hshuffle (player.map (·.playerId))).1
          refine ⟨?_, h.dealtTo _ hhand⟩
          simp only [hhand]
  | dealCardsPlayer2 session =>
      rw [hrequest] at hcall
      refine Handler.Alike.bind (R := A.Same) ?_ (fun _ _ h => h) fun _ _ _ h => ⟨rfl, h⟩
      rw [dealCards2_apply, dealCards2_apply, h.session hv hw hcall]
      cases sessionLookup w.players session with
      | error e => exact ⟨rfl, h⟩
      | ok player =>
          have hhand := (h.dealt_half hrows hshuffle (player.map (·.playerId))).2
          refine ⟨?_, h.dealtTo _ hhand⟩
          simp only [hhand]
  | playCardPlayer1 playerId =>
      rw [hrequest] at hcall
      exact (h.playCard1 call.rows hcall).bind (fun _ _ h => h) fun _ _ _ h => ⟨rfl, h⟩
  | playCardPlayer2 request =>
      obtain ⟨_ | player1Id, _ | player2Id, _ | gameId⟩ := request
      all_goals try simp [hrequest] at hcall
      obtain ⟨⟨h1, h2⟩, rfl⟩ := hcall
      exact (h.playCard2 call.rows h1 h2).bind (fun _ _ h => h) fun _ _ _ h => ⟨rfl, h⟩
  | leaveGame request =>
      obtain ⟨_ | gameId, session⟩ := request
      · simp [hrequest] at hcall
      · simp only [hrequest, Bool.and_eq_true, decide_eq_true_eq] at hcall
        obtain ⟨rfl, hs⟩ := hcall
        exact (h.leaveGame hv hw hrows hshuffle hrequest hs).bind (fun _ _ h => h)
          fun _ _ _ h => ⟨rfl, h⟩

end Same

end Party

end WarCardGame
