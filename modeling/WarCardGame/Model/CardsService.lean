import WarCardGame.Model.Repositories

/-!
# `CardsService`

Dealing, playing, the round and its wars, and the announcement of the winner, as
`Services/CardsService.java` computes them.  The service is a singleton: the two
turn flags, the two played cards and the two captured piles are fields of
`World` that every game's requests share.

The loops over a hand that play its first unplayed card are `playFirst`, which
also returns the hand as the loop leaves it in memory.  The `for` loop of `war`
is `drawWarCards`, whose result says which of the loop's three exits was taken.
`war` itself is recursive; what makes it stop is that each level draws cards, so
`unplayedCards` goes down (`unplayedCards_drawWarCards`).
-/

namespace WarCardGame

open Lib

/-! ## Dealing -/

/-- The cards of a hand as they are dealt: numbered from `i`, and owned by
`player`. -/
def dealt (player : Option ℤ) : ℕ → List CardsEntity → List CardsEntity
  | _, [] => []
  | i, card :: rest => { card with dealOrder := i, players := player } :: dealt player (i + 1) rest

/-- The loop that saves the cards of a hand: `GameService.dealCards`, and the
loops of `dealCards1` and `dealCards2`. -/
def dealCards (player : Option ℤ) (i : ℕ) : List CardsEntity → Service Unit
  | [] => pure ()
  | card :: rest => do
      CardsRepository.save { card with dealOrder := i, players := player }
      dealCards player (i + 1) rest

/-- `dealCards1`: player 1 gets the first half of the table. -/
def dealCards1 (rows shuffle : CardOrder) (sessionId : Option String) :
    Service DealCardsResponse := do
  let allCards ← CardsRepository.findAll rows
  let player1 ← PlayerRepository.findPlayerBySessionId sessionId
  let player1Cards := shuffle.apply (allCards.take (allCards.length / 2))
  dealCards (player1.map (·.playerId)) 0 player1Cards
  return { cards := dealt (player1.map (·.playerId)) 0 player1Cards, playerSession := sessionId }

/-- `dealCards2`: player 2 gets the second half of the table. -/
def dealCards2 (rows shuffle : CardOrder) (sessionId : Option String) :
    Service DealCardsResponse := do
  let allCards ← CardsRepository.findAll rows
  let player2 ← PlayerRepository.findPlayerBySessionId sessionId
  let player2Cards := shuffle.apply (allCards.drop (allCards.length / 2))
  dealCards (player2.map (·.playerId)) 0 player2Cards
  return { cards := dealt (player2.map (·.playerId)) 0 player2Cards, playerSession := sessionId }

/-! ## The next card of a hand -/

/-- A card with its flag set. -/
def CardsEntity.setPlayed (card : CardsEntity) : CardsEntity := { card with isPlayed := true }

/-- The state after a card row was written back. -/
def World.saveCard (w : World) (card : CardsEntity) : World :=
  { w with cards := Rows.save CardsEntity.cardId card w.cards }

/-- The first unplayed card of a hand, with its flag set, and the hand with that
card in it. -/
def playFirst : List CardsEntity → Option (CardsEntity × List CardsEntity)
  | [] => none
  | card :: rest =>
      if card.isPlayed then (playFirst rest).map fun r => (r.1, card :: r.2)
      else some (card.setPlayed, card.setPlayed :: rest)

/-- `drawNextCard`. -/
def drawNextCard (rows : CardOrder) (playerId : ℤ) : Service (Option CardsEntity) := do
  let playerCards ← CardsRepository.findCardsByPlayers_PlayerIdOrderByDealOrder rows playerId
  match playFirst playerCards with
  | some (card, _) => do
      CardsRepository.save card
      return some card
  | none => return none

/-! ## The winner of the game -/

/-- The text that announces a game without a winner. -/
def tieText : String := "It was a tie"

/-- `declareWinner`.  The winner is set on a copy of the game that is never
saved, so the stored row stays as it is. -/
def declareWinner (gameId player1Id player2Id : ℤ) : Service String := do
  let optionalGame ← GameRepository.findById (some gameId)
  let optionalPlayer1 ← PlayerRepository.findById player1Id
  let optionalPlayer2 ← PlayerRepository.findById player2Id
  let _game ← optionalGet optionalGame
  let player1 ← optionalGet optionalPlayer1
  let player2 ← optionalGet optionalPlayer2
  let w ← Handler.get
  if w.player2CapturedCards.length < w.player1CapturedCards.length then
    return player1.username
  else if w.player1CapturedCards.length < w.player2CapturedCards.length then
    return player2.username
  else
    return tieText

/-- Add cards to player 1's pile and publish the pile. -/
def capture1 (cards : List CardsEntity) : Service Unit := do
  Handler.modify fun w => { w with player1CapturedCards := w.player1CapturedCards ++ cards }
  let w ← Handler.get
  convertAndSend (.capturedCardsPlayer1 w.player1CapturedCards)

/-- Add cards to player 2's pile and publish the pile. -/
def capture2 (cards : List CardsEntity) : Service Unit := do
  Handler.modify fun w => { w with player2CapturedCards := w.player2CapturedCards ++ cards }
  let w ← Handler.get
  convertAndSend (.capturedCardsPlayer2 w.player2CapturedCards)

/-- The text of every message to `/topic/game/war`. -/
def warText : String := "War occurred!"

/-- `declareWinnerAndAddWarCards`. -/
def declareWinnerAndAddWarCards (gameId player1Id player2Id : ℤ) (warCards : List CardsEntity) :
    Service Unit := do
  let winner ← declareWinner gameId player1Id player2Id
  let optionalPlayer1 ← PlayerRepository.findById player1Id
  let optionalPlayer2 ← PlayerRepository.findById player2Id
  let player1 ← optionalGet optionalPlayer1
  let player2 ← optionalGet optionalPlayer2
  if winner = player1.username then capture1 warCards
  else if winner = player2.username then capture2 warCards
  else pure ()
  convertAndSend (.gameWar warText)
  convertAndSend (.gameWinner winner)

/-- `allCardsPlayed`. -/
def allCardsPlayed (allCards : List CardsEntity) : Bool := allCards.all fun card => card.isPlayed

/-! ## The cards of a war -/

/-- How the loop of `war` ends: all draws made, or a hand found empty. -/
inductive WarDraw where
  | drawn (warCards : List CardsEntity)
  | player1Out (warCards : List CardsEntity)
  | player2Out (warCards : List CardsEntity)
  deriving DecidableEq, Repr

/-- `n` turns of the loop of `war`: a card from each player, player 1 first. -/
def drawWarCards (rows : CardOrder) (player1Id player2Id : ℤ) :
    ℕ → List CardsEntity → Service WarDraw
  | 0, warCards => return .drawn warCards
  | n + 1, warCards => do
      match ← drawNextCard rows player1Id with
      | none => return .player1Out warCards
      | some additionalCard1 =>
          match ← drawNextCard rows player2Id with
          | none => return .player2Out (warCards ++ [additionalCard1])
          | some additionalCard2 =>
              drawWarCards rows player1Id player2Id n
                (warCards ++ [additionalCard1] ++ [additionalCard2])

/-- The unplayed cards stored for the two players. -/
def unplayedCards (player1Id player2Id : ℤ) (cards : List CardsEntity) : ℕ :=
  cards.countP fun card =>
    !card.isPlayed && (card.players = some player1Id || card.players = some player2Id)

theorem playFirst_eq_none {hand : List CardsEntity} :
    playFirst hand = none ↔ ∀ card ∈ hand, card.isPlayed = true := by
  induction hand with
  | nil => simp [playFirst]
  | cons card rest ih =>
      cases hplayed : card.isPlayed with
      | true => simp [playFirst, hplayed, ih]
      | false => simp [playFirst, hplayed]

/-- What the loops over a hand find: everything before the card is played
already, and the card is not. -/
theorem playFirst_eq_some {hand hand' : List CardsEntity} {card : CardsEntity}
    (h : playFirst hand = some (card, hand')) :
    ∃ before c after, hand = before ++ c :: after ∧ (∀ x ∈ before, x.isPlayed = true) ∧
      c.isPlayed = false ∧ card = c.setPlayed ∧ hand' = before ++ card :: after := by
  induction hand generalizing hand' with
  | nil => simp [playFirst] at h
  | cons c rest ih =>
      cases hplayed : c.isPlayed with
      | true =>
          simp only [playFirst, hplayed, if_true, Option.map_eq_some_iff, Prod.exists,
            Prod.mk.injEq] at h
          obtain ⟨d, rest', hrest, rfl, rfl⟩ := h
          obtain ⟨before, c', after, rfl, hbefore, hc', hd, rfl⟩ := ih hrest
          refine ⟨c :: before, c', after, rfl, ?_, hc', hd, rfl⟩
          intro x hx
          rcases List.mem_cons.1 hx with rfl | hx
          · exact hplayed
          · exact hbefore x hx
      | false =>
          simp only [playFirst, hplayed, Bool.false_eq_true, if_false, Option.some.injEq,
            Prod.mk.injEq] at h
          exact ⟨[], c, rest, rfl, by simp, hplayed, h.1.symm, by simp [← h.1, h.2]⟩

namespace CardsRepository

/-- A player's hand holds the player's rows. -/
theorem mem_cardsOf {rows : CardOrder} {playerId : ℤ} {cards : List CardsEntity}
    {card : CardsEntity} :
    card ∈ cardsOf rows playerId cards ↔ card ∈ cards ∧ card.players = some playerId := by
  rw [cardsOf, (List.perm_insertionSort _ _).mem_iff, Lib.Reordering.mem_apply, List.mem_filter]
  simp

end CardsRepository

/-- `drawNextCard` never fails; it marks a card, or finds none to mark. -/
theorem drawNextCard_apply (rows : CardOrder) (playerId : ℤ) (w : World) :
    drawNextCard rows playerId w =
      match playFirst (CardsRepository.cardsOf rows playerId w.cards) with
      | some (card, _) => (.ok (some card), w.saveCard card)
      | none => (.ok none, w) := by
  show (match playFirst (CardsRepository.cardsOf rows playerId w.cards) with
    | some (card, _) => _
    | none => _ : Service (Option CardsEntity)) w = _
  cases playFirst (CardsRepository.cardsOf rows playerId w.cards) with
  | none => rfl
  | some r => rfl

/-- What a draw does: there is nothing to draw and nothing changes, or an
unplayed row of the player is marked. -/
theorem drawNextCard_cases (rows : CardOrder) (playerId : ℤ) (w : World) :
    (drawNextCard rows playerId w = (.ok none, w) ∧
      ∀ c ∈ w.cards, c.players = some playerId → c.isPlayed = true) ∨
    ∃ c ∈ w.cards, c.players = some playerId ∧ c.isPlayed = false ∧
      drawNextCard rows playerId w = (.ok (some c.setPlayed), w.saveCard c.setPlayed) := by
  rw [drawNextCard_apply]
  rcases hplay : playFirst (CardsRepository.cardsOf rows playerId w.cards) with _ | ⟨card, hand⟩
  · refine Or.inl ⟨rfl, fun c hc hplayer => ?_⟩
    exact playFirst_eq_none.1 hplay c (CardsRepository.mem_cardsOf.2 ⟨hc, hplayer⟩)
  · obtain ⟨before, c, after, hhand, -, hc, rfl, -⟩ := playFirst_eq_some hplay
    have hmem : c ∈ CardsRepository.cardsOf rows playerId w.cards := by rw [hhand]; simp
    obtain ⟨hcards, hplayer⟩ := CardsRepository.mem_cardsOf.1 hmem
    exact Or.inr ⟨c, hcards, hplayer, hc, rfl⟩

/-- A turn of the loop of `war` in which both players have a card. -/
theorem drawWarCards_turn {rows : CardOrder} {player1Id player2Id : ℤ} {w w1 w2 : World}
    {c1 c2 : CardsEntity} (h1 : drawNextCard rows player1Id w = (.ok (some c1), w1))
    (h2 : drawNextCard rows player2Id w1 = (.ok (some c2), w2)) (n : ℕ)
    (warCards : List CardsEntity) :
    drawWarCards rows player1Id player2Id (n + 1) warCards w =
      drawWarCards rows player1Id player2Id n (warCards ++ [c1, c2]) w2 := by
  rw [drawWarCards, Handler.bind_ok h1]
  simp only
  rw [Handler.bind_ok h2]
  simp only [List.append_assoc, List.singleton_append]

/-- A turn of the loop of `war`: player 1 has no card left, player 2 has none
left, or the loop goes on with two more cards. -/
theorem drawWarCards_succ (rows : CardOrder) (player1Id player2Id : ℤ) (n : ℕ)
    (warCards : List CardsEntity) (w : World) :
    (drawNextCard rows player1Id w = (.ok none, w) ∧
      drawWarCards rows player1Id player2Id (n + 1) warCards w = (.ok (.player1Out warCards), w)) ∨
    (∃ c1 w1, drawNextCard rows player1Id w = (.ok (some c1), w1) ∧
      drawNextCard rows player2Id w1 = (.ok none, w1) ∧
      drawWarCards rows player1Id player2Id (n + 1) warCards w =
        (.ok (.player2Out (warCards ++ [c1])), w1)) ∨
    (∃ c1 w1 c2 w2, drawNextCard rows player1Id w = (.ok (some c1), w1) ∧
      drawNextCard rows player2Id w1 = (.ok (some c2), w2) ∧
      drawWarCards rows player1Id player2Id (n + 1) warCards w =
        drawWarCards rows player1Id player2Id n (warCards ++ [c1, c2]) w2) := by
  rcases drawNextCard_cases rows player1Id w with ⟨h1, -⟩ | ⟨c1, -, -, -, h1⟩
  · rw [drawWarCards, Handler.bind_ok h1]
    exact Or.inl ⟨h1, rfl⟩
  · refine Or.inr ?_
    rcases drawNextCard_cases rows player2Id (w.saveCard c1.setPlayed) with
      ⟨h2, -⟩ | ⟨c2, -, -, -, h2⟩
    · refine Or.inl ⟨_, _, h1, h2, ?_⟩
      rw [drawWarCards, Handler.bind_ok h1]
      simp only
      rw [Handler.bind_ok h2]
      rfl
    · exact Or.inr ⟨_, _, _, _, h1, h2, drawWarCards_turn h1 h2 n warCards⟩

/-- A draw that finds a card leaves fewer unplayed ones. -/
theorem unplayedCards_drawNextCard {rows : CardOrder} {playerId player1Id player2Id : ℤ}
    (hid : playerId = player1Id ∨ playerId = player2Id) {w w' : World} {card : CardsEntity}
    (h : drawNextCard rows playerId w = (.ok (some card), w')) :
    unplayedCards player1Id player2Id w'.cards < unplayedCards player1Id player2Id w.cards := by
  rcases drawNextCard_cases rows playerId w with ⟨hnone, -⟩ | ⟨c, hc, hplayer, hplayed, hsome⟩
  · rw [hnone] at h
    cases h
  · rw [hsome] at h
    cases h
    refine Rows.countP_save_lt CardsEntity.cardId (x := c) (by simp [CardsEntity.setPlayed])
      hc rfl ?_
    rcases hid with rfl | rfl <;> simp [hplayed, hplayer]

/-- A level of a war that gets all its cards leaves fewer unplayed ones. -/
theorem unplayedCards_drawWarCards {rows : CardOrder} {player1Id player2Id : ℤ} :
    ∀ (n : ℕ) {warCards warCards' : List CardsEntity} {w w' : World},
      drawWarCards rows player1Id player2Id n warCards w = (.ok (.drawn warCards'), w') →
      unplayedCards player1Id player2Id w'.cards + 2 * n
        ≤ unplayedCards player1Id player2Id w.cards := by
  intro n
  induction n with
  | zero =>
      intro warCards warCards' w w' h
      cases h
      omega
  | succ n ih =>
      intro warCards warCards' w w' h
      rcases drawWarCards_succ rows player1Id player2Id n warCards w with
        ⟨-, hrun⟩ | ⟨c1, w1, -, -, hrun⟩ | ⟨c1, w1, c2, w2, h1, h2, hrun⟩ <;> rw [hrun] at h
      · cases h
      · cases h
      · have hlt1 := unplayedCards_drawNextCard (Or.inl rfl : _ ∨ player1Id = player2Id) h1
        have hlt2 := unplayedCards_drawNextCard (Or.inr rfl : player2Id = player1Id ∨ _) h2
        have hle := ih h
        omega

/-! ## The round -/

/-- `war`: two cards of the played pair and up to three more from each player;
the third pair decides, and a tie goes into another war.  The cards of this
level are rebuilt from the played pair, so they are not handed on. -/
def war (rows : CardOrder) (player1Id player2Id gameId : ℤ) (w : World) :
    Except Failure Unit × World :=
  match _hdraw : drawWarCards rows player1Id player2Id 3
      (w.playedCard1.toList ++ w.playedCard2.toList) w with
  | (.error e, w') => (.error e, w')
  | (.ok (.player1Out warCards), w') =>
      (do
        declareWinnerAndAddWarCards gameId player1Id player2Id warCards
        convertAndSend (.gameWar warText) : Service Unit) w'
  | (.ok (.player2Out warCards), w') =>
      declareWinnerAndAddWarCards gameId player1Id player2Id warCards w'
  | (.ok (.drawn warCards), w') =>
      match warCards.reverse with
      | lastCard2 :: lastCard1 :: _ =>
          if lastCard2.rank < lastCard1.rank then capture1 warCards w'
          else if lastCard1.rank < lastCard2.rank then capture2 warCards w'
          else war rows player1Id player2Id gameId
            { w' with sent := w'.sent ++ [.gameWar warText] }
      | _ => (.error .indexOutOfBoundsException, w')
termination_by unplayedCards player1Id player2Id w.cards
decreasing_by
  have := unplayedCards_drawWarCards 3 _hdraw
  show unplayedCards player1Id player2Id w'.cards < _
  omega

/-- `gameRound`: the played pair goes to the higher rank, or to a war. -/
def gameRound (rows : CardOrder) (player1Id player2Id gameId : ℤ) : Service Unit := do
  let w ← Handler.get
  match w.playedCard1, w.playedCard2 with
  | some playedCard1, some playedCard2 =>
      if playedCard2.rank < playedCard1.rank then capture1 [playedCard1, playedCard2]
      else if playedCard1.rank < playedCard2.rank then capture2 [playedCard1, playedCard2]
      else do
        convertAndSend (.gameWar warText)
        war rows player1Id player2Id gameId
  | _, _ => Handler.throw .nullPointerException

/-! ## Playing -/

/-- `playCard1`. -/
def playCard1 (rows : CardOrder) (playerId : ℤ) : Service (Option PlayCardResponse) := do
  let player1Cards ← CardsRepository.findCardsByPlayers_PlayerIdOrderByDealOrder rows playerId
  let optionalPlayer1 ← PlayerRepository.findById playerId
  let player1 ← optionalGet optionalPlayer1
  let w ← Handler.get
  if w.player1Turn then
    match playFirst player1Cards with
    | some (card, _) => do
        CardsRepository.save card
        Handler.modify fun w =>
          { w with playedCard1 := some card, player1Turn := false, player2Turn := true }
        return some { card := some card, turn := true, playerSession := player1.sessionId }
    | none => return none
  else
    return some { card := none, turn := false, playerSession := player1.sessionId }

/-- The last lines of `playCard2`, after the round: the turn goes back to player
1, and the winner is announced if the hand, as it was read before the round, has
no unplayed card left. -/
def finishRound (player1Id player2Id gameId : ℤ) (player2Cards : List CardsEntity) :
    Service Unit := do
  Handler.modify fun w => { w with player2Turn := false, player1Turn := true }
  Handler.when (allCardsPlayed player2Cards) do
    let winner ← declareWinner gameId player1Id player2Id
    convertAndSend (.gameWinner winner)

/-- `playCard2`. -/
def playCard2 (rows : CardOrder) (playCardRequest : PlayCardRequest) :
    Service (Option PlayCardResponse) := do
  let player1Id ← unbox playCardRequest.player1Id
  let player2Id ← unbox playCardRequest.player2Id
  let gameId ← unbox playCardRequest.gameId
  let player2Cards ← CardsRepository.findCardsByPlayers_PlayerIdOrderByDealOrder rows player2Id
  let optionalPlayer2 ← PlayerRepository.findById player2Id
  let player2 ← optionalGet optionalPlayer2
  let w ← Handler.get
  if w.player2Turn then
    match playFirst player2Cards with
    | some (card, player2Cards) => do
        CardsRepository.save card
        Handler.modify fun w => { w with playedCard2 := some card }
        gameRound rows player1Id player2Id gameId
        finishRound player1Id player2Id gameId player2Cards
        return some { card := some card, turn := true, playerSession := player2.sessionId }
    | none => return none
  else
    return some { card := none, turn := false, playerSession := player2.sessionId }

/-! ## Resetting -/

/-- `resetTurn`. -/
def resetTurn : Service Unit :=
  Handler.modify fun w => { w with player1Turn := true, player2Turn := false }

/-- `resetCapturedCards`. -/
def resetCapturedCards : Service Unit :=
  Handler.modify fun w => { w with player1CapturedCards := [], player2CapturedCards := [] }

end WarCardGame
