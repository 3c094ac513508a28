import WarCardGame.Model.Controllers

/-!
# What the services do to the state

One equation or one frame for each operation of the services, so that the
proofs about whole requests never unfold a handler twice.

* `dealCards_apply`, `dealCards1_apply`, `dealCards2_apply` — dealing writes
  card rows and nothing else.
* `playCard1_apply`, `playCard2_apply` — a play is refused without a trace, or
  it marks a card; player 2's card then goes into `gameRound`.
* `RoundRule` — **what a round does**, as a rule: a relation that each thing it does
  keeps, the round keeps, whether it returns or throws.
* `gameRound_frame` — by that rule, a round writes card rows, piles and messages; the
  tables of players and games, the turn flags and the played pair stay.
* `declareWinner_apply`, `declareWinnerAndAddWarCards_apply` — who is announced,
  and who gets the cards of a war that runs out of cards.
-/

namespace WarCardGame

open Lib

/-! ## Dealing -/

theorem dealCards_apply (player : Option ℤ) (i : ℕ) (hand : List CardsEntity) (w : World) :
    dealCards player i hand w =
      (.ok (),
        { w with cards := Rows.saveAll CardsEntity.cardId (dealt player i hand) w.cards }) := by
  induction hand generalizing i w with
  | nil => rfl
  | cons card rest ih =>
      rw [dealCards, Handler.bind_apply]
      exact ih _ _

@[simp] theorem map_cardId_dealt (player : Option ℤ) (i : ℕ) (hand : List CardsEntity) :
    (dealt player i hand).map CardsEntity.cardId = hand.map CardsEntity.cardId := by
  induction hand generalizing i with
  | nil => rfl
  | cons card rest ih => simp [dealt, ih]

/-- Dealing a card writes its number and its owner only. -/
theorem exists_of_mem_dealt {player : Option ℤ} {i : ℕ} {hand : List CardsEntity}
    {c : CardsEntity} (hc : c ∈ dealt player i hand) :
    ∃ d ∈ hand, ∃ n : ℤ, c = { d with dealOrder := n, players := player } := by
  induction hand generalizing i with
  | nil => exact absurd hc List.not_mem_nil
  | cons card rest ih =>
      rcases List.mem_cons.1 hc with rfl | hrest
      · exact ⟨card, List.mem_cons_self .., i, rfl⟩
      · obtain ⟨d, hd, n, hn⟩ := ih hrest
        exact ⟨d, List.mem_cons_of_mem _ hd, n, hn⟩

/-- The cards of a hand belong to whom they are dealt. -/
theorem players_of_mem_dealt {player : Option ℤ} {i : ℕ} {hand : List CardsEntity}
    {c : CardsEntity} (hc : c ∈ dealt player i hand) : c.players = player := by
  obtain ⟨d, -, n, rfl⟩ := exists_of_mem_dealt hc
  rfl

/-- What the lookup by session gives: a row, no row, or an exception. -/
def sessionLookup (players : List PlayersEntity) (sessionId : Option String) :
    Except Failure (Option PlayersEntity) :=
  match players.filter fun p => p.sessionId = sessionId with
  | [] =>
      if sessionId.all Varchar.sendable then .ok none
      else .error .dataIntegrityViolationException
  | [player] => .ok (some player)
  | _ => .error .incorrectResultSizeDataAccessException

theorem findPlayerBySessionId_apply (sessionId : Option String) (w : World) :
    PlayerRepository.findPlayerBySessionId sessionId w =
      (sessionLookup w.players sessionId, w) := by
  simp only [PlayerRepository.findPlayerBySessionId, Handler.bind_apply, Handler.get_apply,
    sessionLookup]
  generalize List.filter _ w.players = found
  rcases found with _ | ⟨player, _ | ⟨other, rest⟩⟩
  · cases sessionId.all Varchar.sendable <;> rfl
  · rfl
  · rfl

/-- A player found by session is a stored one with that session. -/
theorem mem_of_sessionLookup {players : List PlayersEntity} {sessionId : Option String}
    {player : PlayersEntity} (h : sessionLookup players sessionId = .ok (some player)) :
    players.filter (fun p => p.sessionId = sessionId) = [player] ∧ player ∈ players ∧
      player.sessionId = sessionId := by
  unfold sessionLookup at h
  split at h
  · split_ifs at h
    cases h
  · rename_i p hp
    cases h
    have hmem : player ∈ players.filter fun p => p.sessionId = sessionId := by rw [hp]; simp
    rw [List.mem_filter] at hmem
    exact ⟨hp, hmem.1, by simpa using hmem.2⟩
  · cases h

/-- The state after a hand was dealt. -/
def World.dealtTo (w : World) (player : Option ℤ) (hand : List CardsEntity) : World :=
  { w with cards := Rows.saveAll CardsEntity.cardId (dealt player 0 hand) w.cards }

theorem dealCards1_apply (rows shuffle : CardOrder) (sessionId : Option String) (w : World) :
    dealCards1 rows shuffle sessionId w =
      match sessionLookup w.players sessionId with
      | .error e => (.error e, w)
      | .ok player1 =>
          let hand := shuffle.apply ((rows.apply w.cards).take ((rows.apply w.cards).length / 2))
          (.ok { cards := dealt (player1.map (·.playerId)) 0 hand, playerSession := sessionId },
            w.dealtTo (player1.map (·.playerId)) hand) := by
  rw [dealCards1, CardsRepository.findAll]
  simp only [Handler.bind_apply, Handler.get_apply, Handler.pure_apply,
    findPlayerBySessionId_apply]
  cases sessionLookup w.players sessionId with
  | error e => rfl
  | ok player1 => simp only [dealCards_apply, World.dealtTo]

theorem dealCards2_apply (rows shuffle : CardOrder) (sessionId : Option String) (w : World) :
    dealCards2 rows shuffle sessionId w =
      match sessionLookup w.players sessionId with
      | .error e => (.error e, w)
      | .ok player2 =>
          let hand := shuffle.apply ((rows.apply w.cards).drop ((rows.apply w.cards).length / 2))
          (.ok { cards := dealt (player2.map (·.playerId)) 0 hand, playerSession := sessionId },
            w.dealtTo (player2.map (·.playerId)) hand) := by
  rw [dealCards2, CardsRepository.findAll]
  simp only [Handler.bind_apply, Handler.get_apply, Handler.pure_apply,
    findPlayerBySessionId_apply]
  cases sessionLookup w.players sessionId with
  | error e => rfl
  | ok player2 => simp only [dealCards_apply, World.dealtTo]

/-! ## The announcement of the winner -/

/-- The text `declareWinner` returns for piles of the given sizes. -/
def winnerText (username1 username2 : String) (n1 n2 : ℕ) : String :=
  if n2 < n1 then username1 else if n1 < n2 then username2 else tieText

theorem declareWinner_apply {gameId player1Id player2Id : ℤ} {w : World} {game : GameEntity}
    {player1 player2 : PlayersEntity} (hg : GameRepository.rowOf w.games gameId = some game)
    (h1 : PlayerRepository.rowOf w.players player1Id = some player1)
    (h2 : PlayerRepository.rowOf w.players player2Id = some player2) :
    declareWinner gameId player1Id player2Id w =
      (.ok (winnerText player1.username player2.username w.player1CapturedCards.length
        w.player2CapturedCards.length), w) := by
  simp only [declareWinner, GameRepository.findById, PlayerRepository.findById, optionalGet,
    Handler.orThrow, Handler.bind_apply, Handler.get_apply, Handler.pure_apply, hg, h1, h2,
    winnerText]
  split_ifs <;> rfl

/-- Without one of the three rows, `declareWinner` throws. -/
theorem declareWinner_missing {gameId player1Id player2Id : ℤ} {w : World}
    (h : GameRepository.rowOf w.games gameId = none ∨
      PlayerRepository.rowOf w.players player1Id = none ∨
      PlayerRepository.rowOf w.players player2Id = none) :
    declareWinner gameId player1Id player2Id w = (.error .noSuchElementException, w) := by
  simp only [declareWinner, GameRepository.findById, PlayerRepository.findById, optionalGet,
    Handler.orThrow, Handler.bind_apply, Handler.get_apply, Handler.pure_apply]
  rcases hg : GameRepository.rowOf w.games gameId with _ | game
  · rfl
  rcases h1 : PlayerRepository.rowOf w.players player1Id with _ | player1
  · rfl
  rcases h2 : PlayerRepository.rowOf w.players player2Id with _ | player2
  · rfl
  simp [hg, h1, h2] at h

/-- Either the three rows are stored, or one is missing. -/
theorem rows_stored_or_missing (gameId player1Id player2Id : ℤ) (w : World) :
    (∃ game player1 player2, GameRepository.rowOf w.games gameId = some game ∧
      PlayerRepository.rowOf w.players player1Id = some player1 ∧
      PlayerRepository.rowOf w.players player2Id = some player2) ∨
    (GameRepository.rowOf w.games gameId = none ∨
      PlayerRepository.rowOf w.players player1Id = none ∨
      PlayerRepository.rowOf w.players player2Id = none) := by
  cases GameRepository.rowOf w.games gameId <;> cases PlayerRepository.rowOf w.players player1Id <;>
    cases PlayerRepository.rowOf w.players player2Id <;> simp

/-- The state after `cards` went to player 1's pile. -/
def World.captured1 (w : World) (cards : List CardsEntity) : World :=
  { w with
    player1CapturedCards := w.player1CapturedCards ++ cards
    sent := w.sent ++ [.capturedCardsPlayer1 (w.player1CapturedCards ++ cards)] }

/-- The state after `cards` went to player 2's pile. -/
def World.captured2 (w : World) (cards : List CardsEntity) : World :=
  { w with
    player2CapturedCards := w.player2CapturedCards ++ cards
    sent := w.sent ++ [.capturedCardsPlayer2 (w.player2CapturedCards ++ cards)] }

theorem capture1_apply (cards : List CardsEntity) (w : World) :
    capture1 cards w = (.ok (), w.captured1 cards) := rfl

theorem capture2_apply (cards : List CardsEntity) (w : World) :
    capture2 cards w = (.ok (), w.captured2 cards) := rfl

/-- The state after messages were sent. -/
def World.send (w : World) (messages : List Message) : World :=
  { w with sent := w.sent ++ messages }

theorem convertAndSend_apply (m : Message) (w : World) :
    convertAndSend m w = (.ok (), w.send [m]) := rfl

theorem World.send_send (w : World) (ms ns : List Message) :
    (w.send ms).send ns = w.send (ms ++ ns) := by
  simp [World.send]

/-- The state after the cards of a war that ran out of cards went to the player
whose username is the announced text, if there is one. -/
def World.award (w : World) (username1 username2 winner : String) (cards : List CardsEntity) :
    World :=
  if winner = username1 then w.captured1 cards
  else if winner = username2 then w.captured2 cards
  else w

theorem declareWinnerAndAddWarCards_apply {gameId player1Id player2Id : ℤ} {w : World}
    {game : GameEntity} {player1 player2 : PlayersEntity}
    (hg : GameRepository.rowOf w.games gameId = some game)
    (h1 : PlayerRepository.rowOf w.players player1Id = some player1)
    (h2 : PlayerRepository.rowOf w.players player2Id = some player2) (warCards : List CardsEntity) :
    declareWinnerAndAddWarCards gameId player1Id player2Id warCards w =
      (.ok (),
        let winner := winnerText player1.username player2.username
          w.player1CapturedCards.length w.player2CapturedCards.length
        (w.award player1.username player2.username winner warCards).send
          [.gameWar warText, .gameWinner winner]) := by
  rw [declareWinnerAndAddWarCards, Handler.bind_ok (declareWinner_apply hg h1 h2)]
  generalize winnerText _ _ _ _ = winner
  simp only [PlayerRepository.findById, optionalGet, Handler.orThrow, Handler.bind_apply,
    Handler.get_apply, Handler.pure_apply, h1, h2, World.award]
  by_cases hw1 : winner = player1.username
  · rw [if_pos hw1, if_pos hw1, Handler.bind_ok (capture1_apply warCards w),
      Handler.bind_ok (convertAndSend_apply _ _), convertAndSend_apply, World.send_send]
    rfl
  · rw [if_neg hw1, if_neg hw1]
    by_cases hw2 : winner = player2.username
    · rw [if_pos hw2, if_pos hw2, Handler.bind_ok (capture2_apply warCards w),
        Handler.bind_ok (convertAndSend_apply _ _), convertAndSend_apply, World.send_send]
      rfl
    · rw [if_neg hw2, if_neg hw2, Handler.bind_ok (convertAndSend_apply _ _),
        convertAndSend_apply, World.send_send]
      rfl

theorem declareWinnerAndAddWarCards_missing {gameId player1Id player2Id : ℤ} {w : World}
    (h : GameRepository.rowOf w.games gameId = none ∨
      PlayerRepository.rowOf w.players player1Id = none ∨
      PlayerRepository.rowOf w.players player2Id = none) (warCards : List CardsEntity) :
    declareWinnerAndAddWarCards gameId player1Id player2Id warCards w =
      (.error .noSuchElementException, w) := by
  rw [declareWinnerAndAddWarCards, Handler.bind_error (declareWinner_missing h)]

/-! ## The round -/

/-- The loop of `war` never fails. -/
theorem drawWarCards_ok (rows : CardOrder) (player1Id player2Id : ℤ) :
    ∀ (n : ℕ) (warCards : List CardsEntity) (w : World),
      ∃ d w', drawWarCards rows player1Id player2Id n warCards w = (.ok d, w') := by
  intro n
  induction n with
  | zero => intro warCards w; exact ⟨_, _, rfl⟩
  | succ n ih =>
      intro warCards w
      rcases drawWarCards_succ rows player1Id player2Id n warCards w with
        ⟨-, hrun⟩ | ⟨c1, w1, -, -, hrun⟩ | ⟨c1, w1, c2, w2, -, -, hrun⟩ <;> rw [hrun]
      · exact ⟨_, _, rfl⟩
      · exact ⟨_, _, rfl⟩
      · exact ih _ _

/-- **The last turn of the loop of `war`**: what the turns before it leave, and the
pair it draws. -/
theorem drawWarCards_lastTurn (rows : CardOrder) (player1Id player2Id : ℤ) :
    ∀ (n : ℕ) {warCards warCards' : List CardsEntity} {w w' : World},
      drawWarCards rows player1Id player2Id (n + 1) warCards w = (.ok (.drawn warCards'), w') →
      ∃ before a b v v1,
        drawWarCards rows player1Id player2Id n warCards w = (.ok (.drawn before), v) ∧
        drawNextCard rows player1Id v = (.ok (some a), v1) ∧
        drawNextCard rows player2Id v1 = (.ok (some b), w') ∧ warCards' = before ++ [a, b] := by
  intro n
  induction n with
  | zero =>
      intro warCards warCards' w w' h
      rcases drawWarCards_succ rows player1Id player2Id 0 warCards w with
        ⟨-, hrun⟩ | ⟨c1, w1, -, -, hrun⟩ | ⟨c1, w1, c2, w2, h1, h2, hrun⟩ <;> rw [hrun] at h
      · cases h
      · cases h
      · cases h
        exact ⟨warCards, c1, c2, w, w1, rfl, h1, h2, rfl⟩
  | succ n ih =>
      intro warCards warCards' w w' h
      rcases drawWarCards_succ rows player1Id player2Id (n + 1) warCards w with
        ⟨-, hrun⟩ | ⟨c1, w1, -, -, hrun⟩ | ⟨c1, w1, c2, w2, h1, h2, hrun⟩ <;> rw [hrun] at h
      · cases h
      · cases h
      · obtain ⟨before, a, b, v, v1, hbefore, hlast⟩ := ih h
        rw [← drawWarCards_turn h1 h2] at hbefore
        exact ⟨before, a, b, v, v1, hbefore, hlast⟩

/-- The cards of one level of a war: what the loop gives, started with the
played pair. -/
def warDraw (rows : CardOrder) (player1Id player2Id : ℤ) (w : World) :
    Except Failure WarDraw × World :=
  drawWarCards rows player1Id player2Id 3 (w.playedCard1.toList ++ w.playedCard2.toList) w

/-- **The five ways through a level of `war`.** -/
theorem war_cases (rows : CardOrder) (player1Id player2Id gameId : ℤ) (w : World) :
    (∃ (cs : List CardsEntity) (w' : World),
      warDraw rows player1Id player2Id w = (.ok (.player1Out cs), w') ∧
      war rows player1Id player2Id gameId w =
        (do
          declareWinnerAndAddWarCards gameId player1Id player2Id cs
          convertAndSend (.gameWar warText) : Service Unit) w') ∨
    (∃ (cs : List CardsEntity) (w' : World),
      warDraw rows player1Id player2Id w = (.ok (.player2Out cs), w') ∧
      war rows player1Id player2Id gameId w =
        declareWinnerAndAddWarCards gameId player1Id player2Id cs w') ∨
    (∃ (cs : List CardsEntity) (a b : CardsEntity) (w' : World),
      warDraw rows player1Id player2Id w = (.ok (.drawn (cs ++ [a, b])), w') ∧
      b.rank < a.rank ∧
      war rows player1Id player2Id gameId w = (.ok (), w'.captured1 (cs ++ [a, b]))) ∨
    (∃ (cs : List CardsEntity) (a b : CardsEntity) (w' : World),
      warDraw rows player1Id player2Id w = (.ok (.drawn (cs ++ [a, b])), w') ∧
      a.rank < b.rank ∧
      war rows player1Id player2Id gameId w = (.ok (), w'.captured2 (cs ++ [a, b]))) ∨
    (∃ (cs : List CardsEntity) (a b : CardsEntity) (w' : World),
      warDraw rows player1Id player2Id w = (.ok (.drawn (cs ++ [a, b])), w') ∧
      a.rank = b.rank ∧
      war rows player1Id player2Id gameId w =
        war rows player1Id player2Id gameId (w'.send [.gameWar warText])) := by
  unfold warDraw
  obtain ⟨d, w', hdraw⟩ := drawWarCards_ok rows player1Id player2Id 3
    (w.playedCard1.toList ++ w.playedCard2.toList) w
  rw [war]
  split
  · rename_i e w'' h
    rw [h] at hdraw
    cases hdraw
  · rename_i cs w'' h
    exact Or.inl ⟨cs, w'', h, rfl⟩
  · rename_i cs w'' h
    exact Or.inr (Or.inl ⟨cs, w'', h, rfl⟩)
  · rename_i cs w'' h
    obtain ⟨before, a, b, -, -, -, -, -, rfl⟩ :=
      drawWarCards_lastTurn rows player1Id player2Id 2 h
    simp only [List.reverse_append, List.reverse_cons, List.reverse_nil, List.nil_append,
      List.cons_append]
    rcases lt_trichotomy a.rank b.rank with hlt | heq | hgt
    · rw [if_neg (not_lt.2 hlt.le), if_pos hlt]
      exact Or.inr (Or.inr (Or.inr (Or.inl ⟨before, a, b, w'', h, hlt, rfl⟩)))
    · rw [if_neg (not_lt.2 heq.le), if_neg (not_lt.2 heq.ge)]
      exact Or.inr (Or.inr (Or.inr (Or.inr ⟨before, a, b, w'', h, heq, rfl⟩)))
    · rw [if_pos hgt]
      exact Or.inr (Or.inr (Or.inl ⟨before, a, b, w'', h, hgt, rfl⟩))

/-- A level that draws all its cards is decided by the last pair. -/
theorem war_drawn {rows : CardOrder} {player1Id player2Id : ℤ} (gameId : ℤ) {w w' : World}
    (cs : List CardsEntity) {x y : CardsEntity}
    (hdraw : warDraw rows player1Id player2Id w = (.ok (.drawn (cs ++ [x, y])), w')) :
    (y.rank < x.rank →
      war rows player1Id player2Id gameId w = (.ok (), w'.captured1 (cs ++ [x, y]))) ∧
    (x.rank < y.rank →
      war rows player1Id player2Id gameId w = (.ok (), w'.captured2 (cs ++ [x, y]))) ∧
    (x.rank = y.rank → war rows player1Id player2Id gameId w =
      war rows player1Id player2Id gameId (w'.send [.gameWar warText])) := by
  have hlast : ∀ {cs₂ : List CardsEntity} {a b : CardsEntity} {w₂ : World},
      warDraw rows player1Id player2Id w = (.ok (.drawn (cs₂ ++ [a, b])), w₂) →
      cs₂ = cs ∧ a = x ∧ b = y ∧ w₂ = w' := by
    intro cs₂ a b w₂ h
    rw [hdraw] at h
    simp only [Prod.mk.injEq, Except.ok.injEq, WarDraw.drawn.injEq] at h
    obtain ⟨hcs, hpair⟩ := List.append_inj' h.1 rfl
    simp only [List.cons.injEq, and_true] at hpair
    exact ⟨hcs.symm, hpair.1.symm, hpair.2.symm, h.2.symm⟩
  rcases war_cases rows player1Id player2Id gameId w with
    ⟨cs₂, w₂, h, -⟩ | ⟨cs₂, w₂, h, -⟩ | ⟨cs₂, a, b, w₂, h, hrank, hwar⟩ |
    ⟨cs₂, a, b, w₂, h, hrank, hwar⟩ | ⟨cs₂, a, b, w₂, h, hrank, hwar⟩
  · cases hdraw.symm.trans h
  · cases hdraw.symm.trans h
  all_goals
    obtain ⟨rfl, rfl, rfl, rfl⟩ := hlast h
    refine ⟨fun hlt => ?_, fun hlt => ?_, fun heq => ?_⟩ <;> first | exact hwar | omega

theorem war_player1Out {rows : CardOrder} {player1Id player2Id : ℤ} (gameId : ℤ) {w w' : World}
    {cs : List CardsEntity}
    (hdraw : warDraw rows player1Id player2Id w = (.ok (.player1Out cs), w')) :
    war rows player1Id player2Id gameId w =
      (do
        declareWinnerAndAddWarCards gameId player1Id player2Id cs
        convertAndSend (.gameWar warText) : Service Unit) w' := by
  rcases war_cases rows player1Id player2Id gameId w with
    ⟨cs₂, w₂, h, hwar⟩ | ⟨cs₂, w₂, h, -⟩ | ⟨cs₂, a, b, w₂, h, -, -⟩ |
    ⟨cs₂, a, b, w₂, h, -, -⟩ | ⟨cs₂, a, b, w₂, h, -, -⟩ <;> cases hdraw.symm.trans h
  exact hwar

theorem war_player2Out {rows : CardOrder} {player1Id player2Id : ℤ} (gameId : ℤ) {w w' : World}
    {cs : List CardsEntity}
    (hdraw : warDraw rows player1Id player2Id w = (.ok (.player2Out cs), w')) :
    war rows player1Id player2Id gameId w =
      declareWinnerAndAddWarCards gameId player1Id player2Id cs w' := by
  rcases war_cases rows player1Id player2Id gameId w with
    ⟨cs₂, w₂, h, -⟩ | ⟨cs₂, w₂, h, hwar⟩ | ⟨cs₂, a, b, w₂, h, -, -⟩ |
    ⟨cs₂, a, b, w₂, h, -, -⟩ | ⟨cs₂, a, b, w₂, h, -, -⟩ <;> cases hdraw.symm.trans h
  exact hwar

/-- To prove something of a war it is enough to prove it of a level, given it
for the level below. -/
theorem war_induction (rows : CardOrder) (player1Id player2Id : ℤ) {motive : World → Prop}
    (hlevel : ∀ w, (∀ cs w', warDraw rows player1Id player2Id w = (.ok (.drawn cs), w') →
      motive (w'.send [.gameWar warText])) → motive w) (w : World) : motive w := by
  -- the measure of the recursion: the unplayed cards of the two players
  induction hn : unplayedCards player1Id player2Id w.cards using Nat.strong_induction_on
    generalizing w with
  | _ n ih =>
      refine hlevel w fun cs w' hdraw => ?_
      have hlt := unplayedCards_drawWarCards 3 hdraw
      exact ih (unplayedCards player1Id player2Id w'.cards) (by omega) (w'.send _) rfl

/-- **The ways through `gameRound`.** -/
theorem gameRound_cases (rows : CardOrder) (player1Id player2Id gameId : ℤ) (w : World) :
    ((w.playedCard1 = none ∨ w.playedCard2 = none) ∧
      gameRound rows player1Id player2Id gameId w = (.error .nullPointerException, w)) ∨
    (∃ c1 c2, w.playedCard1 = some c1 ∧ w.playedCard2 = some c2 ∧ c2.rank < c1.rank ∧
      gameRound rows player1Id player2Id gameId w = (.ok (), w.captured1 [c1, c2])) ∨
    (∃ c1 c2, w.playedCard1 = some c1 ∧ w.playedCard2 = some c2 ∧ c1.rank < c2.rank ∧
      gameRound rows player1Id player2Id gameId w = (.ok (), w.captured2 [c1, c2])) ∨
    (∃ c1 c2, w.playedCard1 = some c1 ∧ w.playedCard2 = some c2 ∧ c1.rank = c2.rank ∧
      gameRound rows player1Id player2Id gameId w =
        war rows player1Id player2Id gameId (w.send [.gameWar warText])) := by
  rw [gameRound, Handler.bind_ok (Handler.get_apply w)]
  rcases h1 : w.playedCard1 with _ | c1
  · exact Or.inl ⟨Or.inl rfl, rfl⟩
  rcases h2 : w.playedCard2 with _ | c2
  · exact Or.inl ⟨Or.inr rfl, rfl⟩
  simp only
  rcases lt_trichotomy c1.rank c2.rank with hlt | heq | hgt
  · rw [if_neg (not_lt.2 hlt.le), if_pos hlt]
    exact Or.inr (Or.inr (Or.inl ⟨c1, c2, rfl, rfl, hlt, rfl⟩))
  · rw [if_neg (not_lt.2 heq.le), if_neg (not_lt.2 heq.ge)]
    exact Or.inr (Or.inr (Or.inr ⟨c1, c2, rfl, rfl, heq, rfl⟩))
  · rw [if_pos hgt]
    exact Or.inr (Or.inl ⟨c1, c2, rfl, rfl, hgt, rfl⟩)

/-! ## What a round does to the state -/

/-- A relation between states that each thing a round does keeps: it marks cards,
gives cards to a pile, and sends texts. -/
structure RoundRule (R : World → World → Prop) : Prop where
  refl : ∀ w, R w w
  trans : ∀ {u v w}, R u v → R v w → R u w
  saveCard : ∀ {w : World} {c : CardsEntity}, c ∈ w.cards → R w (w.saveCard c.setPlayed)
  captured1 : ∀ (w : World) (cards : List CardsEntity), R w (w.captured1 cards)
  captured2 : ∀ (w : World) (cards : List CardsEntity), R w (w.captured2 cards)
  sendWar : ∀ w : World, R w (w.send [.gameWar warText])
  sendWinner : ∀ (w : World) (text : String), R w (w.send [.gameWinner text])

namespace RoundRule

variable {R : World → World → Prop} (rule : RoundRule R)

include rule

theorem award (w : World) (username1 username2 winner : String) (cards : List CardsEntity) :
    R w (w.award username1 username2 winner cards) := by
  unfold World.award
  split_ifs
  · exact rule.captured1 w cards
  · exact rule.captured2 w cards
  · exact rule.refl w

theorem drawNextCard {rows : CardOrder} {playerId : ℤ} {w w' : World} {c : Option CardsEntity}
    (h : WarCardGame.drawNextCard rows playerId w = (.ok c, w')) : R w w' := by
  rcases drawNextCard_cases rows playerId w with ⟨hnone, -⟩ | ⟨card, hcard, -, -, hsome⟩
  · rw [hnone] at h
    cases h
    exact rule.refl w
  · rw [hsome] at h
    cases h
    exact rule.saveCard hcard

theorem drawWarCards (rows : CardOrder) (player1Id player2Id : ℤ) :
    ∀ (n : ℕ) {warCards : List CardsEntity} {w w' : World} {d : WarDraw},
      WarCardGame.drawWarCards rows player1Id player2Id n warCards w = (.ok d, w') → R w w' := by
  intro n
  induction n with
  | zero =>
      intro warCards w w' d h
      cases h
      exact rule.refl w
  | succ n ih =>
      intro warCards w w' d h
      rcases drawWarCards_succ rows player1Id player2Id n warCards w with
        ⟨-, hrun⟩ | ⟨c1, w1, h1, -, hrun⟩ | ⟨c1, w1, c2, w2, h1, h2, hrun⟩ <;> rw [hrun] at h
      · cases h
        exact rule.refl w
      · cases h
        exact rule.drawNextCard h1
      · have hturn : R w w2 := rule.trans (rule.drawNextCard h1) (rule.drawNextCard h2)
        exact rule.trans hturn (ih h)

theorem declareWinnerAndAddWarCards (gameId player1Id player2Id : ℤ)
    (warCards : List CardsEntity) (w : World) :
    R w (WarCardGame.declareWinnerAndAddWarCards gameId player1Id player2Id warCards w).2 := by
  rcases rows_stored_or_missing gameId player1Id player2Id w with ⟨g, p1, p2, hg, h1, h2⟩ | h
  · rw [declareWinnerAndAddWarCards_apply hg h1 h2]
    simp only
    generalize winnerText _ _ _ _ = winner
    have haward := rule.award w p1.username p2.username winner warCards
    have htexts := rule.trans (rule.sendWar (w.award p1.username p2.username winner warCards))
      (rule.sendWinner _ winner)
    rw [World.send_send] at htexts
    exact rule.trans haward htexts
  · rw [declareWinnerAndAddWarCards_missing h]
    exact rule.refl w

theorem war (rows : CardOrder) (player1Id player2Id gameId : ℤ) (w : World) :
    R w (WarCardGame.war rows player1Id player2Id gameId w).2 := by
  refine war_induction rows player1Id player2Id
    (motive := fun w => R w (WarCardGame.war rows player1Id player2Id gameId w).2) ?_ w
  intro w ih
  rcases war_cases rows player1Id player2Id gameId w with
    ⟨cs, w', hdraw, hwar⟩ | ⟨cs, w', hdraw, hwar⟩ | ⟨cs, a, b, w', hdraw, -, hwar⟩ |
    ⟨cs, a, b, w', hdraw, -, hwar⟩ | ⟨cs, a, b, w', hdraw, -, hwar⟩ <;>
    refine rule.trans (rule.drawWarCards rows player1Id player2Id 3 hdraw) ?_ <;> rw [hwar]
  · have hdeclare := rule.declareWinnerAndAddWarCards gameId player1Id player2Id cs w'
    refine Handler.bind_related (R := R) rule.trans hdeclare fun _ w'' => ?_
    exact rule.sendWar w''
  · exact rule.declareWinnerAndAddWarCards gameId player1Id player2Id cs w'
  · exact rule.captured1 w' _
  · exact rule.captured2 w' _
  · exact rule.trans (rule.sendWar w') (ih _ _ hdraw)

/-- **What a round does**, whether it returns or throws. -/
theorem gameRound (rows : CardOrder) (player1Id player2Id gameId : ℤ) (w : World) :
    R w (WarCardGame.gameRound rows player1Id player2Id gameId w).2 := by
  rcases gameRound_cases rows player1Id player2Id gameId w with
    ⟨-, h⟩ | ⟨c1, c2, -, -, -, h⟩ | ⟨c1, c2, -, -, -, h⟩ | ⟨c1, c2, -, -, -, h⟩ <;> rw [h]
  · exact rule.refl w
  · exact rule.captured1 w _
  · exact rule.captured2 w _
  · exact rule.trans (rule.sendWar w) (rule.war rows player1Id player2Id gameId _)

end RoundRule

/-- What a round leaves alone: it marks card rows, and writes piles and
messages. -/
structure RoundFrame (w w' : World) : Prop where
  cardIds : w'.cards.map CardsEntity.cardId = w.cards.map CardsEntity.cardId
  cards : ∀ c' ∈ w'.cards, c' ∈ w.cards ∨ ∃ c ∈ w.cards, c' = c.setPlayed
  players : w'.players = w.players
  games : w'.games = w.games
  nextPlayerId : w'.nextPlayerId = w.nextPlayerId
  nextGameId : w'.nextGameId = w.nextGameId
  player1Turn : w'.player1Turn = w.player1Turn
  player2Turn : w'.player2Turn = w.player2Turn
  playedCard1 : w'.playedCard1 = w.playedCard1
  playedCard2 : w'.playedCard2 = w.playedCard2

namespace RoundFrame

/-- A change of piles and messages only. -/
theorem of_cards_eq {w w' : World} (hcards : w'.cards = w.cards) (players : w'.players = w.players)
    (games : w'.games = w.games) (nextPlayerId : w'.nextPlayerId = w.nextPlayerId)
    (nextGameId : w'.nextGameId = w.nextGameId) (player1Turn : w'.player1Turn = w.player1Turn)
    (player2Turn : w'.player2Turn = w.player2Turn) (playedCard1 : w'.playedCard1 = w.playedCard1)
    (playedCard2 : w'.playedCard2 = w.playedCard2) : RoundFrame w w' :=
  ⟨by rw [hcards], fun c hc => Or.inl (hcards ▸ hc), players, games, nextPlayerId, nextGameId,
    player1Turn, player2Turn, playedCard1, playedCard2⟩

theorem refl (w : World) : RoundFrame w w :=
  of_cards_eq rfl rfl rfl rfl rfl rfl rfl rfl rfl

theorem trans {w w' w'' : World} (h : RoundFrame w w') (h' : RoundFrame w' w'') :
    RoundFrame w w'' := by
  refine ⟨h'.cardIds.trans h.cardIds, ?_, h'.players.trans h.players, h'.games.trans h.games,
    h'.nextPlayerId.trans h.nextPlayerId, h'.nextGameId.trans h.nextGameId,
    h'.player1Turn.trans h.player1Turn, h'.player2Turn.trans h.player2Turn,
    h'.playedCard1.trans h.playedCard1, h'.playedCard2.trans h.playedCard2⟩
  intro c'' hc''
  rcases h'.cards c'' hc'' with hc' | ⟨c', hc', rfl⟩
  · exact h.cards c'' hc'
  · rcases h.cards c' hc' with hc | ⟨c, hc, rfl⟩
    · exact Or.inr ⟨c', hc, rfl⟩
    · exact Or.inr ⟨c, hc, rfl⟩

/-- A round leaves no unplayed row that was not there before. -/
theorem mem_of_unplayed {w w' : World} (h : RoundFrame w w') {c : CardsEntity} (hc : c ∈ w'.cards)
    (hunplayed : c.isPlayed = false) : c ∈ w.cards := by
  rcases h.cards c hc with hold | ⟨d, -, rfl⟩
  · exact hold
  · cases hunplayed

theorem saveCard {w : World} {c : CardsEntity} (hc : c ∈ w.cards) :
    RoundFrame w (w.saveCard c.setPlayed) := by
  refine ⟨Rows.map_key_save _ _ _, ?_, rfl, rfl, rfl, rfl, rfl, rfl, rfl, rfl⟩
  intro c' hc'
  rcases (Rows.mem_save _).1 hc' with ⟨hold, -⟩ | ⟨hnew, -⟩
  · exact Or.inl hold
  · exact Or.inr ⟨c, hc, hnew⟩

theorem send (w : World) (ms : List Message) : RoundFrame w (w.send ms) :=
  of_cards_eq rfl rfl rfl rfl rfl rfl rfl rfl rfl

theorem captured1 (w : World) (cards : List CardsEntity) : RoundFrame w (w.captured1 cards) :=
  of_cards_eq rfl rfl rfl rfl rfl rfl rfl rfl rfl

theorem captured2 (w : World) (cards : List CardsEntity) : RoundFrame w (w.captured2 cards) :=
  of_cards_eq rfl rfl rfl rfl rfl rfl rfl rfl rfl

theorem rule : RoundRule RoundFrame where
  refl := refl
  trans := trans
  saveCard := saveCard
  captured1 := captured1
  captured2 := captured2
  sendWar w := send w _
  sendWinner w _ := send w _

theorem drawNextCard {rows : CardOrder} {playerId : ℤ} {w w' : World} {c : Option CardsEntity}
    (h : WarCardGame.drawNextCard rows playerId w = (.ok c, w')) : RoundFrame w w' :=
  rule.drawNextCard h

theorem drawWarCards (rows : CardOrder) (player1Id player2Id : ℤ) (n : ℕ)
    {warCards : List CardsEntity} {w w' : World} {d : WarDraw}
    (h : WarCardGame.drawWarCards rows player1Id player2Id n warCards w = (.ok d, w')) :
    RoundFrame w w' :=
  rule.drawWarCards rows player1Id player2Id n h

end RoundFrame

theorem gameRound_frame (rows : CardOrder) (player1Id player2Id gameId : ℤ) (w : World) :
    RoundFrame w (gameRound rows player1Id player2Id gameId w).2 :=
  RoundFrame.rule.gameRound rows player1Id player2Id gameId w

/-- The frame of a round whose outcome is known. -/
theorem RoundFrame.of_gameRound {rows : CardOrder} {player1Id player2Id gameId : ℤ} {w w' : World}
    {result : Except Failure Unit}
    (h : gameRound rows player1Id player2Id gameId w = (result, w')) : RoundFrame w w' := by
  have hframe := gameRound_frame rows player1Id player2Id gameId w
  rw [h] at hframe
  exact hframe

/-! ## Playing -/

/-- The state after player 1 put down a card. -/
def World.putDown1 (w : World) (card : CardsEntity) : World :=
  { w.saveCard card with playedCard1 := some card, player1Turn := false, player2Turn := true }

/-- The state in which the round starts, after player 2 put down a card. -/
def World.putDown2 (w : World) (card : CardsEntity) : World :=
  { w.saveCard card with playedCard2 := some card }

theorem playCard1_apply (rows : CardOrder) (playerId : ℤ) (w : World) :
    playCard1 rows playerId w =
      match PlayerRepository.rowOf w.players playerId with
      | none => (.error .noSuchElementException, w)
      | some player1 =>
          if w.player1Turn then
            match playFirst (CardsRepository.cardsOf rows playerId w.cards) with
            | some (card, _) =>
                (.ok (some { card := some card, turn := true, playerSession := player1.sessionId }),
                  w.putDown1 card)
            | none => (.ok none, w)
          else
            (.ok (some { card := none, turn := false, playerSession := player1.sessionId }),
              w) := by
  simp only [playCard1, CardsRepository.findCardsByPlayers_PlayerIdOrderByDealOrder,
    PlayerRepository.findById, optionalGet, Handler.bind_apply, Handler.get_apply,
    Handler.pure_apply]
  cases PlayerRepository.rowOf w.players playerId with
  | none => rfl
  | some player1 =>
      simp only [Handler.orThrow, Handler.pure_apply]
      cases w.player1Turn with
      | false => rfl
      | true => cases playFirst (CardsRepository.cardsOf rows playerId w.cards) <;> rfl

theorem playCard2_apply (rows : CardOrder) (player1Id player2Id gameId : ℤ) (w : World) :
    playCard2 rows ⟨some player1Id, some player2Id, some gameId⟩ w =
      match PlayerRepository.rowOf w.players player2Id with
      | none => (.error .noSuchElementException, w)
      | some player2 =>
          if w.player2Turn then
            match playFirst (CardsRepository.cardsOf rows player2Id w.cards) with
            | some (card, hand) =>
                (do
                  gameRound rows player1Id player2Id gameId
                  finishRound player1Id player2Id gameId hand
                  return some
                    { card := some card, turn := true, playerSession := player2.sessionId } :
                  Service (Option PlayCardResponse)) (w.putDown2 card)
            | none => (.ok none, w)
          else
            (.ok (some { card := none, turn := false, playerSession := player2.sessionId }),
              w) := by
  simp only [playCard2, unbox, CardsRepository.findCardsByPlayers_PlayerIdOrderByDealOrder,
    PlayerRepository.findById, optionalGet, Handler.orThrow, Handler.bind_apply, Handler.get_apply,
    Handler.pure_apply]
  cases PlayerRepository.rowOf w.players player2Id with
  | none => rfl
  | some player2 =>
      simp only [Handler.pure_apply]
      cases w.player2Turn with
      | false => rfl
      | true => cases playFirst (CardsRepository.cardsOf rows player2Id w.cards) <;> rfl

/-- A request with a `null` id stops before it has done anything. -/
theorem playCard2_null (rows : CardOrder) {request : PlayCardRequest} (w : World)
    (h : request.player1Id = none ∨ request.player2Id = none ∨ request.gameId = none) :
    playCard2 rows request w = (.error .nullPointerException, w) := by
  obtain ⟨_ | player1Id, _ | player2Id, _ | gameId⟩ := request
  all_goals first | rfl | simp at h

end WarCardGame
