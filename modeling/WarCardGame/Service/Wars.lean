import WarCardGame.Lib.Recursion
import WarCardGame.Service.Endings

/-!
# Wars end

`war` calls itself without an argument that gets smaller: what shrinks is in the
card table, where every draw sets a flag.  `warBody` is the body of `war` with the
recursive call left open, and reads the deciding pair by its position from the end
of the list, as the source does.

* `warBody_unfolds` — `war` does what the body does, call for call.
* `warBody_calls` — a recursive call finds fewer unplayed cards of the two players.
* `DecidingPair` — where the pair that decides a level comes from.
* `wars_end` — every war returns or throws, and the deciding pair is always there.
-/

namespace WarCardGame

open Lib

/-- `List.get`, with Java's `int` for the position. -/
def listGet (cards : List CardsEntity) (i : ℤ) : Option CardsEntity :=
  if 0 ≤ i then cards[i.toNat]? else none

theorem listGet_append_pair (cards : List CardsEntity) (a b : CardsEntity) :
    listGet (cards ++ [a, b]) ((cards ++ [a, b]).length - 2) = some a ∧
      listGet (cards ++ [a, b]) ((cards ++ [a, b]).length - 1) = some b := by
  have hsize : ((cards ++ [a, b]).length : ℤ) = cards.length + 2 := by simp
  have hlast1 : ((cards.length : ℤ) + 2 - 2).toNat = cards.length := by omega
  have hlast2 : ((cards.length : ℤ) + 2 - 1).toNat = cards.length + 1 := by omega
  unfold listGet
  rw [hsize, hlast1, hlast2, if_pos (by omega), if_pos (by omega)]
  simp

section Wars

variable (rows : CardOrder) (player1Id player2Id gameId : ℤ)

/-! ## One level -/

/-- The body of `war`; the recursive call is left open. -/
def warBody : Procedure World (Except Failure Unit × World) := fun w =>
  match drawWarCards rows player1Id player2Id 3
      (w.playedCard1.toList ++ w.playedCard2.toList) w with
  | (.error e, w') => .returns (.error e, w')
  | (.ok (.player1Out warCards), w') =>
      .returns ((do
        declareWinnerAndAddWarCards gameId player1Id player2Id warCards
        convertAndSend (.gameWar warText) : Service Unit) w')
  | (.ok (.player2Out warCards), w') =>
      .returns (declareWinnerAndAddWarCards gameId player1Id player2Id warCards w')
  | (.ok (.drawn warCards), w') =>
      match listGet warCards (warCards.length - 2), listGet warCards (warCards.length - 1) with
      | some lastCard1, some lastCard2 =>
          if lastCard2.rank < lastCard1.rank then .returns (capture1 warCards w')
          else if lastCard1.rank < lastCard2.rank then .returns (capture2 warCards w')
          else .calls (w'.send [.gameWar warText])
      | _, _ => .returns (.error .indexOutOfBoundsException, w')

variable {rows player1Id player2Id}

theorem warBody_drawn {w w' : World} {cs : List CardsEntity} {a b : CardsEntity}
    (hdraw : warDraw rows player1Id player2Id w = (.ok (.drawn (cs ++ [a, b])), w')) :
    warBody rows player1Id player2Id gameId w =
      if b.rank < a.rank then .returns (.ok (), w'.captured1 (cs ++ [a, b]))
      else if a.rank < b.rank then .returns (.ok (), w'.captured2 (cs ++ [a, b]))
      else .calls (w'.send [.gameWar warText]) := by
  obtain ⟨hlast1, hlast2⟩ := listGet_append_pair cs a b
  unfold warDraw at hdraw
  simp only [warBody, hdraw, hlast1, hlast2]
  rfl

theorem warBody_player1Out {w w' : World} {cs : List CardsEntity}
    (hdraw : warDraw rows player1Id player2Id w = (.ok (.player1Out cs), w')) :
    warBody rows player1Id player2Id gameId w =
      .returns ((do
        declareWinnerAndAddWarCards gameId player1Id player2Id cs
        convertAndSend (.gameWar warText) : Service Unit) w') := by
  unfold warDraw at hdraw
  simp only [warBody, hdraw]

theorem warBody_player2Out {w w' : World} {cs : List CardsEntity}
    (hdraw : warDraw rows player1Id player2Id w = (.ok (.player2Out cs), w')) :
    warBody rows player1Id player2Id gameId w =
      .returns (declareWinnerAndAddWarCards gameId player1Id player2Id cs w') := by
  unfold warDraw at hdraw
  simp only [warBody, hdraw]

variable (rows player1Id player2Id)

/-- `war` does what its body does. -/
theorem warBody_unfolds :
    (warBody rows player1Id player2Id gameId).Unfolds (war rows player1Id player2Id gameId) := by
  intro w
  rcases war_cases rows player1Id player2Id gameId w with
    ⟨cs, w', hdraw, hwar⟩ | ⟨cs, w', hdraw, hwar⟩ | ⟨cs, a, b, w', hdraw, hrank, hwar⟩ |
    ⟨cs, a, b, w', hdraw, hrank, hwar⟩ | ⟨cs, a, b, w', hdraw, hrank, hwar⟩
  · rw [hwar, warBody_player1Out gameId hdraw]
  · rw [hwar, warBody_player2Out gameId hdraw]
  · rw [hwar, warBody_drawn gameId hdraw, if_pos hrank]
  · rw [hwar, warBody_drawn gameId hdraw, if_neg (by omega), if_pos hrank]
  · rw [hwar, warBody_drawn gameId hdraw, if_neg (by omega), if_neg (by omega)]

/-- A recursive call is made after a full turn of draws, with nothing but a message
sent in between. -/
theorem drawn_of_calls {w v : World} (h : warBody rows player1Id player2Id gameId w = .calls v) :
    ∃ cs w', warDraw rows player1Id player2Id w = (.ok (.drawn cs), w') ∧
      v = w'.send [.gameWar warText] := by
  rcases war_cases rows player1Id player2Id gameId w with
    ⟨cs, w', hdraw, -⟩ | ⟨cs, w', hdraw, -⟩ | ⟨cs, a, b, w', hdraw, hrank, -⟩ |
    ⟨cs, a, b, w', hdraw, hrank, -⟩ | ⟨cs, a, b, w', hdraw, hrank, -⟩
  · rw [warBody_player1Out gameId hdraw] at h
    cases h
  · rw [warBody_player2Out gameId hdraw] at h
    cases h
  · rw [warBody_drawn gameId hdraw, if_pos hrank] at h
    cases h
  · rw [warBody_drawn gameId hdraw, if_neg (by omega), if_pos hrank] at h
    cases h
  · rw [warBody_drawn gameId hdraw, if_neg (by omega), if_neg (by omega)] at h
    cases h
    exact ⟨_, w', hdraw, rfl⟩

/-- **What shrinks**: the unplayed cards stored for the two players. -/
theorem warBody_calls {w v : World} (h : warBody rows player1Id player2Id gameId w = .calls v) :
    unplayedCards player1Id player2Id v.cards < unplayedCards player1Id player2Id w.cards := by
  obtain ⟨cs, w', hdraw, rfl⟩ := drawn_of_calls rows player1Id player2Id gameId h
  have hle := unplayedCards_drawWarCards 3 hdraw
  show unplayedCards player1Id player2Id w'.cards < _
  omega

/-! ## The deciding pair -/

/-- A card drawn from a player's hand: an unplayed row of the player, marked. -/
def DrawnFrom (playerId : ℤ) (w : World) (card : CardsEntity) : Prop :=
  ∃ c ∈ w.cards, c.players = some playerId ∧ c.isPlayed = false ∧ card = c.setPlayed

/-- The pair that decides a level which starts in `w` and has drawn all its cards in
`w'`: the third turn draws the two cards, and both are unplayed when the level
starts. -/
structure DecidingPair (w w' : World) (lastCard1 lastCard2 : CardsEntity) : Prop where
  thirdTurn : ∃ cs v v',
    drawWarCards rows player1Id player2Id 2 w.playedPair w = (.ok (.drawn cs), v) ∧
    drawNextCard rows player1Id v = (.ok (some lastCard1), v') ∧
    drawNextCard rows player2Id v' = (.ok (some lastCard2), w')
  hand1 : DrawnFrom player1Id w lastCard1
  hand2 : DrawnFrom player2Id w lastCard2

variable {rows player1Id player2Id}

/-- A card drawn later in a level was there, unplayed, when the level started. -/
theorem drawnFrom_of_drawNextCard {playerId : ℤ} {w v v' : World} {card : CardsEntity}
    (hframe : RoundFrame w v) (h : drawNextCard rows playerId v = (.ok (some card), v')) :
    DrawnFrom playerId w card := by
  rcases drawNextCard_cases rows playerId v with ⟨hnone, -⟩ | ⟨c, hc, howner, hunplayed, hsome⟩
  · rw [hnone] at h
    cases h
  · rw [hsome] at h
    cases h
    exact ⟨c, hframe.mem_of_unplayed hc hunplayed, howner, hunplayed, rfl⟩

/-- **The deciding pair is in range**, and it is the pair of the third turn. -/
theorem exists_decidingPair {w w' : World} {warCards : List CardsEntity}
    (hdraw : warDraw rows player1Id player2Id w = (.ok (.drawn warCards), w')) :
    ∃ lastCard1 lastCard2, listGet warCards (warCards.length - 2) = some lastCard1 ∧
      listGet warCards (warCards.length - 1) = some lastCard2 ∧
      DecidingPair rows player1Id player2Id w w' lastCard1 lastCard2 := by
  obtain ⟨cs, a, b, v, v', hturns, ha, hb, rfl⟩ :=
    drawWarCards_lastTurn rows player1Id player2Id 2 hdraw
  obtain ⟨hlast1, hlast2⟩ := listGet_append_pair cs a b
  have hframe : RoundFrame w v := RoundFrame.drawWarCards rows player1Id player2Id 2 hturns
  have hframe' : RoundFrame w v' := hframe.trans (RoundFrame.drawNextCard ha)
  exact ⟨a, b, hlast1, hlast2, ⟨cs, v, v', hturns, ha, hb⟩,
    drawnFrom_of_drawNextCard hframe ha, drawnFrom_of_drawNextCard hframe' hb⟩

variable (rows player1Id player2Id)

theorem declareWinnerAndAddWarCards_inRange (warCards : List CardsEntity) (w : World) :
    (declareWinnerAndAddWarCards gameId player1Id player2Id warCards w).1 ≠
      .error .indexOutOfBoundsException := by
  rcases rows_stored_or_missing gameId player1Id player2Id w with ⟨g, p1, p2, hg, h1, h2⟩ | h
  · rw [declareWinnerAndAddWarCards_apply hg h1 h2]
    simp
  · rw [declareWinnerAndAddWarCards_missing h]
    simp

/-- No level of a war reads past the ends of its list. -/
theorem war_inRange (w : World) :
    (war rows player1Id player2Id gameId w).1 ≠ .error .indexOutOfBoundsException := by
  refine war_induction rows player1Id player2Id (motive := fun w =>
    (war rows player1Id player2Id gameId w).1 ≠ .error .indexOutOfBoundsException) ?_ w
  intro w ih
  rcases war_cases rows player1Id player2Id gameId w with
    ⟨cs, w', hdraw, hwar⟩ | ⟨cs, w', hdraw, hwar⟩ | ⟨cs, a, b, w', hdraw, -, hwar⟩ |
    ⟨cs, a, b, w', hdraw, -, hwar⟩ | ⟨cs, a, b, w', hdraw, -, hwar⟩ <;> rw [hwar]
  · have hdeclare := declareWinnerAndAddWarCards_inRange player1Id player2Id gameId cs w'
    rw [Handler.bind_apply]
    rcases hresult : declareWinnerAndAddWarCards gameId player1Id player2Id cs w' with ⟨e | u, v⟩
    · rw [hresult] at hdeclare
      exact hdeclare
    · simp [convertAndSend_apply]
  · exact declareWinnerAndAddWarCards_inRange player1Id player2Id gameId cs w'
  · simp
  · simp
  · exact ih _ _ hdraw

/-! ## Termination -/

/-- **Wars end.**  From every state, whatever the cards, their ranks, the played pair
and the two ids: a depth above the number of unplayed cards of the two players is
enough for the recursion to return or throw; every recursive call finds fewer of
them; no position out of range is read; and in a level that draws all its cards the
deciding pair is a card from player 1's hand and one from player 2's, drawn in the
last turn of that level. -/
theorem wars_end (w : World) :
    (∀ depth, unplayedCards player1Id player2Id w.cards < depth →
      (warBody rows player1Id player2Id gameId).run depth w =
        some (war rows player1Id player2Id gameId w)) ∧
    (∀ v, warBody rows player1Id player2Id gameId w = .calls v →
      unplayedCards player1Id player2Id v.cards < unplayedCards player1Id player2Id w.cards) ∧
    (war rows player1Id player2Id gameId w).1 ≠ .error .indexOutOfBoundsException ∧
    ∀ warCards w', warDraw rows player1Id player2Id w = (.ok (.drawn warCards), w') →
      ∃ lastCard1 lastCard2, listGet warCards (warCards.length - 2) = some lastCard1 ∧
        listGet warCards (warCards.length - 1) = some lastCard2 ∧
        DecidingPair rows player1Id player2Id w w' lastCard1 lastCard2 := by
  refine ⟨fun depth hdepth => ?_, fun v hcall => ?_, ?_, fun warCards w' hdraw => ?_⟩
  · refine Procedure.run_eq_of_measure (μ := fun w => unplayedCards player1Id player2Id w.cards)
      (warBody_unfolds rows player1Id player2Id gameId) (fun w v hcall => ?_) hdepth
    exact warBody_calls rows player1Id player2Id gameId hcall
  · exact warBody_calls rows player1Id player2Id gameId hcall
  · exact war_inRange rows player1Id player2Id gameId w
  · exact exists_decidingPair hdraw

end Wars

end WarCardGame
