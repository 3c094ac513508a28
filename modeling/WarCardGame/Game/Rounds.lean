import WarCardGame.Game.Hands
import WarCardGame.Server.Plays

/-!
# Rounds mirror battles

`Mirrors t w g` relates the state of the server to a state of the game of War on
lists: the rows of the two players are the hands of `g`, and the captured piles
are its piles.  A round of the service then is a battle of the list game.

* `recipient` — who gets the cards of a war that runs out of cards: the service
  compares the announced text with the two usernames.
* `Mirrors.war` — a war of the service ends as the war on lists does, by
  induction over its levels.
* `Mirrors.gameRound` — and so does a round.
-/

namespace WarCardGame

open Lib

/-- The texts announced as winners. -/
def winnerTexts (messages : List Message) : List String :=
  messages.filterMap fun m => match m with
    | .gameWinner text => some text
    | _ => none

@[simp] theorem winnerTexts_append (ms ns : List Message) :
    winnerTexts (ms ++ ns) = winnerTexts ms ++ winnerTexts ns := by
  simp [winnerTexts]

/-- The side that gets the cards of a war that runs out of cards, for piles of
the given sizes. -/
def recipient (username1 username2 : String) (n1 n2 : ℕ) : Option War.Side :=
  if winnerText username1 username2 n1 n2 = username1 then some .player1
  else if winnerText username1 username2 n1 n2 = username2 then some .player2
  else none

/-- Two players in a game, and the hands they were dealt. -/
structure Match where
  player1Id : ℤ
  player2Id : ℤ
  gameId : ℤ
  player1 : PlayersEntity
  player2 : PlayersEntity
  hand1 : List CardsEntity
  hand2 : List CardsEntity

/-- The rule for wars that run out of cards. -/
def Match.short (t : Match) : ℕ → ℕ → Option War.Side :=
  recipient t.player1.username t.player2.username

/-- The server's cards and piles are those of the list game. -/
structure Mirrors (t : Match) (w : World) (g : War.Game CardsEntity) : Prop where
  hands : ∃ taken1 taken2, t.hand1 = taken1 ++ g.hand1 ∧ t.hand2 = taken2 ++ g.hand2 ∧
    Hands t.player1Id t.player2Id taken1 g.hand1 taken2 g.hand2 w.cards
  pile1 : w.player1CapturedCards = g.pile1.map CardsEntity.setPlayed
  pile2 : w.player2CapturedCards = g.pile2.map CardsEntity.setPlayed
  stored : Stored t.player1Id t.player2Id t.gameId t.player1 t.player2 w

namespace Mirrors

variable {t : Match} {w w' : World} {g g' : War.Game CardsEntity}

/-- Only the card rows, the piles and the stored rows count. -/
theorem same (h : Mirrors t w g) (hcards : w'.cards = w.cards)
    (h1 : w'.player1CapturedCards = w.player1CapturedCards)
    (h2 : w'.player2CapturedCards = w.player2CapturedCards) (hgames : w'.games = w.games)
    (hplayers : w'.players = w.players) : Mirrors t w' g :=
  ⟨by rw [hcards]; exact h.hands, h1.trans h.pile1, h2.trans h.pile2,
    h.stored.same hgames hplayers⟩

/-- Only the hands and the piles of the list game count. -/
theorem of_game (h : Mirrors t w g) (hhand1 : g'.hand1 = g.hand1) (hhand2 : g'.hand2 = g.hand2)
    (hpile1 : g'.pile1 = g.pile1) (hpile2 : g'.pile2 = g.pile2) : Mirrors t w g' :=
  ⟨by rw [hhand1, hhand2]; exact h.hands, by rw [hpile1]; exact h.pile1,
    by rw [hpile2]; exact h.pile2, h.stored⟩

theorem send (h : Mirrors t w g) (ms : List Message) : Mirrors t (w.send ms) g :=
  h.same rfl rfl rfl rfl rfl

theorem captured1 (h : Mirrors t w g) (cards : List CardsEntity) :
    Mirrors t (w.captured1 (cards.map CardsEntity.setPlayed)) (g.give cards (some .player1)) :=
  ⟨h.hands, by simp [World.captured1, War.Game.give, h.pile1], h.pile2, h.stored.same rfl rfl⟩

theorem captured2 (h : Mirrors t w g) (cards : List CardsEntity) :
    Mirrors t (w.captured2 (cards.map CardsEntity.setPlayed)) (g.give cards (some .player2)) :=
  ⟨h.hands, h.pile1, by simp [World.captured2, War.Game.give, h.pile2], h.stored.same rfl rfl⟩

/-- The text announced for the sizes of the piles. -/
def text (t : Match) (sizes : ℕ × ℕ) : String :=
  winnerText t.player1.username t.player2.username sizes.1 sizes.2

theorem award (h : Mirrors t w g) (cards : List CardsEntity) :
    Mirrors t (w.award t.player1.username t.player2.username
      (text t (g.pile1.length, g.pile2.length)) (cards.map CardsEntity.setPlayed))
      (g.give cards (t.short g.pile1.length g.pile2.length)) := by
  unfold World.award Match.short recipient text
  split_ifs
  · exact h.captured1 cards
  · exact h.captured2 cards
  · exact h

/-- The messages an award sends announce no winner. -/
theorem sent_award (w : World) (username1 username2 winner : String) (cards : List CardsEntity) :
    ∃ ms, (w.award username1 username2 winner cards).sent = w.sent ++ ms ∧ winnerTexts ms = [] := by
  unfold World.award
  split_ifs
  · exact ⟨_, rfl, rfl⟩
  · exact ⟨_, rfl, rfl⟩
  · exact ⟨[], by simp, rfl⟩

/-- What a war or a round of the service leaves, when the battle on lists ends
with `r`: the game settled, and a winner announced if the cards ran out. -/
structure Settles (t : Match) (g : War.Game CardsEntity) (a b : CardsEntity)
    (r : War.Battle CardsEntity) (sent : List Message) (result : Except Failure Unit × World) :
    Prop where
  ok : result.1 = .ok ()
  mirrors : Mirrors t result.2 (g.settle t.short a b r)
  sent : ∃ ms, result.2.sent = sent ++ ms ∧
    winnerTexts ms = if r.winner = none then [text t (g.pile1.length, g.pile2.length)] else []

/-- The cards of a battle are given to who takes them. -/
theorem of_give {g₁ : War.Game CardsEntity} {a b : CardsEntity} {r : War.Battle CardsEntity}
    (h : Mirrors t w (g₁.give (a :: b :: r.drawn) (g.taker t.short r)))
    (hhand1 : g₁.hand1 = r.rest1) (hhand2 : g₁.hand2 = r.rest2) (hpile1 : g₁.pile1 = g.pile1)
    (hpile2 : g₁.pile2 = g.pile2) : Mirrors t w (g.settle t.short a b r) := by
  refine h.of_game ?_ ?_ ?_ ?_
  · rw [War.Game.settle_hand1, War.Game.give_hand1, hhand1]
  · rw [War.Game.settle_hand2, War.Game.give_hand2, hhand2]
  · rw [War.Game.settle_pile1, War.Game.give_pile1, hpile1]
  · rw [War.Game.settle_pile2, War.Game.give_pile2, hpile2]

/-- A level that runs out of cards. -/
theorem settles_short {g₁ : War.Game CardsEntity} (h : Mirrors t w g₁) (a b : CardsEntity)
    (tied drawn : List CardsEntity) (hhand1 : g₁.hand1 = []) (hhand2 : g₁.hand2 = [])
    (hpile1 : g₁.pile1 = g.pile1) (hpile2 : g₁.pile2 = g.pile2) :
    Settles t g a b ⟨none, drawn, tied, [], []⟩ w.sent
      ((do
        declareWinnerAndAddWarCards t.gameId t.player1Id t.player2Id
          ((a :: b :: drawn).map CardsEntity.setPlayed)
        convertAndSend (.gameWar warText) : Service Unit) w) := by
  rw [Handler.bind_ok (h.stored.declareWinnerAndAddWarCards_eq _), convertAndSend_apply]
  have hsize1 : w.player1CapturedCards.length = g.pile1.length := by simp [h.pile1, hpile1]
  have hsize2 : w.player2CapturedCards.length = g.pile2.length := by simp [h.pile2, hpile2]
  simp only [hsize1, hsize2]
  refine ⟨rfl, ?_, ?_⟩
  · have haward := h.award (a :: b :: drawn)
    rw [hpile1, hpile2] at haward
    exact of_give ((haward.send _).send _) hhand1 hhand2 hpile1 hpile2
  · obtain ⟨ms, hms, hnone⟩ := sent_award w t.player1.username t.player2.username
      (text t (g.pile1.length, g.pile2.length)) ((a :: b :: drawn).map CardsEntity.setPlayed)
    refine ⟨ms ++ [.gameWar warText, .gameWinner (text t (g.pile1.length, g.pile2.length)),
      .gameWar warText], ?_, ?_⟩
    · show ((w.award _ _ (text t (g.pile1.length, g.pile2.length)) _).sent ++ _) ++ _ = _
      rw [hms]
      simp [text]
    · rw [winnerTexts_append, hnone, if_pos rfl]
      rfl

/-- A level, or a round, that is decided. -/
theorem settles_won {g₁ : War.Game CardsEntity} (h : Mirrors t w g₁) (a b : CardsEntity)
    (tied drawn : List CardsEntity) (side : War.Side) (hpile1 : g₁.pile1 = g.pile1)
    (hpile2 : g₁.pile2 = g.pile2) :
    Settles t g a b ⟨some side, drawn, tied, g₁.hand1, g₁.hand2⟩ w.sent
      (.ok (), match side with
        | .player1 => w.captured1 ((a :: b :: drawn).map CardsEntity.setPlayed)
        | .player2 => w.captured2 ((a :: b :: drawn).map CardsEntity.setPlayed)) := by
  refine ⟨rfl, ?_, ?_⟩
  · cases side with
    | player1 => exact of_give (h.captured1 (a :: b :: drawn)) rfl rfl hpile1 hpile2
    | player2 => exact of_give (h.captured2 (a :: b :: drawn)) rfl rfl hpile1 hpile2
  · cases side with
    | player1 => exact ⟨_, rfl, rfl⟩
    | player2 => exact ⟨_, rfl, rfl⟩

/-- The state the loop of a war leaves. -/
theorem drawn (h : Mirrors t w g) {n : ℕ} {taken1 taken2 cards : List CardsEntity}
    (h1 : t.hand1 = taken1 ++ g.hand1) (h2 : t.hand2 = taken2 ++ g.hand2)
    (hhands : Hands t.player1Id t.player2Id (taken1 ++ g.hand1.take n) (g.hand1.drop n)
      (taken2 ++ g.hand2.take n) (g.hand2.drop n) cards) :
    Mirrors t { w with cards := cards }
      { g with hand1 := g.hand1.drop n, hand2 := g.hand2.drop n } := by
  refine ⟨⟨_, _, ?_, ?_, hhands⟩, h.pile1, h.pile2, h.stored.same rfl rfl⟩
  · rw [h1, List.append_assoc, List.take_append_drop]
  · rw [h2, List.append_assoc, List.take_append_drop]

/-- **A war mirrors the war on lists.** -/
theorem war (rows : CardOrder) (a b : CardsEntity) :
    ∀ (n : ℕ) {g : War.Game CardsEntity} {w : World} (tied : List CardsEntity),
      g.hand1.length = n → Mirrors t w g → g.hand1.length = g.hand2.length →
      w.playedCard1 = some a.setPlayed → w.playedCard2 = some b.setPlayed →
      Settles t g a b (War.war CardsEntity.rank tied g.hand1 g.hand2) w.sent
        (WarCardGame.war rows t.player1Id t.player2Id t.gameId w) := by
  intro n
  induction n using Nat.strong_induction_on with
  | _ n ih =>
      intro g w tied hn h hlength hcard1 hcard2
      obtain ⟨taken1, taken2, h1, h2, hhands⟩ := h.hands
      have hlevel : warDraw rows t.player1Id t.player2Id w =
          drawWarCards rows t.player1Id t.player2Id 3 [a.setPlayed, b.setPlayed] w := by
        unfold warDraw
        rw [hcard1, hcard2]
        rfl
      rcases hhands.drawWarCards rows 3 [a.setPlayed, b.setPlayed] hlength with
        ⟨hle, cards, hdraw, hhands'⟩ | ⟨hlt, cards, hdraw, hhands'⟩ <;> rw [← hlevel] at hdraw
      · rcases War.three_or_fewer hlength with
          ⟨x1, x2, x3, l1, y1, y2, y3, l2, hg1, hg2, hrest⟩ | hfew
        · have hmirrors : Mirrors t { w with cards := cards }
              { g with hand1 := l1, hand2 := l2 } := by
            have hdrawn := h.drawn h1 h2 hhands'
            simpa [hg1, hg2] using hdrawn
          rw [hg1, hg2] at hdraw
          obtain ⟨hgt, hlt, heq⟩ := war_drawn t.gameId
            ([a, b, x1, y1, x2, y2].map CardsEntity.setPlayed) hdraw
          rw [hg1, hg2, War.war_cons]
          rcases lt_trichotomy y3.rank x3.rank with hrank | hrank | hrank
          · rw [War.higher_of_gt CardsEntity.rank hrank, hgt hrank]
            exact settles_won hmirrors a b tied _ .player1 rfl rfl
          · -- another war, over what the hands have left
            rw [War.higher_of_eq CardsEntity.rank hrank.symm, heq hrank.symm]
            have hshorter : l1.length < n := by rw [hg1] at hn; simp at hn; omega
            obtain ⟨hok, hmirrors', ms, hms, htexts⟩ := ih l1.length hshorter
              (g := { g with hand1 := l1, hand2 := l2 })
              (tied ++ War.pairs [x1, x2, x3] [y1, y2, y3]) rfl
              (hmirrors.send [.gameWar warText]) hrest hcard1 hcard2
            refine ⟨hok, hmirrors', .gameWar warText :: ms, ?_, htexts⟩
            rw [hms]
            simp [World.send]
          · rw [War.higher_of_lt CardsEntity.rank hrank, hlt hrank]
            exact settles_won hmirrors a b tied _ .player2 rfl rfl
        · omega
      · rw [War.war_short CardsEntity.rank tied hlength hlt, war_player1Out t.gameId hdraw]
        have hmirrors : Mirrors t { w with cards := cards } { g with hand1 := [], hand2 := [] } :=
          ⟨⟨taken1 ++ g.hand1, taken2 ++ g.hand2, by simp [h1], by simp [h2], hhands'⟩, h.pile1,
            h.pile2, h.stored.same rfl rfl⟩
        exact settles_short hmirrors a b tied _ rfl rfl rfl rfl

/-- **A round mirrors a battle.** -/
theorem gameRound (rows : CardOrder) (h : Mirrors t w g) (hlength : g.hand1.length = g.hand2.length)
    {a b : CardsEntity} (hcard1 : w.playedCard1 = some a.setPlayed)
    (hcard2 : w.playedCard2 = some b.setPlayed) :
    Settles t g a b (War.battle CardsEntity.rank a b g.hand1 g.hand2) w.sent
      (WarCardGame.gameRound rows t.player1Id t.player2Id t.gameId w) := by
  rcases gameRound_cases rows t.player1Id t.player2Id t.gameId w with
    ⟨hnull, -⟩ | ⟨c1, c2, hc1, hc2, hrank, hround⟩ | ⟨c1, c2, hc1, hc2, hrank, hround⟩ |
    ⟨c1, c2, hc1, hc2, hrank, hround⟩
  · simp [hcard1, hcard2] at hnull
  all_goals
    cases hcard1.symm.trans hc1
    cases hcard2.symm.trans hc2
    rw [hround, War.battle]
  · have hside : War.higher CardsEntity.rank a b = some .player1 := War.higher_of_gt _ hrank
    rw [hside]
    exact settles_won h a b [] [] .player1 rfl rfl
  · have hside : War.higher CardsEntity.rank a b = some .player2 := War.higher_of_lt _ hrank
    rw [hside]
    exact settles_won h a b [] [] .player2 rfl rfl
  · have hside : War.higher CardsEntity.rank a b = none := War.higher_of_eq _ hrank
    rw [hside]
    obtain ⟨hok, hmirrors, ms, hms, htexts⟩ := Mirrors.war rows a b _ [] rfl
      (h.send [.gameWar warText]) hlength hcard1 hcard2
    refine ⟨hok, hmirrors, .gameWar warText :: ms, ?_, htexts⟩
    rw [hms]
    simp [World.send]

end Mirrors

end WarCardGame
