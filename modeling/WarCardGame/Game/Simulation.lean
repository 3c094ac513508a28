import WarCardGame.Game.Rounds

/-!
# The service plays the game of War on lists

A game that was just dealt is `Dealt t w`: the rows of the two players are the
hands of `t` in the order of `deal_order`, nothing is played, the piles are empty
and it is player 1's turn.  From there on the server and the list game stay
together, request after request.

* `Simulates.step` — a request of the game is a move of the list game, and
  announces what the move announces.
* `simulates_run` — so for every sequence of requests.
* `WarLevel.not_player2Out` — the hands shrink in step, so at no level of a war
  is it player 2 who runs out of cards.
* `server_simulates_listGame` — what this says about hands and piles.
-/

namespace WarCardGame

open Lib

/-! ## Games and their requests -/

/-- The game was just dealt. -/
structure Dealt (t : Match) (w : World) : Prop where
  keys : (w.cards.map CardsEntity.cardId).Nodup
  differ : t.player1Id ≠ t.player2Id
  rows1 : (w.cards.filter fun c => c.players = some t.player1Id).Perm t.hand1
  rows2 : (w.cards.filter fun c => c.players = some t.player2Id).Perm t.hand2
  /-- `deal_order` is the position in the hand. -/
  order1 : t.hand1.map CardsEntity.dealOrder = (List.range t.hand1.length).map Nat.cast
  order2 : t.hand2.map CardsEntity.dealOrder = (List.range t.hand2.length).map Nat.cast
  unplayed : ∀ c ∈ t.hand1 ++ t.hand2, c.isPlayed = false
  equal : t.hand1.length = t.hand2.length
  stored : Stored t.player1Id t.player2Id t.gameId t.player1 t.player2 w
  pile1 : w.player1CapturedCards = []
  pile2 : w.player2CapturedCards = []
  player1Turn : w.player1Turn = true
  player2Turn : w.player2Turn = false

/-- The two requests of the game. -/
def Match.Request (t : Match) (call : Call) : Prop :=
  call.request = .playCardPlayer1 t.player1Id ∨
    call.request = .playCardPlayer2 ⟨some t.player1Id, some t.player2Id, some t.gameId⟩

/-- The move of the list game a request stands for. -/
def moveOf (call : Call) : War.Move :=
  match call.request with
  | .playCardPlayer1 _ => .play1
  | _ => .play2

/-- The list game the service plays. -/
def Match.listGame (t : Match) : Machine (War.Game CardsEntity) War.Move (List (ℕ × ℕ)) :=
  War.listGame CardsEntity.rank t.short

/-- The state of the list game after some requests. -/
def Match.gameAfter (t : Match) (calls : List Call) : War.Game CardsEntity :=
  t.listGame.run (.deal t.hand1 t.hand2) (calls.map moveOf)

/-- The card is one of the two hands. -/
def Match.holds (t : Match) (c : CardsEntity) : Prop :=
  c.players = some t.player1Id ∨ c.players = some t.player2Id

instance (t : Match) (c : CardsEntity) : Decidable (t.holds c) :=
  inferInstanceAs (Decidable (_ ∨ _))

/-! ## The simulation -/

/-- The state of the server stands for a state of the list game. -/
structure Simulates (t : Match) (w : World) (g : War.Game CardsEntity) : Prop
    extends Mirrors t w g where
  balanced : g.Balanced
  player1Turn : w.player1Turn = g.table.isNone
  player2Turn : w.player2Turn = g.table.isSome
  playedCard1 : ∀ a, g.table = some a → w.playedCard1 = some a.setPlayed

/-- Positions grow along a hand. -/
theorem pairwise_of_positions {hand : List CardsEntity}
    (h : hand.map CardsEntity.dealOrder = (List.range hand.length).map Nat.cast) :
    hand.Pairwise fun a b => a.dealOrder < b.dealOrder := by
  rw [← List.pairwise_map (f := CardsEntity.dealOrder) (R := fun a b : ℤ => a < b), h,
    List.pairwise_map]
  exact List.pairwise_lt_range.imp fun hlt => by exact_mod_cast hlt

theorem Dealt.simulates {t : Match} {w : World} (h : Dealt t w) :
    Simulates t w (.deal t.hand1 t.hand2) where
  hands := by
    refine ⟨[], [], rfl, rfl, h.keys, h.differ, ⟨h.rows1, ?_, ?_⟩, ⟨h.rows2, ?_, ?_⟩⟩
    · exact pairwise_of_positions h.order1
    · exact fun c hc => h.unplayed c (List.mem_append_left _ hc)
    · exact pairwise_of_positions h.order2
    · exact fun c hc => h.unplayed c (List.mem_append_right _ hc)
  pile1 := h.pile1
  pile2 := h.pile2
  stored := h.stored
  balanced := War.Game.balanced_deal h.equal
  player1Turn := h.player1Turn
  player2Turn := h.player2Turn
  playedCard1 := fun a ha => by cases ha

namespace Simulates

variable {t : Match} {w : World} {g : War.Game CardsEntity} {call : Call}

theorem quiet (h : Simulates t w g) : Simulates t w.quiet g := by
  have hmirrors : Mirrors t w.quiet g := h.toMirrors.same rfl rfl rfl rfl rfl
  exact ⟨hmirrors, h.balanced, h.player1Turn, h.player2Turn, h.playedCard1⟩

theorem playedCard1_ne_none (h : Simulates t w g) (hturn : w.player2Turn = true) :
    w.playedCard1 ≠ none := by
  rw [h.player2Turn, Option.isSome_iff_exists] at hturn
  obtain ⟨a, ha⟩ := hturn
  rw [h.playedCard1 a ha]
  simp

/-- The hand player 1 is asked for. -/
theorem playFirst1 (h : Simulates t w g) (rows : CardOrder) :
    (g.hand1 = [] → playFirst (CardsRepository.cardsOf rows t.player1Id w.cards) = none) ∧
    ∀ a l1, g.hand1 = a :: l1 → ∃ hand,
      playFirst (CardsRepository.cardsOf rows t.player1Id w.cards) = some (a.setPlayed, hand) := by
  obtain ⟨taken1, taken2, -, -, hhands⟩ := h.hands
  rw [hhands.hand1.cardsOf]
  constructor
  · intro hnil
    rw [hnil, playFirst_taken_nil]
  · intro a l1 hcons
    have hunplayed := hhands.hand1.unplayed a (by rw [hcons]; simp)
    rw [hcons]
    exact ⟨_, playFirst_taken taken1 l1 hunplayed⟩

/-- The hand player 2 is asked for, and what is left of it. -/
theorem playFirst2 (h : Simulates t w g) (rows : CardOrder) :
    (g.hand2 = [] → playFirst (CardsRepository.cardsOf rows t.player2Id w.cards) = none) ∧
    ∀ b l2, g.hand2 = b :: l2 → ∃ hand,
      playFirst (CardsRepository.cardsOf rows t.player2Id w.cards) = some (b.setPlayed, hand) ∧
        allCardsPlayed hand = l2.isEmpty := by
  obtain ⟨taken1, taken2, -, -, hhands⟩ := h.hands
  rw [hhands.hand2.cardsOf]
  constructor
  · intro hnil
    rw [hnil, playFirst_taken_nil]
  · intro b l2 hcons
    have hunplayed : ∀ c ∈ b :: l2, c.isPlayed = false := fun c hc =>
      hhands.hand2.unplayed c (List.mem_append_right _ (by rw [hcons]; exact hc))
    rw [hcons]
    refine ⟨_, playFirst_taken taken2 l2 (hunplayed b (by simp)), ?_⟩
    cases l2 with
    | nil => simp [allCardsPlayed, CardsEntity.setPlayed]
    | cons c l2 => simp [allCardsPlayed, hunplayed c (by simp)]

/-- Player 1's request is player 1's move. -/
theorem play1 (h : Simulates t w g) (hrequest : call.request = .playCardPlayer1 t.player1Id) :
    Simulates t (server.next w call) (g.step CardsEntity.rank t.short .play1) ∧
      winnerTexts (server.next w call).sent = [] := by
  obtain ⟨hnil, hcons⟩ := h.playFirst1 call.rows
  rcases War.Game.step_play1 CardsEntity.rank t.short g with
    ⟨a, l1, htable, hhand1, hstep⟩ | ⟨hno, hstep⟩ <;> rw [hstep] <;>
  rcases playCard1_step hrequest h.stored.player1 with
    ⟨hrefused, hnext, -⟩ | ⟨card, hand, hturn, hplay, hnext, -⟩ <;> rw [hnext]
  · -- it is player 1's turn, and there is a card
    obtain ⟨hand, hplay⟩ := hcons a l1 hhand1
    rw [h.player1Turn, htable, hplay] at hrefused
    simp at hrefused
  · obtain ⟨hand', hplay'⟩ := hcons a l1 hhand1
    rw [hplay'] at hplay
    cases hplay
    obtain ⟨taken1, taken2, h1, h2, hhands⟩ := h.hands
    rw [hhand1] at h1 hhands
    refine ⟨?_, rfl⟩
    exact
      { hands := ⟨taken1 ++ [a], taken2, by simpa using h1, h2, hhands.put1⟩
        pile1 := h.pile1
        pile2 := h.pile2
        stored := h.stored.same rfl rfl
        balanced := by
          have hbalanced := h.balanced
          rw [War.Game.Balanced, htable, hhand1] at hbalanced
          simpa [War.Game.Balanced] using hbalanced
        player1Turn := rfl
        player2Turn := rfl
        playedCard1 := fun c hc => by
          cases hc
          rfl }
  · exact ⟨h.quiet, rfl⟩
  · rw [h.player1Turn, Option.isNone_iff_eq_none] at hturn
    rcases hno with hsome | hempty
    · exact absurd hturn hsome
    · rw [hnil hempty] at hplay
      cases hplay

/-- After player 2 put down the next card, the hand is one card shorter. -/
theorem putDown2 (h : Simulates t w g) {b : CardsEntity} {l2 : List CardsEntity}
    (hhand2 : g.hand2 = b :: l2) :
    Mirrors t (w.quiet.putDown2 b.setPlayed) { g with hand2 := l2 } := by
  obtain ⟨taken1, taken2, h1, h2, hhands⟩ := h.hands
  rw [hhand2] at h2 hhands
  exact ⟨⟨taken1, taken2 ++ [b], h1, by simpa using h2, hhands.put2⟩, h.pile1, h.pile2,
    h.stored.same rfl rfl⟩

/-- Player 2's request is player 2's move. -/
theorem play2 (h : Simulates t w g)
    (hrequest : call.request =
      .playCardPlayer2 ⟨some t.player1Id, some t.player2Id, some t.gameId⟩) :
    Simulates t (server.next w call) (g.step CardsEntity.rank t.short .play2) ∧
      winnerTexts (server.next w call).sent =
        (g.announces CardsEntity.rank t.short .play2).map (Mirrors.text t) := by
  obtain ⟨hnil, hcons⟩ := h.playFirst2 call.rows
  rcases War.Game.step_play2 CardsEntity.rank t.short g with
    ⟨a, b, l2, htable, hhand2, hstep, hannounces⟩ | ⟨hno, hstep, hannounces⟩ <;>
    rw [hstep, hannounces] <;>
  rcases playCard2_step hrequest h.stored h.playedCard1_ne_none with
    ⟨hrefused, hnext, -⟩ | ⟨card, hand, w', hturn, hplay, hround, hnext, -⟩ <;> rw [hnext]
  · -- it is player 2's turn, and there is a card
    obtain ⟨hand, hplay, -⟩ := hcons b l2 hhand2
    rw [h.player2Turn, htable, hplay] at hrefused
    simp at hrefused
  · obtain ⟨hand', hplay', hall⟩ := hcons b l2 hhand2
    rw [hplay'] at hplay
    cases hplay
    have hcard1 : (w.quiet.putDown2 b.setPlayed).playedCard1 = some a.setPlayed :=
      h.playedCard1 a htable
    have hsettles := (h.putDown2 hhand2).gameRound (b := b) call.rows
      (h.balanced.hands htable hhand2) hcard1 rfl
    rw [hround] at hsettles
    obtain ⟨-, hmirrors, ms, hms, htexts⟩ := hsettles
    have hsize1 : w'.player1CapturedCards.length =
        (g.settle t.short a b (War.battle CardsEntity.rank a b g.hand1 l2)).pile1.length := by
      rw [hmirrors.pile1, List.length_map]
      rfl
    have hsize2 : w'.player2CapturedCards.length =
        (g.settle t.short a b (War.battle CardsEntity.rank a b g.hand1 l2)).pile2.length := by
      rw [hmirrors.pile2, List.length_map]
      rfl
    constructor
    · have hbalanced := War.Game.Balanced.step CardsEntity.rank t.short h.balanced .play2
      rw [hstep] at hbalanced
      have hafter : Mirrors t w'
          (g.settle t.short a b (War.battle CardsEntity.rank a b g.hand1 l2)) := hmirrors
      refine ⟨hafter.same rfl rfl rfl rfl rfl, hbalanced, ?_, ?_, fun c hc => ?_⟩
      · rw [War.Game.settle_table]
        rfl
      · rw [War.Game.settle_table]
        rfl
      · rw [War.Game.settle_table] at hc
        cases hc
    · have hsent : w'.sent = ms := hms
      show winnerTexts (w'.sent ++ _) = _
      rw [hsent, winnerTexts_append, htexts, hall, hsize1, hsize2, List.map_append]
      congr 1
      · by_cases hwinner : (War.battle CardsEntity.rank a b g.hand1 l2).winner = none
        · rw [if_pos hwinner, if_pos hwinner]
          rfl
        · rw [if_neg hwinner, if_neg hwinner]
          rfl
      · cases l2 <;> rfl
  · exact ⟨h.quiet, rfl⟩
  · rw [h.player2Turn, Option.isSome_iff_exists] at hturn
    obtain ⟨a, ha⟩ := hturn
    rcases hno with hnone | hempty
    · rw [hnone] at ha
      cases ha
    · rw [hnil hempty] at hplay
      cases hplay

/-- **A request is a move**, and announces what the move announces. -/
theorem step (h : Simulates t w g) (hcall : t.Request call) :
    Simulates t (server.next w call) (t.listGame.next g (moveOf call)) ∧
      winnerTexts (server.out w call).sent =
        (t.listGame.out g (moveOf call)).map (Mirrors.text t) := by
  rcases hcall with hrequest | hrequest
  · have hmove : moveOf call = .play1 := by rw [moveOf, hrequest]
    rw [hmove]
    exact h.play1 hrequest
  · have hmove : moveOf call = .play2 := by rw [moveOf, hrequest]
    rw [hmove]
    exact h.play2 hrequest

end Simulates

/-- The server and the list game stay together. -/
theorem simulates_run {t : Match} {w₀ : World} (hdealt : Dealt t w₀) {calls : List Call}
    (hcalls : ∀ call ∈ calls, t.Request call) :
    Simulates t (server.run w₀ calls)
      (t.listGame.run (.deal t.hand1 t.hand2) (calls.map moveOf)) :=
  Machine.run_simulates (R := Simulates t) (fun _ _ _ hcall h => (h.step hcall).1)
    hdealt.simulates hcalls

/-! ## Who runs out of cards -/

/-- The states in which `war` is called while it is run from `w`: the first one,
and after each level that ties the next one. -/
inductive WarLevel (rows : CardOrder) (player1Id player2Id : ℤ) (w : World) : World → Prop where
  | first : WarLevel rows player1Id player2Id w w
  | next {v v' : World} {cs : List CardsEntity} {a b : CardsEntity}
      (hv : WarLevel rows player1Id player2Id w v)
      (hdraw : warDraw rows player1Id player2Id v = (.ok (.drawn (cs ++ [a, b])), v'))
      (htie : a.rank = b.rank) :
      WarLevel rows player1Id player2Id w (v'.send [.gameWar warText])

/-- At every level the two hands are equally long. -/
theorem WarLevel.mirrors {t : Match} {rows : CardOrder} {w v : World}
    {g : War.Game CardsEntity} (h : Mirrors t w g) (hlength : g.hand1.length = g.hand2.length)
    (hv : WarLevel rows t.player1Id t.player2Id w v) :
    ∃ g', Mirrors t v g' ∧ g'.hand1.length = g'.hand2.length := by
  induction hv with
  | first => exact ⟨g, h, hlength⟩
  | @next v v' cs a b hv hdraw htie ih =>
      obtain ⟨g', hmirrors, hlength'⟩ := ih
      obtain ⟨taken1, taken2, h1, h2, hhands⟩ := hmirrors.hands
      unfold warDraw at hdraw
      rcases hhands.drawWarCards rows 3 (v.playedCard1.toList ++ v.playedCard2.toList) hlength' with
        ⟨-, cards, hdraw', hhands'⟩ | ⟨-, cards, hdraw', -⟩ <;> rw [hdraw] at hdraw'
      · obtain ⟨-, rfl⟩ := Prod.mk.inj hdraw'
        exact ⟨_, (hmirrors.drawn h1 h2 hhands').send _, by simp [hlength']⟩
      · cases hdraw'

/-- **It is never player 2 who runs out of cards.** -/
theorem WarLevel.not_player2Out {t : Match} {rows : CardOrder} {w v : World}
    {g : War.Game CardsEntity} (h : Mirrors t w g) (hlength : g.hand1.length = g.hand2.length)
    (hv : WarLevel rows t.player1Id t.player2Id w v) (cs : List CardsEntity) (v' : World) :
    warDraw rows t.player1Id t.player2Id v ≠ (.ok (.player2Out cs), v') := by
  obtain ⟨g', hmirrors, hlength'⟩ := hv.mirrors h hlength
  obtain ⟨taken1, taken2, -, -, hhands⟩ := hmirrors.hands
  intro hdraw
  unfold warDraw at hdraw
  rcases hhands.drawWarCards rows 3 (v.playedCard1.toList ++ v.playedCard2.toList) hlength' with
    ⟨-, cards, hdraw', -⟩ | ⟨-, cards, hdraw', -⟩ <;> cases hdraw.symm.trans hdraw'

/-! ## What the simulation says -/

/-- The player's rows are the cards of the hand, of which exactly the first `m`
are played. -/
def PlayedPrefix (playerId : ℤ) (hand : List CardsEntity) (m : ℕ) (cards : List CardsEntity) :
    Prop :=
  m ≤ hand.length ∧ (cards.filter fun c => c.players = some playerId).Perm
    ((hand.take m).map CardsEntity.setPlayed ++ hand.drop m)

theorem Holding.playedPrefix {playerId : ℤ} {taken rest cards hand : List CardsEntity}
    (h : Holding playerId taken rest cards) (hhand : hand = taken ++ rest) :
    PlayedPrefix playerId hand taken.length cards := by
  subst hhand
  refine ⟨by simp, ?_⟩
  rw [List.take_left, List.drop_left]
  exact h.rows

/-- The hands are played from the front: equally far while it is player 1's
turn, and one card further in player 1's hand while it is player 2's. -/
theorem Simulates.prefixes {t : Match} {w : World} {g : War.Game CardsEntity}
    (hequal : t.hand1.length = t.hand2.length) (h : Simulates t w g) :
    (w.player1Turn = true ∧ w.player2Turn = false ∧ ∃ m,
      PlayedPrefix t.player1Id t.hand1 m w.cards ∧ PlayedPrefix t.player2Id t.hand2 m w.cards) ∨
    (w.player1Turn = false ∧ w.player2Turn = true ∧ ∃ m,
      PlayedPrefix t.player1Id t.hand1 (m + 1) w.cards ∧
        PlayedPrefix t.player2Id t.hand2 m w.cards) := by
  obtain ⟨taken1, taken2, h1, h2, hhands⟩ := h.hands
  have hprefix1 := hhands.hand1.playedPrefix h1
  have hprefix2 := hhands.hand2.playedPrefix h2
  have hbalanced := h.balanced
  rw [War.Game.Balanced] at hbalanced
  rw [h1, h2, List.length_append, List.length_append] at hequal
  cases htable : g.table with
  | none =>
      have hm : taken1.length = taken2.length := by
        rw [htable] at hbalanced
        simp at hbalanced
        omega
      refine Or.inl ⟨by rw [h.player1Turn, htable]; rfl, by rw [h.player2Turn, htable]; rfl,
        taken2.length, ?_, hprefix2⟩
      rw [← hm]
      exact hprefix1
  | some a =>
      have hm : taken1.length = taken2.length + 1 := by
        rw [htable] at hbalanced
        simp at hbalanced
        omega
      refine Or.inr ⟨by rw [h.player1Turn, htable]; rfl, by rw [h.player2Turn, htable]; rfl,
        taken2.length, ?_, hprefix2⟩
      rw [← hm]
      exact hprefix1

/-- With usernames that differ from each other and from the text of a tie, the
cards of a war that runs out of cards go to the larger pile. -/
theorem recipient_eq_largerPile {username1 username2 : String} (hdiffer : username1 ≠ username2)
    (h1 : username1 ≠ tieText) (h2 : username2 ≠ tieText) :
    recipient username1 username2 = War.largerPile := by
  funext n1 n2
  unfold recipient winnerText War.largerPile
  rcases lt_trichotomy n1 n2 with hlt | heq | hgt
  · rw [if_neg (not_lt.2 hlt.le), if_pos hlt, if_neg hdiffer.symm, if_pos rfl,
      if_neg (not_lt.2 hlt.le), if_pos hlt]
  · rw [if_neg (not_lt.2 heq.le), if_neg (not_lt.2 heq.ge), if_neg h1.symm, if_neg h2.symm,
      if_neg (not_lt.2 heq.le), if_neg (not_lt.2 heq.ge)]
  · rw [if_pos hgt, if_pos rfl, if_pos hgt]

/-- **The service plays the game of War on lists.**  From a game that was just
dealt, and for any sequence of its requests, the server stands for the state the
list game reaches with the same moves.  So the hands are played from the front,
in step; no level of a war finds player 2 out of cards after player 1 drew; and a
card of player 2 starts the battle of the list game over the next cards, whose
cards go to the pile of the side that takes it: the one with the higher card of
the deciding pair, or, when the cards run out, the one the announced text names,
which with proper usernames is the owner of the larger pile. -/
theorem server_simulates_listGame (t : Match) (w₀ : World) (hdealt : Dealt t w₀)
    (calls : List Call) (hcalls : ∀ call ∈ calls, t.Request call) :
    let w := server.run w₀ calls
    let g := t.listGame.run (.deal t.hand1 t.hand2) (calls.map moveOf)
    Simulates t w g ∧
    ((w.player1Turn = true ∧ w.player2Turn = false ∧ ∃ m,
        PlayedPrefix t.player1Id t.hand1 m w.cards ∧ PlayedPrefix t.player2Id t.hand2 m w.cards) ∨
      (w.player1Turn = false ∧ w.player2Turn = true ∧ ∃ m,
        PlayedPrefix t.player1Id t.hand1 (m + 1) w.cards ∧
          PlayedPrefix t.player2Id t.hand2 m w.cards)) ∧
    (∀ rows card hand, w.player2Turn = true →
      playFirst (CardsRepository.cardsOf rows t.player2Id w.cards) = some (card, hand) →
      ∀ v, WarLevel rows t.player1Id t.player2Id
          ((w.quiet.putDown2 card).send [.gameWar warText]) v →
        ∀ cs v', warDraw rows t.player1Id t.player2Id v ≠ (.ok (.player2Out cs), v')) ∧
    (∀ call a b l2, t.Request call → moveOf call = .play2 → g.table = some a → g.hand2 = b :: l2 →
      let r := War.battle CardsEntity.rank a b g.hand1 l2
      let taker := r.winner.or (t.short w.player1CapturedCards.length w.player2CapturedCards.length)
      let w' := server.next w call
      w'.player1CapturedCards = w.player1CapturedCards ++
          (if taker = some .player1 then (a :: b :: r.drawn).map CardsEntity.setPlayed else []) ∧
        w'.player2CapturedCards = w.player2CapturedCards ++
          (if taker = some .player2 then (a :: b :: r.drawn).map CardsEntity.setPlayed else [])) ∧
    (t.player1.username ≠ t.player2.username → t.player1.username ≠ tieText →
      t.player2.username ≠ tieText → t.short = War.largerPile) := by
  intro w g
  have hsim : Simulates t w g := simulates_run hdealt hcalls
  refine ⟨hsim, hsim.prefixes hdealt.equal, ?_, ?_, recipient_eq_largerPile⟩
  · intro rows card hand hturn hplay v hv cs v'
    rw [hsim.player2Turn, Option.isSome_iff_exists] at hturn
    obtain ⟨a, htable⟩ := hturn
    obtain ⟨hnil, hcons⟩ := hsim.playFirst2 rows
    cases hhand2 : g.hand2 with
    | nil =>
        rw [hnil hhand2] at hplay
        cases hplay
    | cons b l2 =>
        obtain ⟨hand', hplay', -⟩ := hcons b l2 hhand2
        cases hplay.symm.trans hplay'
        exact hv.not_player2Out ((hsim.putDown2 hhand2).send _) (hsim.balanced.hands htable hhand2)
          cs v'
  · intro call a b l2 hcall hmove htable hhand2
    have hnext := (hsim.step hcall).1
    rw [hmove] at hnext
    have hstep : t.listGame.next g .play2 =
        g.settle t.short a b (War.battle CardsEntity.rank a b g.hand1 l2) := by
      show g.step CardsEntity.rank t.short .play2 = _
      simp only [War.Game.step, htable, hhand2]
    rw [hstep] at hnext
    have hpile1 := hnext.pile1
    have hpile2 := hnext.pile2
    rw [War.Game.settle_pile1, List.map_append, ← hsim.pile1, apply_ite (List.map _)] at hpile1
    rw [War.Game.settle_pile2, List.map_append, ← hsim.pile2, apply_ite (List.map _)] at hpile2
    have hsizes : g.taker t.short (War.battle CardsEntity.rank a b g.hand1 l2) =
        (War.battle CardsEntity.rank a b g.hand1 l2).winner.or
          (t.short w.player1CapturedCards.length w.player2CapturedCards.length) := by
      rw [War.Game.taker, hsim.pile1, hsim.pile2, List.length_map, List.length_map]
    rw [hsizes] at hpile1 hpile2
    exact ⟨hpile1, hpile2⟩

/-! ## Games from ranks -/

/-- A hand with the given ranks, from position `i` on; the keys count from
`first`. -/
def handOf (playerId first : ℤ) : ℕ → List ℤ → List CardsEntity
  | _, [] => []
  | i, rank :: ranks =>
      ⟨first + i, "Card", "Hearts", rank, false, i, some playerId⟩ ::
        handOf playerId first (i + 1) ranks

/-- The game of two players whose hands have the given ranks. -/
def Match.ofRanks (ranks1 ranks2 : List ℤ) : Match where
  player1Id := 1
  player2Id := 2
  gameId := 1
  player1 := ⟨1, "player1", some "session1"⟩
  player2 := ⟨2, "player2", some "session2"⟩
  hand1 := handOf 1 1 0 ranks1
  hand2 := handOf 2 (1 + ranks1.length) 0 ranks2

/-- A database that holds the game and nothing else, and a fresh service. -/
def Match.world (t : Match) : World where
  players := [t.player1, t.player2]
  cards := t.hand1 ++ t.hand2
  games := [⟨t.gameId, some t.player1Id, some t.player2Id, none, .newGame⟩]
  nextPlayerId := t.player2Id + 1
  nextGameId := t.gameId + 1
  player1Turn := true
  player2Turn := false
  playedCard1 := none
  playedCard2 := none
  player1CapturedCards := []
  player2CapturedCards := []
  sent := []

/-- A card of player 1, and a card of player 2. -/
def Match.turn (t : Match) : List Call :=
  [⟨.playCardPlayer1 t.player1Id, .same, .same⟩,
    ⟨.playCardPlayer2 ⟨some t.player1Id, some t.player2Id, some t.gameId⟩, .same, .same⟩]

/-- The cards of `n` turns. -/
def Match.turns (t : Match) (n : ℕ) : List Call := (List.replicate n t.turn).flatten

theorem Match.request_of_mem_turns {t : Match} {n : ℕ} {call : Call} (h : call ∈ t.turns n) :
    t.Request call := by
  obtain ⟨l, hl, hcall⟩ := List.mem_flatten.1 h
  rw [List.eq_of_mem_replicate hl, Match.turn] at hcall
  rcases List.mem_cons.1 hcall with rfl | hcall
  · exact Or.inl rfl
  · rw [List.mem_singleton] at hcall
    subst hcall
    exact Or.inr rfl

section HandOf

variable (playerId first : ℤ)

@[simp] theorem length_handOf (i : ℕ) (ranks : List ℤ) :
    (handOf playerId first i ranks).length = ranks.length := by
  induction ranks generalizing i with
  | nil => rfl
  | cons rank ranks ih => simp [handOf, ih]

theorem dealOrder_handOf (i : ℕ) (ranks : List ℤ) :
    (handOf playerId first i ranks).map CardsEntity.dealOrder =
      (List.range' i ranks.length).map Nat.cast := by
  induction ranks generalizing i with
  | nil => rfl
  | cons rank ranks ih => simp [handOf, ih, List.range'_succ]

theorem cardId_handOf (i : ℕ) (ranks : List ℤ) :
    (handOf playerId first i ranks).map CardsEntity.cardId =
      (List.range' i ranks.length).map fun j : ℕ => first + (j : ℤ) := by
  induction ranks generalizing i with
  | nil => rfl
  | cons rank ranks ih => simp [handOf, ih, List.range'_succ]

theorem of_mem_handOf {i : ℕ} {ranks : List ℤ} {c : CardsEntity}
    (hc : c ∈ handOf playerId first i ranks) : c.players = some playerId ∧ c.isPlayed = false := by
  induction ranks generalizing i with
  | nil => exact absurd hc List.not_mem_nil
  | cons rank ranks ih =>
      rcases List.mem_cons.1 hc with rfl | hrest
      · exact ⟨rfl, rfl⟩
      · exact ih hrest

end HandOf

/-- Any ranks can be dealt. -/
theorem dealt_ofRanks {ranks1 ranks2 : List ℤ} (h : ranks1.length = ranks2.length) :
    Dealt (.ofRanks ranks1 ranks2) (Match.ofRanks ranks1 ranks2).world where
  keys := by
    show ((handOf 1 1 0 ranks1 ++ handOf 2 (1 + ranks1.length) 0 ranks2).map _).Nodup
    rw [List.map_append, cardId_handOf, cardId_handOf]
    have hinj : ∀ first : ℤ, Function.Injective fun j : ℕ => first + (j : ℤ) := by
      intro first i j hij
      simpa using hij
    refine List.nodup_append.2
      ⟨(List.nodup_range' ..).map (hinj _), (List.nodup_range' ..).map (hinj _), ?_⟩
    intro a ha b hb hab
    obtain ⟨i, hi, rfl⟩ := List.mem_map.1 ha
    obtain ⟨j, hj, rfl⟩ := List.mem_map.1 hb
    rw [List.mem_range'_1] at hi
    omega
  differ := by simp [Match.ofRanks]
  rows1 := by
    show ((handOf 1 1 0 ranks1 ++ handOf 2 (1 + ranks1.length) 0 ranks2).filter _).Perm _
    rw [List.filter_append, List.filter_eq_self.2, List.filter_eq_nil_iff.2, List.append_nil]
    · exact List.Perm.refl _
    · intro c hc
      simp [(of_mem_handOf _ _ hc).1, Match.ofRanks]
    · intro c hc
      simp [(of_mem_handOf _ _ hc).1, Match.ofRanks]
  rows2 := by
    show ((handOf 1 1 0 ranks1 ++ handOf 2 (1 + ranks1.length) 0 ranks2).filter _).Perm _
    rw [List.filter_append, List.filter_eq_nil_iff.2, List.filter_eq_self.2, List.nil_append]
    · exact List.Perm.refl _
    · intro c hc
      simp [(of_mem_handOf _ _ hc).1, Match.ofRanks]
    · intro c hc
      simp [(of_mem_handOf _ _ hc).1, Match.ofRanks]
  order1 := by simp [Match.ofRanks, dealOrder_handOf, List.range_eq_range']
  order2 := by simp [Match.ofRanks, dealOrder_handOf, List.range_eq_range']
  unplayed := by
    intro c hc
    rcases List.mem_append.1 hc with h1 | h2
    · exact (of_mem_handOf _ _ h1).2
    · exact (of_mem_handOf _ _ h2).2
  equal := by simp [Match.ofRanks, h]
  stored := ⟨⟨_, rfl⟩, rfl, rfl⟩
  pile1 := rfl
  pile2 := rfl
  player1Turn := rfl
  player2Turn := rfl

/-- A war that is won and a pair after it, with a request of each player out of turn. -/
theorem server_simulates_listGame_wonWar :
    let t := Match.ofRanks [5, 2, 3, 9, 6] [5, 2, 3, 4, 8]
    let calls := t.turn.reverse ++ t.turns 2
    Simulates t (server.run t.world calls)
        (t.listGame.run (.deal t.hand1 t.hand2) (calls.map moveOf)) ∧
      (server.run t.world calls).player1CapturedCards.length = 8 ∧
      (server.run t.world calls).player2CapturedCards.length = 2 := by
  intro t calls
  have hcalls : ∀ call ∈ calls, t.Request call := by
    intro call hcall
    rcases List.mem_append.1 hcall with hfirst | hrest
    · refine Match.request_of_mem_turns (n := 1) ?_
      simpa [Match.turns] using hfirst
    · exact Match.request_of_mem_turns hrest
  exact ⟨(server_simulates_listGame t t.world (dealt_ofRanks rfl) calls hcalls).1,
    by decide +kernel, by decide +kernel⟩

end WarCardGame
