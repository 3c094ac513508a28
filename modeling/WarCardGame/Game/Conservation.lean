import WarCardGame.Game.Simulation
import WarCardGame.Server.Piles

/-!
# Where the cards of a game go

Every card put down in a game should end up in a captured pile.  The list game
keeps account of the cards that do not: those of a war that ran out of cards
while the piles were equal are its `stalemate`, the others are `dropped`.

* `kept_iff` — between two rounds, all cards put down are in the piles or in the
  stalemate exactly when nothing was dropped.
* `cards_kept_iff` — **no card is lost** in a run exactly when no battle of it
  leaves behind a war that tied.
* `cards_lost_in_second_war` — a war that ties on its third pair loses its cards.
-/

namespace WarCardGame

open Lib

/-! ## Cards put down -/

/-- Every card put down is in a pile, or belongs to a war that ran out of cards
while the piles were equal. -/
def Kept (t : Match) (w : World) (g : War.Game CardsEntity) : Prop :=
  ∀ c ∈ w.cards, t.holds c → c.isPlayed = true →
    c.cardId ∈ cardIds w.captured ∨ c.cardId ∈ cardIds g.stalemate

instance (t : Match) (w : World) (g : War.Game CardsEntity) : Decidable (Kept t w g) :=
  inferInstanceAs (Decidable (∀ c ∈ w.cards, _ → _ → _))

/-- The pile of a side. -/
def World.pileOf (w : World) : War.Side → List CardsEntity
  | .player1 => w.player1CapturedCards
  | .player2 => w.player2CapturedCards

/-- If the round that player 2's next card starts is won, all its cards are in
the winner's pile afterwards. -/
def WinnerTakesAll (g : War.Game CardsEntity) (after : World) : Prop :=
  ∀ a b l2 side, g.table = some a → g.hand2 = b :: l2 →
    let r := War.battle CardsEntity.rank a b g.hand1 l2
    r.winner = some side → ∀ c ∈ a :: b :: (r.tied ++ r.drawn),
      c.cardId ∈ cardIds (after.pileOf side)

/-- The rows of a player that are flagged are the cards put down. -/
theorem Holding.flagged_iff {playerId : ℤ} {taken rest cards : List CardsEntity}
    (h : Holding playerId taken rest cards) {c : CardsEntity} :
    (c ∈ cards ∧ c.players = some playerId ∧ c.isPlayed = true) ↔
      ∃ d ∈ taken, c = d.setPlayed := by
  have hmem := h.rows.mem_iff (a := c)
  simp only [List.mem_filter, decide_eq_true_eq, List.mem_append, List.mem_map] at hmem
  constructor
  · rintro ⟨hc, howner, hplayed⟩
    rcases hmem.1 ⟨hc, howner⟩ with ⟨d, hd, hdc⟩ | hrest
    · exact ⟨d, hd, hdc.symm⟩
    · rw [h.unplayed c (List.mem_append_right _ hrest)] at hplayed
      cases hplayed
  · rintro ⟨d, hd, rfl⟩
    obtain ⟨hc, howner⟩ := hmem.2 (Or.inl ⟨d, hd, rfl⟩)
    exact ⟨hc, howner, rfl⟩

@[simp] theorem cardIds_setPlayed (cards : List CardsEntity) :
    cardIds (cards.map CardsEntity.setPlayed) = cardIds cards := by
  rw [cardIds, List.map_map]
  rfl

/-- The two hands share no card. -/
theorem Dealt.cardIds_nodup {t : Match} {w : World} (h : Dealt t w) :
    (cardIds (t.hand1 ++ t.hand2)).Nodup := by
  have hnodup : ∀ {playerId : ℤ} {hand : List CardsEntity},
      (w.cards.filter fun c => c.players = some playerId).Perm hand → (cardIds hand).Nodup :=
    fun hrows => (hrows.map _).nodup_iff.1 (h.keys.sublist (List.filter_sublist.map _))
  rw [cardIds, List.map_append]
  refine List.nodup_append.2 ⟨hnodup h.rows1, hnodup h.rows2, ?_⟩
  intro k hk1 l hk2 hkl
  obtain ⟨c, hc, rfl⟩ := List.mem_map.1 hk1
  obtain ⟨d, hd, rfl⟩ := List.mem_map.1 hk2
  have hrow1 := h.rows1.mem_iff.2 hc
  have hrow2 := h.rows2.mem_iff.2 hd
  rw [List.mem_filter, decide_eq_true_eq] at hrow1 hrow2
  have hcd : c = d := Rows.eq_of_key_eq CardsEntity.cardId h.keys hrow1.1 hrow2.1 hkl
  rw [hcd, hrow2.2] at hrow1
  exact h.differ (Option.some.inj hrow1.2).symm

/-! ## No card is lost -/

/-- Only equal piles leave a war that runs out of cards without a recipient. -/
theorem recipient_none {username1 username2 : String} {n1 n2 : ℕ}
    (h : recipient username1 username2 n1 n2 = none) : n1 = n2 := by
  unfold recipient winnerText at h
  rcases lt_trichotomy n1 n2 with hlt | heq | hgt
  · rw [if_neg (not_lt.2 hlt.le), if_pos hlt, if_pos rfl] at h
    split_ifs at h
  · exact heq
  · rw [if_pos hgt, if_pos rfl] at h
    cases h

/-- Between two rounds the cards put down are those of the piles and those that
nobody got. -/
theorem taken_perm {t : Match} {g : War.Game CardsEntity} {taken1 taken2 : List CardsEntity}
    (hcards : g.cards.Perm (t.hand1 ++ t.hand2)) (h1 : t.hand1 = taken1 ++ g.hand1)
    (h2 : t.hand2 = taken2 ++ g.hand2) (htable : g.table = none) :
    (taken1 ++ taken2).Perm (g.pile1 ++ g.pile2 ++ g.dropped ++ g.stalemate) := by
  refine List.perm_iff_count.2 fun c => ?_
  have hcount := hcards.count_eq c
  rw [h1, h2, War.Game.cards, htable] at hcount
  simp only [List.count_append, Option.toList_none, List.count_nil] at hcount ⊢
  omega

/-- Between two rounds, no card is lost exactly when none was dropped. -/
theorem kept_iff {t : Match} {w : World} {g : War.Game CardsEntity} (h : Simulates t w g)
    (hkeys : (cardIds (t.hand1 ++ t.hand2)).Nodup) (hcards : g.cards.Perm (t.hand1 ++ t.hand2))
    (htable : g.table = none) : Kept t w g ↔ g.dropped = [] := by
  obtain ⟨taken1, taken2, h1, h2, hhands⟩ := h.hands
  have htaken := taken_perm hcards h1 h2 htable
  have hcaptured : cardIds w.captured = cardIds (g.pile1 ++ g.pile2) := by
    rw [World.captured, h.pile1, h.pile2, ← List.map_append, cardIds_setPlayed]
  unfold Kept
  rw [hcaptured]
  constructor
  · intro hkept
    by_contra hne
    obtain ⟨d, hd⟩ := List.exists_mem_of_ne_nil _ hne
    -- a dropped card was put down, and is in one place only
    have hmem : d ∈ taken1 ++ taken2 := htaken.mem_iff.2 (by simp [hd])
    have hrow : d.setPlayed ∈ w.cards ∧ t.holds d.setPlayed ∧ d.setPlayed.isPlayed = true := by
      rcases List.mem_append.1 hmem with hd1 | hd2
      · obtain ⟨hc, howner, hplayed⟩ := hhands.hand1.flagged_iff.2 ⟨d, hd1, rfl⟩
        exact ⟨hc, Or.inl howner, hplayed⟩
      · obtain ⟨hc, howner, hplayed⟩ := hhands.hand2.flagged_iff.2 ⟨d, hd2, rfl⟩
        exact ⟨hc, Or.inr howner, hplayed⟩
    have hnodup : (cardIds (g.pile1 ++ g.pile2 ++ g.dropped ++ g.stalemate)).Nodup := by
      refine ((hcards.map CardsEntity.cardId).nodup_iff.2 hkeys).sublist (List.Sublist.map _ ?_)
      rw [War.Game.cards, htable]
      simp
    rw [cardIds, List.map_append, List.map_append] at hnodup
    obtain ⟨hfirst, -, hlast⟩ := List.nodup_append.1 hnodup
    obtain ⟨-, -, hmiddle⟩ := List.nodup_append.1 hfirst
    have hid : d.cardId ∈ cardIds g.dropped := List.mem_map_of_mem hd
    rcases hkept d.setPlayed hrow.1 hrow.2.1 hrow.2.2 with hpile | hstalemate
    · exact hmiddle _ hpile _ hid rfl
    · exact hlast _ (List.mem_append_right _ hid) _ hstalemate rfl
  · intro hnil c hc howner hplayed
    have hput : ∃ d ∈ taken1 ++ taken2, c = d.setPlayed := by
      rcases howner with howner | howner
      · obtain ⟨d, hd, hcd⟩ := hhands.hand1.flagged_iff.1 ⟨hc, howner, hplayed⟩
        exact ⟨d, List.mem_append_left _ hd, hcd⟩
      · obtain ⟨d, hd, hcd⟩ := hhands.hand2.flagged_iff.1 ⟨hc, howner, hplayed⟩
        exact ⟨d, List.mem_append_right _ hd, hcd⟩
    obtain ⟨d, hd, rfl⟩ := hput
    have hplace := htaken.mem_iff.1 hd
    rw [hnil, List.append_nil, List.mem_append] at hplace
    exact hplace.imp (fun hpile => List.mem_map.2 ⟨d, hpile, rfl⟩)
      fun hstalemate => List.mem_map.2 ⟨d, hstalemate, rfl⟩

/-- A round that loses no cards gives them all to its winner. -/
theorem Simulates.winnerTakesAll {t : Match} {w : World} {g : War.Game CardsEntity}
    (h : Simulates t w g) {call : Call} (hcall : t.Request call) (hmove : moveOf call = .play2)
    (hnot : ¬ g.loses CardsEntity.rank .play2) : WinnerTakesAll g (server.next w call) := by
  intro a b l2 side htable hhand2 r hwinner c hc
  have htied : r.tied = [] := by
    by_contra hne
    refine hnot ⟨a, b, l2, htable, hhand2, hne, fun heven => ?_⟩
    rw [heven.1] at hwinner
    cases hwinner
  rw [htied, List.nil_append] at hc
  have hnext := (h.step hcall).1
  have hstep : t.listGame.next g .play2 = g.settle t.short a b r := by
    show g.step CardsEntity.rank t.short .play2 = _
    simp only [War.Game.step, htable, hhand2, r]
  rw [hmove, hstep] at hnext
  have htaker : g.taker t.short r = some side := by rw [War.Game.taker, hwinner, Option.some_or]
  cases side with
  | player1 =>
      show c.cardId ∈ cardIds (server.next w call).player1CapturedCards
      rw [hnext.pile1, cardIds_setPlayed, War.Game.settle_pile1, if_pos htaker]
      exact List.mem_map_of_mem (List.mem_append_right _ hc)
  | player2 =>
      show c.cardId ∈ cardIds (server.next w call).player2CapturedCards
      rw [hnext.pile2, cardIds_setPlayed, War.Game.settle_pile2, if_pos htaker]
      exact List.mem_map_of_mem (List.mem_append_right _ hc)

/-- **Which games lose cards.**  Along a run of a game, in every state in which it
is player 1's turn the cards put down are in the captured piles (or in a final war
that ran out of cards while the piles were equal), and every round that is won
gives all its cards to its winner, exactly when no battle of the run leaves behind
a war that tied. -/
theorem cards_kept_iff (t : Match) (w₀ : World) (hdealt : Dealt t w₀) (calls : List Call)
    (hcalls : ∀ call ∈ calls, t.Request call) :
    ((∀ pre, pre <+: calls → (server.run w₀ pre).player1Turn = true →
        Kept t (server.run w₀ pre) (t.gameAfter pre)) ∧
      (∀ pre call, pre ++ [call] <+: calls → moveOf call = .play2 →
        WinnerTakesAll (t.gameAfter pre) (server.run w₀ (pre ++ [call])))) ↔
    ∀ x ∈ t.listGame.steps (.deal t.hand1 t.hand2) (calls.map moveOf),
      ¬ x.1.loses CardsEntity.rank x.2 := by
  have hsim : ∀ pre, pre <+: calls → Simulates t (server.run w₀ pre) (t.gameAfter pre) :=
    fun pre hpre => simulates_run hdealt fun call hcall => hcalls call (hpre.subset hcall)
  have hkept : (∀ pre, pre <+: calls → (server.run w₀ pre).player1Turn = true →
        Kept t (server.run w₀ pre) (t.gameAfter pre)) ↔
      ∀ x ∈ t.listGame.steps (.deal t.hand1 t.hand2) (calls.map moveOf),
        ¬ x.1.loses CardsEntity.rank x.2 := by
    have hdropped := War.Game.dropped_iff CardsEntity.rank t.short
      (fun _ _ hnone => recipient_none hnone) t.hand1 t.hand2 (calls.map moveOf)
    refine Iff.trans ?_ hdropped
    have hpre : ∀ pre, pre <+: calls → (((server.run w₀ pre).player1Turn = true →
        Kept t (server.run w₀ pre) (t.gameAfter pre)) ↔
        ((t.gameAfter pre).table = none → (t.gameAfter pre).dropped = [])) := by
      intro pre hpre
      rw [(hsim pre hpre).player1Turn, Option.isNone_iff_eq_none]
      exact imp_congr_right fun htable => kept_iff (hsim pre hpre) hdealt.cardIds_nodup
        (War.Game.cards_run CardsEntity.rank t.short hdealt.equal _) htable
    constructor
    · intro h moves hmoves
      obtain ⟨pre, hinit, rfl⟩ := List.prefix_map_iff.1 hmoves
      exact (hpre pre hinit).1 (h pre hinit)
    · intro h pre hinit
      exact (hpre pre hinit).2 (h _ (hinit.map moveOf))
  refine ⟨fun h => hkept.1 h.1, fun h => ⟨hkept.2 h, ?_⟩⟩
  intro pre call hpre hmove
  obtain ⟨post, hsplit⟩ := hpre
  have hmem : (t.gameAfter pre, War.Move.play2) ∈
      t.listGame.steps (.deal t.hand1 t.hand2) (calls.map moveOf) := by
    refine (Machine.mem_steps _).2 ⟨pre.map moveOf, post.map moveOf, ?_, rfl⟩
    rw [← hsplit, ← hmove]
    simp
  rw [Machine.run_append]
  exact (hsim pre ⟨call :: post, by simpa using hsplit⟩).winnerTakesAll
    (hcalls call (by rw [← hsplit]; simp)) hmove (h _ hmem)

/-- A game in which a war ties on its third pair and the next war is won. -/
def secondWar : Match := .ofRanks [5, 2, 3, 8, 2, 3, 9] [5, 4, 6, 8, 4, 6, 7]

theorem cards_kept_iff_secondWar :
    ((∀ pre, pre <+: secondWar.turns 1 → (server.run secondWar.world pre).player1Turn = true →
        Kept secondWar (server.run secondWar.world pre) (secondWar.gameAfter pre)) ∧
      (∀ pre call, pre ++ [call] <+: secondWar.turns 1 → moveOf call = .play2 →
        WinnerTakesAll (secondWar.gameAfter pre)
          (server.run secondWar.world (pre ++ [call])))) ↔
    ∀ x ∈ secondWar.listGame.steps (.deal secondWar.hand1 secondWar.hand2)
        ((secondWar.turns 1).map moveOf), ¬ x.1.loses CardsEntity.rank x.2 :=
  cards_kept_iff secondWar secondWar.world (dealt_ofRanks rfl) (secondWar.turns 1)
    fun _ => Match.request_of_mem_turns

/-- **A war that ties on its third pair loses its cards**: player 1 wins the
second war, all fourteen cards are put down, and the six of the first war are in
nobody's pile. -/
theorem cards_lost_in_second_war :
    Dealt secondWar secondWar.world ∧ (∀ call ∈ secondWar.turns 1, secondWar.Request call) ∧
    let w := server.run secondWar.world (secondWar.turns 1)
    w.player1Turn = true ∧ (∀ c ∈ w.cards, secondWar.holds c ∧ c.isPlayed = true) ∧
      w.player1CapturedCards.length = 8 ∧ w.player2CapturedCards = [] ∧
      (secondWar.gameAfter (secondWar.turns 1)).stalemate = [] ∧
      ¬ Kept secondWar w (secondWar.gameAfter (secondWar.turns 1)) :=
  ⟨dealt_ofRanks rfl, fun _ => Match.request_of_mem_turns, by decide +kernel⟩

end WarCardGame
