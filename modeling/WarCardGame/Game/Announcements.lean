import WarCardGame.Game.Simulation
import WarCardGame.Lib.WarEndings

/-!
# Winners that are announced

The service looks for the end of a game in two places: a war that finds a hand
empty announces a winner, and so does a request with which player 2 put down the
last card.  The list game says which of them fire.

* `announced_eq` — the texts a run announces are those of the list game's
  announcements.
* `announced_once_iff_lastRound` — a finished game announces its winner **exactly
  once** if and only if its last round is decided on the last pair, or is a war
  that runs out of cards and had a card to draw.
* `announcements_right_and_final` — an announcement is never premature and names
  the owner of the larger pile, so that all announcements of a game agree.
-/

namespace WarCardGame

open Lib

/-! ## Texts of a run -/

/-- The texts announced as winners in a run. -/
def announced (w : World) (calls : List Call) : List String :=
  (server.outputs w calls).flatMap fun outcome => winnerTexts outcome.sent

/-- No card of the two hands is left. -/
def Match.AllPlayed (t : Match) (w : World) : Prop :=
  ∀ c ∈ w.cards, t.holds c → c.isPlayed = true

instance (t : Match) (w : World) : Decidable (t.AllPlayed w) :=
  inferInstanceAs (Decidable (∀ c ∈ w.cards, _ → _))

/-- The texts a run announces are those of the list game's announcements. -/
theorem announced_eq {t : Match} {w₀ : World} (hdealt : Dealt t w₀) {calls : List Call}
    (hcalls : ∀ call ∈ calls, t.Request call) :
    announced w₀ calls = (t.listGame.outputs (.deal t.hand1 t.hand2)
      (calls.map moveOf)).flatten.map (Mirrors.text t) := by
  have houtputs := Machine.outputs_simulate (M := server) (N := t.listGame) (R := Simulates t)
    (φ := fun outcome => winnerTexts outcome.sent) (ψ := List.map (Mirrors.text t))
    (fun _ _ _ hcall h => h.step hcall) hdealt.simulates hcalls
  rw [announced, List.flatMap_def, houtputs, List.map_flatten]

/-- A hand whose rows are all flagged is used up. -/
theorem Holding.all_played_iff {playerId : ℤ} {taken rest cards : List CardsEntity}
    (h : Holding playerId taken rest cards) :
    (∀ c ∈ cards, c.players = some playerId → c.isPlayed = true) ↔ rest = [] := by
  constructor
  · intro hall
    by_contra hne
    obtain ⟨c, hc⟩ := List.exists_mem_of_ne_nil _ hne
    obtain ⟨hrow, howner⟩ := h.mem_cards hc
    have hplayed := hall c hrow howner
    rw [h.unplayed c (List.mem_append_right _ hc)] at hplayed
    cases hplayed
  · rintro rfl c hc howner
    have hmem := h.rows.mem_iff.1 (List.mem_filter.2 ⟨hc, by simpa using howner⟩)
    rw [List.append_nil] at hmem
    obtain ⟨d, -, rfl⟩ := List.mem_map.1 hmem
    rfl

theorem Simulates.allPlayed_iff {t : Match} {w : World} {g : War.Game CardsEntity}
    (h : Simulates t w g) : t.AllPlayed w ↔ g.Over := by
  obtain ⟨taken1, taken2, -, -, hhands⟩ := h.hands
  have hhand1 := hhands.hand1.all_played_iff
  have hhand2 := hhands.hand2.all_played_iff
  constructor
  · exact fun hall => h.balanced.over (hhand2.1 fun c hc howner => hall c hc (Or.inr howner))
  · rintro ⟨hnil1, hnil2, -⟩ c hc (howner | howner)
    · exact hhand1.2 hnil1 c hc howner
    · exact hhand2.2 hnil2 c hc howner

/-! ## Exactly one announcement -/

/-- **Which finished games announce their winner exactly once**: those whose last
round is decided on the last pair of the hands, or is a war that runs out of cards
after a pair that was not the last. -/
theorem announced_once_iff_lastRound (t : Match) (w₀ : World) (hdealt : Dealt t w₀)
    (calls : List Call) (hcalls : ∀ call ∈ calls, t.Request call)
    (hplayed : t.AllPlayed (server.run w₀ calls)) :
    (announced w₀ calls).length = 1 ↔
      ∃ a b l1 l2, War.LastRound CardsEntity.rank t.hand1 t.hand2 a b l1 l2 ∧
        (l2 = [] ↔ (War.battle CardsEntity.rank a b l1 l2).winner ≠ none) := by
  obtain ⟨-, hover, -⟩ := (simulates_run hdealt hcalls).allPlayed_iff.1 hplayed
  rw [announced_eq hdealt hcalls, List.length_map]
  exact War.Game.announced_once_iff CardsEntity.rank t.short hdealt.equal _ hover

/-- A pair that is taken, and a tie behind which there is one more pair: the war runs out
of cards. -/
theorem announced_once_shortWar :
    let t := Match.ofRanks [7, 5, 2] [4, 5, 3]
    (announced t.world (t.turns 2)).length = 1 := by
  intro t
  refine (announced_once_iff_lastRound t t.world (dealt_ofRanks rfl) (t.turns 2)
    (fun _ => Match.request_of_mem_turns) (by decide +kernel)).2 ?_
  exact ⟨_, _, _, _, .next (by decide) (.last rfl), by decide⟩

/-- A game that ends with a tie on the last pair. -/
def lastPairTies : Match := .ofRanks [5] [5]

/-- A game that ends with a war that is won with the last cards. -/
def lastCardsWin : Match := .ofRanks [5, 2, 3, 9] [5, 2, 3, 4]

/-- **A tie on the last pair is announced twice, and a war won with the last cards
is not announced at all.** -/
theorem announced_twice_or_never :
    (Dealt lastPairTies lastPairTies.world ∧
      (∀ call ∈ lastPairTies.turns 1, lastPairTies.Request call) ∧
      lastPairTies.AllPlayed (server.run lastPairTies.world (lastPairTies.turns 1)) ∧
      announced lastPairTies.world (lastPairTies.turns 1) = [tieText, tieText]) ∧
    (Dealt lastCardsWin lastCardsWin.world ∧
      (∀ call ∈ lastCardsWin.turns 1, lastCardsWin.Request call) ∧
      lastCardsWin.AllPlayed (server.run lastCardsWin.world (lastCardsWin.turns 1)) ∧
      announced lastCardsWin.world (lastCardsWin.turns 1) = []) :=
  ⟨⟨dealt_ofRanks rfl, fun _ => Match.request_of_mem_turns, by decide +kernel⟩,
    ⟨dealt_ofRanks rfl, fun _ => Match.request_of_mem_turns, by decide +kernel⟩⟩

/-! ## What is announced -/

/-- The text depends on the order of the piles only. -/
theorem text_of_order (t : Match) {sizes : ℕ × ℕ} {n1 n2 : ℕ}
    (h : compare sizes.1 sizes.2 = compare n1 n2) :
    (n2 < n1 → Mirrors.text t sizes = t.player1.username) ∧
      (n1 < n2 → Mirrors.text t sizes = t.player2.username) ∧
      (n1 = n2 → Mirrors.text t sizes = tieText) := by
  unfold Mirrors.text winnerText
  refine ⟨fun hgt => ?_, fun hlt => ?_, fun heq => ?_⟩
  · rw [compare_gt_iff_gt.2 hgt, compare_gt_iff_gt] at h
    rw [if_pos h]
  · rw [compare_lt_iff_lt.2 hlt, compare_lt_iff_lt] at h
    rw [if_neg (not_lt.2 h.le), if_pos h]
  · rw [compare_eq_iff_eq.2 heq, compare_eq_iff_eq] at h
    rw [if_neg (not_lt.2 h.le), if_neg (not_lt.2 h.ge)]

/-- **Every announcement is right and final.**  With usernames that differ from
each other and from the text of a tie, a winner is announced only by a request of
player 2 after which no card is left, with the name of the owner of the larger
pile at the end of the request; and all announcements of a run agree. -/
theorem announcements_right_and_final (t : Match) (w₀ : World) (hdealt : Dealt t w₀)
    (hdiffer : t.player1.username ≠ t.player2.username) (h1 : t.player1.username ≠ tieText)
    (h2 : t.player2.username ≠ tieText) (calls : List Call)
    (hcalls : ∀ call ∈ calls, t.Request call) :
    (∀ pre call, pre ++ [call] <+: calls →
      ∀ text ∈ winnerTexts (server.out (server.run w₀ pre) call).sent,
        let w := server.run w₀ (pre ++ [call])
        call.request = .playCardPlayer2 ⟨some t.player1Id, some t.player2Id, some t.gameId⟩ ∧
        t.AllPlayed w ∧
        (w.player2CapturedCards.length < w.player1CapturedCards.length →
          text = t.player1.username) ∧
        (w.player1CapturedCards.length < w.player2CapturedCards.length →
          text = t.player2.username) ∧
        (w.player1CapturedCards.length = w.player2CapturedCards.length → text = tieText)) ∧
    ∀ text ∈ announced w₀ calls, ∀ text' ∈ announced w₀ calls, text = text' := by
  have hshort : t.short = War.largerPile := recipient_eq_largerPile hdiffer h1 h2
  constructor
  · intro pre call hpre text htext w
    have hcall : t.Request call := hcalls call (hpre.subset (by simp))
    have hsim : Simulates t (server.run w₀ pre) (t.gameAfter pre) :=
      simulates_run hdealt fun c hc => hcalls c (hpre.subset (List.mem_append_left _ hc))
    obtain ⟨hnext, htexts⟩ := hsim.step hcall
    rw [htexts] at htext
    obtain ⟨sizes, hsizes, rfl⟩ := List.mem_map.1 htext
    obtain ⟨hmove, hover⟩ :=
      hsim.balanced.announces CardsEntity.rank t.short (moveOf call) (List.ne_nil_of_mem hsizes)
    have hannounced : sizes ∈
        (t.gameAfter pre).announces CardsEntity.rank War.largerPile (moveOf call) := by
      rw [← hshort]
      exact hsizes
    have horder := War.Game.announces_order CardsEntity.rank (t.gameAfter pre) (moveOf call)
      hannounced
    have hw : w = server.next (server.run w₀ pre) call := Machine.run_append ..
    have hpiles : compare sizes.1 sizes.2 =
        compare w.player1CapturedCards.length w.player2CapturedCards.length := by
      rw [hw, hnext.pile1, hnext.pile2, List.length_map, List.length_map, horder, ← hshort]
      rfl
    refine ⟨?_, ?_, text_of_order t hpiles⟩
    · rcases hcall with hrequest | hrequest
      · rw [moveOf, hrequest] at hmove
        cases hmove
      · exact hrequest
    · rw [hw]
      exact hnext.allPlayed_iff.2 hover
  · -- both texts belong to the order of the piles at the end
    have hall : ∀ text ∈ announced w₀ calls, ∃ sizes, text = Mirrors.text t sizes ∧
        compare sizes.1 sizes.2 = compare (t.gameAfter calls).pile1.length
          (t.gameAfter calls).pile2.length := by
      intro text htext
      rw [announced_eq hdealt hcalls] at htext
      obtain ⟨sizes, hsizes, rfl⟩ := List.mem_map.1 htext
      refine ⟨sizes, rfl, ?_⟩
      unfold Match.gameAfter Match.listGame at *
      rw [hshort] at hsizes ⊢
      exact War.Game.announced_order CardsEntity.rank (War.Game.balanced_deal hdealt.equal) _ hsizes
    intro text htext text' htext'
    obtain ⟨sizes, rfl, horder⟩ := hall text htext
    obtain ⟨sizes', rfl, horder'⟩ := hall text' htext'
    obtain ⟨hgt, hlt, heq⟩ := text_of_order t horder
    obtain ⟨hgt', hlt', heq'⟩ := text_of_order t horder'
    rcases lt_trichotomy (t.gameAfter calls).pile1.length (t.gameAfter calls).pile2.length with
      hless | hsame | hmore
    · rw [hlt hless, hlt' hless]
    · rw [heq hsame, heq' hsame]
    · rw [hgt hmore, hgt' hmore]

theorem announcements_right_and_final_plainRound :
    let t := Match.ofRanks [7, 4] [5, 9]
    announced t.world (t.turns 2) = [tieText] ∧
      ∀ text ∈ announced t.world (t.turns 2), ∀ text' ∈ announced t.world (t.turns 2),
        text = text' := by
  intro t
  refine ⟨by decide +kernel, ?_⟩
  exact (announcements_right_and_final t t.world (dealt_ofRanks rfl) (by decide) (by decide)
    (by decide) (t.turns 2) fun _ => Match.request_of_mem_turns).2

end WarCardGame
