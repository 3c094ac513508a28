import WarCardGame.Game.Announcements
import WarCardGame.Lib.WarTurns

/-!
# How far a game has come

Browsers send plays whenever a button is clicked, in turn or not.  What a dealt game
has come to depends only on how many of the requests were made in turn.

* `same_turns_same_game` — **two runs with equally many turns** have come to the same
  point: piles, hands, flags, and the card on the table.
* `game_over_iff` — the last card has been put down exactly when two requests in turn
  were made for each round the game has, and there are no more rounds than cards in a
  hand.
-/

namespace WarCardGame

open Lib

/-- How many of the requests of a game are made in turn, player 1 first. -/
def turnsMade (calls : List Call) : ℕ := War.turnsTaken .play1 (calls.map moveOf)

/-- The list game after some requests. -/
theorem gameAfter_eq (t : Match) (hequal : t.hand1.length = t.hand2.length) (calls : List Call) :
    t.gameAfter calls =
      (War.Game.advance CardsEntity.rank t.short)^[turnsMade calls] (.deal t.hand1 t.hand2) :=
  War.Game.run_eq_iterate CardsEntity.rank t.short (War.Game.balanced_deal hequal) _

/-- **Only turns count.**  Two sequences of requests of a dealt game in which equally
many requests were made in turn lead to the same piles, the same hands as every query
returns them, the same turn, and the same card waiting on the table. -/
theorem same_turns_same_game (t : Match) (w₀ : World) (hdealt : Dealt t w₀)
    (calls calls' : List Call) (hcalls : ∀ call ∈ calls, t.Request call)
    (hcalls' : ∀ call ∈ calls', t.Request call) (hturns : turnsMade calls = turnsMade calls')
    (rows rows' : CardOrder) :
    let w := server.run w₀ calls
    let w' := server.run w₀ calls'
    w.player1CapturedCards = w'.player1CapturedCards ∧
      w.player2CapturedCards = w'.player2CapturedCards ∧
      CardsRepository.cardsOf rows t.player1Id w.cards =
        CardsRepository.cardsOf rows' t.player1Id w'.cards ∧
      CardsRepository.cardsOf rows t.player2Id w.cards =
        CardsRepository.cardsOf rows' t.player2Id w'.cards ∧
      w.player1Turn = w'.player1Turn ∧ w.player2Turn = w'.player2Turn ∧
      (w.player2Turn = true → w.playedCard1 = w'.playedCard1) := by
  intro w w'
  have h : Simulates t w (t.gameAfter calls) := simulates_run hdealt hcalls
  have h' : Simulates t w' (t.gameAfter calls') := simulates_run hdealt hcalls'
  rw [gameAfter_eq t hdealt.equal] at h h'
  rw [← hturns] at h'
  generalize (War.Game.advance CardsEntity.rank t.short)^[turnsMade calls] _ = g at h h'
  obtain ⟨taken1, taken2, h1, h2, hhands⟩ := h.hands
  obtain ⟨taken1', taken2', h1', h2', hhands'⟩ := h'.hands
  obtain rfl : taken1 = taken1' := List.append_cancel_right (h1.symm.trans h1')
  obtain rfl : taken2 = taken2' := List.append_cancel_right (h2.symm.trans h2')
  refine ⟨h.pile1.trans h'.pile1.symm, h.pile2.trans h'.pile2.symm, ?_, ?_,
    h.player1Turn.trans h'.player1Turn.symm, h.player2Turn.trans h'.player2Turn.symm, ?_⟩
  · rw [hhands.hand1.cardsOf, hhands'.hand1.cardsOf]
  · rw [hhands.hand2.cardsOf, hhands'.hand2.cardsOf]
  · intro hturn
    rw [h.player2Turn] at hturn
    obtain ⟨a, ha⟩ := Option.isSome_iff_exists.1 hturn
    rw [h.playedCard1 a ha, h'.playedCard1 a ha]

/-- Clicks out of turn in between change nothing. -/
theorem same_turns_same_game_extraClicks :
    let t := Match.ofRanks [7, 3] [5, 4]
    let calls := t.turn.reverse ++ t.turns 1 ++ t.turn
    (server.run t.world calls).player1CapturedCards =
      (server.run t.world (t.turns 2)).player1CapturedCards := by
  intro t calls
  have hcalls : ∀ call ∈ calls, t.Request call := by
    intro call hcall
    refine Match.request_of_mem_turns (n := 1) ?_
    simpa [calls, Match.turns, or_comm] using hcall
  exact (same_turns_same_game t t.world (dealt_ofRanks rfl) calls (t.turns 2) hcalls
    (fun _ => Match.request_of_mem_turns) (by decide) .same .same).1

/-! ## The end -/

/-- After the end a request is refused without a trace. -/
theorem Simulates.next_over {t : Match} {w : World} {g : War.Game CardsEntity}
    (h : Simulates t w g) (hover : g.Over) {call : Call} (hcall : t.Request call) :
    server.next w call = w.quiet := by
  obtain ⟨hnil1, -, htable⟩ := hover
  rcases hcall with hrequest | hrequest
  · rcases playCard1_step hrequest h.stored.player1 with ⟨-, hnext, -⟩ | ⟨card, hand, -, hplay, -⟩
    · exact hnext
    · rw [(h.playFirst1 call.rows).1 hnil1] at hplay
      cases hplay
  · rcases playCard2_step hrequest h.stored h.playedCard1_ne_none with
      ⟨-, hnext, -⟩ | ⟨card, hand, w', hturn, -⟩
    · exact hnext
    · rw [h.player2Turn, htable] at hturn
      cases hturn

theorem Simulates.run_over {t : Match} {w : World} {g : War.Game CardsEntity}
    (h : Simulates t w g) (hover : g.Over) {later : List Call}
    (hlater : ∀ call ∈ later, t.Request call) : (server.run w later).quiet = w.quiet := by
  induction later generalizing w with
  | nil => rfl
  | cons call later ih =>
      have hnext := h.next_over hover (hlater call (List.mem_cons_self ..))
      rw [Machine.run_cons, hnext]
      exact ih h.quiet fun c hc => hlater c (List.mem_cons_of_mem _ hc)

/-- **When a game is over.**  For every dealt game and every sequence of its requests,
all cards have been put down exactly if two requests in turn were made for each round.
A round takes at least one card from each hand, so as many pairs of turns as a hand has
cards are always enough; and from then on no request of the game changes anything. -/
theorem game_over_iff (t : Match) (w₀ : World) (hdealt : Dealt t w₀) (calls : List Call)
    (hcalls : ∀ call ∈ calls, t.Request call) :
    (t.AllPlayed (server.run w₀ calls) ↔
      2 * War.rounds CardsEntity.rank t.hand1 t.hand2 ≤ turnsMade calls) ∧
    War.rounds CardsEntity.rank t.hand1 t.hand2 ≤ t.hand1.length ∧
    (t.AllPlayed (server.run w₀ calls) → ∀ later, (∀ call ∈ later, t.Request call) →
      (server.run w₀ (calls ++ later)).quiet = (server.run w₀ calls).quiet) := by
  have h : Simulates t (server.run w₀ calls) (t.gameAfter calls) := simulates_run hdealt hcalls
  refine ⟨?_, War.rounds_le CardsEntity.rank t.hand1 t.hand2, fun hplayed later hlater => ?_⟩
  · rw [h.allPlayed_iff, gameAfter_eq t hdealt.equal]
    exact War.Game.over_iff CardsEntity.rank t.short t.hand1.length (turnsMade calls)
      (War.Game.balanced_deal hdealt.equal) rfl le_rfl
  · rw [Machine.run_append]
    exact h.run_over (h.allPlayed_iff.1 hplayed) hlater

/-- A game of five cards each, with a war in it, is over after two rounds. -/
theorem game_over_afterWar :
    let t := Match.ofRanks [5, 2, 3, 9, 4] [5, 2, 3, 8, 6]
    t.AllPlayed (server.run t.world (t.turns 2)) ∧
      ¬ t.AllPlayed (server.run t.world (t.turns 1)) := by
  intro t
  have hrounds : War.rounds CardsEntity.rank t.hand1 t.hand2 = 2 := by decide +kernel
  refine ⟨?_, fun hplayed => ?_⟩
  · refine (game_over_iff t t.world (dealt_ofRanks rfl) (t.turns 2)
      fun _ => Match.request_of_mem_turns).1.2 ?_
    rw [hrounds]
    decide
  · have hle := (game_over_iff t t.world (dealt_ofRanks rfl) (t.turns 1)
      fun _ => Match.request_of_mem_turns).1.1 hplayed
    rw [hrounds] at hle
    revert hle
    decide

end WarCardGame
