import WarCardGame.Server.Deals
import WarCardGame.Server.Piles
import WarCardGame.Server.Sessions

/-!
# Dealing for a new game

Nothing is reset when a game is created, joined or dealt: only a leave unplays
the cards, empties the piles and gives the turn to player 1.  So what two new
players find after their deal is what the last game left behind.

* `exclusive_run` — exactly one of the two turn flags is set, after any requests.
* `newGame_run` — what the four requests of a new game do: they store two
  players and a game and hand every card row to one of the two, flag and all.
* `new_deal_fresh_iff` — the new game starts fresh exactly when no card row was
  flagged before.
-/

namespace WarCardGame

open Lib

/-! ## The turn flags -/

/-- Exactly one of the two flags is set. -/
def World.exclusive (w : World) : Prop := w.player1Turn = !w.player2Turn

theorem exclusive_step {w w' : World} {call : Call} (h : w.exclusive) (hstep : Step w call w') :
    w'.exclusive := by
  cases hstep with
  | unchanged ms => exact h
  | create request name session => exact h
  | joinFull request gameId name session game => exact h
  | join request gameId name session game => exact h
  | deal session player hand => exact h
  | play1 playerId c => rfl
  | roundFailed player1Id player2Id gameId c e _ _ _ _ _ _ hround =>
      have hframe := RoundFrame.of_gameRound hround
      rw [World.exclusive, hframe.player1Turn, hframe.player2Turn]
      exact h
  | round player1Id player2Id gameId c v ms => rfl
  | leaveRefused gameId session game player ms =>
      obtain ⟨-, h1, h2, -⟩ := vacated_closeGame_frame call.rows call.shuffle player game w
      simp only [World.exclusive, World.send, h1, h2]
      exact h
  | leave gameId session game player ms => rfl

theorem exclusive_run (deck : Deck) (calls : List Call) :
    (server.run (World.initial deck) calls).exclusive := by
  have hstart : (World.initial deck).exclusive := rfl
  refine Machine.run_invariant (I := World.exclusive) (fun w call h => ?_) hstart calls
  have hquiet : w.quiet.exclusive := h
  exact exclusive_step hquiet (step_next w call)

/-! ## The requests of a new game -/

/-- Two players with their sessions, and the choices made outside the program
while their four requests are handled. -/
structure NewGame where
  username1 : String
  session1 : String
  username2 : String
  session2 : String
  createOrder : CardOrder
  joinOrder : CardOrder
  rows1 : CardOrder
  shuffle1 : CardOrder
  rows2 : CardOrder
  shuffle2 : CardOrder

/-- The first player creates a game, the second one joins it, and both are dealt
their cards. -/
def NewGame.calls (n : NewGame) (gameId : ℤ) : List Call :=
  [⟨.createGameAndPlayer ⟨some n.username1, some n.session1⟩, n.createOrder, n.createOrder⟩,
    ⟨.joinGame ⟨some gameId, some n.username2, some n.session2⟩, n.joinOrder, n.joinOrder⟩,
    ⟨.dealCardsPlayer1 (some n.session1), n.rows1, n.shuffle1⟩,
    ⟨.dealCardsPlayer2 (some n.session2), n.rows2, n.shuffle2⟩]

/-- Whatever the card rows hold, they are listed in this order of their keys. -/
def ListsIn (order : List ℤ) (w : World) (rows : CardOrder) : Prop :=
  ∀ cards, cardIds cards = cardIds w.cards → cardIds (rows.apply cards) = order

/-- The username as its column holds it. -/
def storedUsername (username : String) : String := (Varchar.store 50 username).getD ""

/-- The new game is one the server can set up in `w`: the schema takes both rows,
with the sessions as they are, the sessions are new and differ, and `findAll` lists the
cards in one fixed order for both deals. -/
structure NewGame.Valid (n : NewGame) (order : List ℤ) (w : World) : Prop where
  columns1 : PlayerRepository.columns (some n.username1) (some n.session1) =
    some (storedUsername n.username1, some n.session1)
  columns2 : PlayerRepository.columns (some n.username2) (some n.session2) =
    some (storedUsername n.username2, some n.session2)
  new1 : some n.session1 ∉ w.sessions
  new2 : some n.session2 ∉ w.sessions
  differ : n.session1 ≠ n.session2
  lists1 : ListsIn order w n.rows1
  lists2 : ListsIn order w n.rows2

/-- A session that one row has is found, wherever the row stands. -/
theorem sessionLookup_append {before after : List PlayersEntity} {player : PlayersEntity}
    (hbefore : player.sessionId ∉ before.map PlayersEntity.sessionId)
    (hafter : player.sessionId ∉ after.map PlayersEntity.sessionId) :
    sessionLookup (before ++ player :: after) player.sessionId = .ok (some player) := by
  have hnone : ∀ l : List PlayersEntity, player.sessionId ∉ l.map PlayersEntity.sessionId →
      l.filter (fun p => p.sessionId = player.sessionId) = [] := by
    intro l hl
    rw [List.filter_eq_nil_iff]
    intro p hp hsession
    exact hl (List.mem_map.2 ⟨p, hp, by simpa using hsession⟩)
  refine sessionLookup_singleton ?_
  rw [List.filter_append, hnone before hbefore, List.filter_cons_of_pos (by simp),
    hnone after hafter, List.nil_append]

/-- The game the first player creates. -/
def World.createdGame (w : World) : GameEntity :=
  ⟨w.nextGameId, some w.nextPlayerId, none, none, .newGame⟩

theorem rowOf_createdGame {w : World} (htables : Tables w) :
    GameRepository.rowOf (w.games ++ [w.createdGame]) w.nextGameId = some w.createdGame := by
  have hnone : w.games.find? (fun g => g.gameId = w.nextGameId) = none := by
    rw [List.find?_eq_none]
    intro g hg hkey
    have hlt := htables.gameSequence g hg
    simp only [decide_eq_true_eq] at hkey
    omega
  rw [GameRepository.rowOf, List.find?_append, hnone]
  simp [World.createdGame]

/-- The state after the game was created and joined. -/
def NewGame.seated (n : NewGame) (w : World) : World :=
  (((w.quiet.addPlayer (storedUsername n.username1) (some n.session1)).addGame
    w.nextPlayerId).quiet.addPlayer (storedUsername n.username2) (some n.session2)).seat
      w.createdGame (w.nextPlayerId + 1)

theorem newGame_seated {n : NewGame} {order : List ℤ} {w : World} (htables : Tables w)
    (h : n.Valid order w) :
    server.run w ((n.calls w.nextGameId).take 2) = n.seated w := by
  have hcreate : server.next w ⟨.createGameAndPlayer ⟨some n.username1, some n.session1⟩,
      n.createOrder, n.createOrder⟩ =
        (w.quiet.addPlayer (storedUsername n.username1) (some n.session1)).addGame
          w.nextPlayerId := by
    rw [next_createGameAndPlayer rfl]
    rcases createGameAndPlayer_cases ⟨some n.username1, some n.session1⟩ w.quiet with
      ⟨hno, -⟩ | ⟨name, session, hcolumns, hcreate⟩
    · cases h.columns1.symm.trans hno
    · cases h.columns1.symm.trans hcolumns
      rw [hcreate]
      rfl
  show server.next (server.next w _) _ = _
  rw [hcreate, next_joinGame rfl]
  have hgame := rowOf_createdGame htables
  rcases joinGame_cases ⟨some w.nextGameId, some n.username2, some n.session2⟩
      ((w.quiet.addPlayer (storedUsername n.username1) (some n.session1)).addGame
        w.nextPlayerId).quiet with
    ⟨hid, -⟩ | ⟨gameId, hid, hmissing, -⟩ |
    ⟨gameId, game, hid, hrow, ⟨hno, -⟩ | ⟨name, session, hcolumns, ⟨hfull, -⟩ | ⟨-, -, hjoin⟩⟩⟩
  · cases hid
  · cases hid
    cases hmissing.symm.trans hgame
  all_goals
    cases hid
    cases hrow.symm.trans hgame
  · cases h.columns2.symm.trans hno
  · exact absurd ⟨by simp [World.createdGame], rfl⟩ hfull
  · cases h.columns2.symm.trans hcolumns
    rw [hjoin]
    rfl

/-- The hand of the first player. -/
def NewGame.hand1 (n : NewGame) (w : World) : List CardsEntity :=
  n.shuffle1.apply ((n.rows1.apply w.cards).take ((n.rows1.apply w.cards).length / 2))

/-- The state after the first player was dealt a hand. -/
def NewGame.dealt1 (n : NewGame) (w : World) : World :=
  (n.seated w).quiet.dealtTo (some w.nextPlayerId) (n.hand1 w)

/-- The hand of the second player. -/
def NewGame.hand2 (n : NewGame) (w : World) : List CardsEntity :=
  n.shuffle2.apply ((n.rows2.apply (n.dealt1 w).cards).drop
    ((n.rows2.apply (n.dealt1 w).cards).length / 2))

/-- **What the four requests do.**  Two players and a game are stored, and two
hands are dealt. -/
theorem newGame_run {n : NewGame} {order : List ℤ} {w : World} (htables : Tables w)
    (h : n.Valid order w) :
    server.run w (n.calls w.nextGameId) =
      (n.dealt1 w).quiet.dealtTo (some (w.nextPlayerId + 1)) (n.hand2 w) := by
  have hsplit : n.calls w.nextGameId =
      (n.calls w.nextGameId).take 2 ++ (n.calls w.nextGameId).drop 2 :=
    (List.take_append_drop 2 _).symm
  rw [hsplit, Machine.run_append, newGame_seated htables h]
  have hplayers : (n.seated w).players =
      w.players ++ [⟨w.nextPlayerId, storedUsername n.username1, some n.session1⟩] ++
        [⟨w.nextPlayerId + 1, storedUsername n.username2, some n.session2⟩] := rfl
  have hlook1 : sessionLookup (n.seated w).players (some n.session1) =
      .ok (some ⟨w.nextPlayerId, storedUsername n.username1, some n.session1⟩) := by
    rw [hplayers, List.append_assoc]
    exact sessionLookup_append h.new1 (by simp [h.differ])
  have hlook2 : sessionLookup (n.dealt1 w).players (some n.session2) =
      .ok (some ⟨w.nextPlayerId + 1, storedUsername n.username2, some n.session2⟩) := by
    show sessionLookup (n.seated w).players (some n.session2) = _
    rw [hplayers]
    refine sessionLookup_append ?_ (by simp)
    rw [List.map_append, List.mem_append, not_or]
    exact ⟨h.new2, by simp [h.differ.symm]⟩
  have hdeal1 : server.next (n.seated w)
      ⟨.dealCardsPlayer1 (some n.session1), n.rows1, n.shuffle1⟩ = n.dealt1 w :=
    next_dealCards1 rfl hlook1
  have hdeal2 : server.next (n.dealt1 w)
      ⟨.dealCardsPlayer2 (some n.session2), n.rows2, n.shuffle2⟩ =
        (n.dealt1 w).quiet.dealtTo (some (w.nextPlayerId + 1)) (n.hand2 w) :=
    next_dealCards2 rfl hlook2
  show server.next (server.next (n.seated w) _) _ = _
  rw [hdeal1, hdeal2]

/-! ## The hands of the new game -/

section Hands

variable {n : NewGame} {order : List ℤ} {w : World}

theorem hand1_subset (n : NewGame) (w : World) : n.hand1 w ⊆ w.cards := by
  intro c hc
  rw [NewGame.hand1, Reordering.mem_apply] at hc
  exact n.rows1.mem_apply.1 (List.take_subset _ _ hc)

theorem hand2_subset (n : NewGame) (w : World) : n.hand2 w ⊆ (n.dealt1 w).cards := by
  intro c hc
  rw [NewGame.hand2, Reordering.mem_apply] at hc
  exact n.rows2.mem_apply.1 (List.drop_subset _ _ hc)

/-- No flag changes. -/
theorem sameFlags_newGame (n : NewGame) (w : World) :
    SameFlags w.cards ((n.dealt1 w).quiet.dealtTo (some (w.nextPlayerId + 1)) (n.hand2 w)).cards :=
  (SameFlags.deal (some w.nextPlayerId) (hand1_subset n w)).trans
    (SameFlags.deal (some (w.nextPlayerId + 1)) (hand2_subset n w))

/-- The two hands have all the keys: the first one the first half of the order,
the second one the second half. -/
theorem mem_hands (h : n.Valid order w) {k : ℤ} (hk : k ∈ cardIds w.cards) :
    k ∈ cardIds (n.hand1 w) ∨ k ∈ cardIds (n.hand2 w) := by
  have hids : cardIds (n.dealt1 w).cards = cardIds w.cards := Rows.map_key_saveAll _ _ _
  have h1 := h.lists1 w.cards rfl
  have h2 := h.lists2 (n.dealt1 w).cards hids
  have hhand1 : (cardIds (n.hand1 w)).Perm (order.take (order.length / 2)) := by
    rw [← h1, ← List.map_take, List.length_map]
    exact (n.shuffle1.perm _).map _
  have hhand2 : (cardIds (n.hand2 w)).Perm (order.drop (order.length / 2)) := by
    rw [← h2, ← List.map_drop, List.length_map]
    exact (n.shuffle2.perm _).map _
  have hmem : k ∈ order := by
    rw [← h1]
    exact ((n.rows1.perm w.cards).map _).mem_iff.2 hk
  rw [← List.take_append_drop (order.length / 2) order, List.mem_append] at hmem
  rcases hmem with hfirst | hsecond
  · exact Or.inl (hhand1.mem_iff.2 hfirst)
  · exact Or.inr (hhand2.mem_iff.2 hsecond)

/-- Every card row belongs to one of the two new players. -/
theorem owner_newGame (h : n.Valid order w) {c : CardsEntity}
    (hc : c ∈ ((n.dealt1 w).quiet.dealtTo (some (w.nextPlayerId + 1)) (n.hand2 w)).cards) :
    c.players = some w.nextPlayerId ∨ c.players = some (w.nextPlayerId + 1) := by
  rcases Rows.mem_of_mem_saveAll _ hc with hdealt2 | ⟨hc1, hnot2⟩
  · exact Or.inr (players_of_mem_dealt hdealt2)
  rcases Rows.mem_of_mem_saveAll _ hc1 with hdealt1 | ⟨hc0, hnot1⟩
  · exact Or.inl (players_of_mem_dealt hdealt1)
  rw [map_cardId_dealt] at hnot1 hnot2
  rcases mem_hands h (List.mem_map_of_mem hc0) with hin1 | hin2
  · exact absurd hin1 hnot1
  · exact absurd hin2 hnot2

end Hands

/-- Without a flag there is nothing in the piles, and it is player 1's turn. -/
theorem fresh_of_unplayed {w : World} (hpiles : Piles w) (hexclusive : w.exclusive)
    (hunplayed : ∀ c ∈ w.cards, c.isPlayed = false) :
    w.player1CapturedCards = [] ∧ w.player2CapturedCards = [] ∧ w.player1Turn = true ∧
      w.player2Turn = false := by
  have hnot : ∀ k, ¬ w.flagged k := by
    rintro k ⟨c, hc, -, hplayed⟩
    rw [hunplayed c hc] at hplayed
    cases hplayed
  have hempty : w.pot ++ cardIds w.captured = [] :=
    List.eq_nil_iff_forall_not_mem.2 fun k hk => hnot k (hpiles.onTable.played k hk)
  obtain ⟨hpot, hcaptured⟩ := List.append_eq_nil_iff.1 hempty
  have hturn2 : w.player2Turn = false := by
    by_contra hturn
    rw [Bool.not_eq_false] at hturn
    obtain ⟨c, hc⟩ := Option.ne_none_iff_exists'.1 (hpiles.playedCard1 hturn)
    rw [World.pot, if_pos hturn, hc] at hpot
    cases hpot
  obtain ⟨h1, h2⟩ := List.append_eq_nil_iff.1 (List.map_eq_nil_iff.1 hcaptured)
  refine ⟨h1, h2, ?_, hturn2⟩
  rw [hexclusive, hturn2]
  rfl

/-- The game that was just dealt starts fresh: every card of both hands is
unplayed, the piles are empty and it is player 1's turn. -/
structure World.StartsFresh (w : World) (player1Id player2Id : ℤ) : Prop where
  unplayed : ∀ c ∈ w.cards, c.players = some player1Id ∨ c.players = some player2Id →
    c.isPlayed = false
  player1CapturedCards : w.player1CapturedCards = []
  player2CapturedCards : w.player2CapturedCards = []
  player1Turn : w.player1Turn = true
  player2Turn : w.player2Turn = false

/-- **When a new deal starts a fresh game.**  After any requests, let two new
sessions create and join a game and be dealt their cards.  The game starts fresh
exactly if no card row was flagged before. -/
theorem new_deal_fresh_iff (deck : Deck) (calls : List Call) (n : NewGame) (order : List ℤ)
    (hvalid : n.Valid order (server.run (World.initial deck) calls)) :
    let w := server.run (World.initial deck) calls
    (server.run w (n.calls w.nextGameId)).StartsFresh w.nextPlayerId (w.nextPlayerId + 1) ↔
      ∀ c ∈ w.cards, c.isPlayed = false := by
  intro w
  have htables : Tables w := tables_run deck calls
  have hflags := sameFlags_newGame n w
  rw [newGame_run htables hvalid]
  constructor
  · intro hfresh d hd
    obtain ⟨c, hc, -, hplayed⟩ := hflags.exists_of_mem htables.cardKeys hd
    rw [← hplayed]
    exact hfresh.unplayed c hc (owner_newGame hvalid hc)
  · intro hunplayed
    obtain ⟨h1, h2, hturn1, hturn2⟩ :=
      fresh_of_unplayed (piles_run deck calls) (exclusive_run deck calls) hunplayed
    refine ⟨fun c hc _ => ?_, h1, h2, hturn1, hturn2⟩
    obtain ⟨d, hd, -, hplayed⟩ := hflags.flags c hc
    rw [← hplayed]
    exact hunplayed d hd

/-- Two players, with the rows listed as they are stored and nothing shuffled. -/
def NewGame.plain (username1 session1 username2 session2 : String) : NewGame :=
  ⟨username1, session1, username2, session2, .same, .same, .same, .same, .same, .same⟩

/-- The first two players. -/
def firstGame : NewGame := .plain "player1" "session1" "player2" "session2"

/-- The two players who come after them. -/
def secondGame : NewGame := .plain "player3" "session3" "player4" "session4"

/-- The first game is dealt, player 1 puts down a card, and nobody leaves. -/
def abandonedGame : List Call := firstGame.calls 1 ++ [⟨.playCardPlayer1 1, .same, .same⟩]

/-- The first game is dealt, with the second hand turned round, and a round of it is
played; player 1 puts down one more card, and then player 2 leaves. -/
def leftGame : List Call :=
  { firstGame with shuffle2 := reversed }.calls 1 ++ [⟨.playCardPlayer1 1, .same, .same⟩,
    ⟨.playCardPlayer2 ⟨some 1, some 2, some 1⟩, .same, .same⟩,
    ⟨.playCardPlayer1 1, .same, .same⟩,
    ⟨.leaveGame ⟨some 1, some "session2"⟩, .same, .same⟩]

theorem listsIn_same (w : World) : ListsIn (cardIds w.cards) w .same := fun _ h => h

/-- The second game can be set up wherever its two sessions are new. -/
theorem secondGame_valid {w : World} (h1 : some "session3" ∉ w.sessions)
    (h2 : some "session4" ∉ w.sessions) : secondGame.Valid (cardIds w.cards) w where
  columns1 := by decide +kernel
  columns2 := by decide +kernel
  new1 := h1
  new2 := h2
  differ := by decide
  lists1 := listsIn_same _
  lists2 := listsIn_same _

theorem new_deal_fresh_iff_leftGame :
    let w := server.run (World.initial migratedDeck) leftGame
    (server.run w (secondGame.calls w.nextGameId)).StartsFresh w.nextPlayerId
      (w.nextPlayerId + 1) := by
  intro w
  have hcards : (w.cards.all fun c => !c.isPlayed) = true := by decide +kernel
  refine (new_deal_fresh_iff migratedDeck leftGame secondGame (cardIds w.cards)
    (secondGame_valid (by decide +kernel) (by decide +kernel))).2 fun c hc => ?_
  simpa using List.all_eq_true.1 hcards c hc

/-- After an abandoned game the next one starts in its middle: it is player 2's
turn, and a card of a hand is flagged. -/
theorem new_deal_continues_abandonedGame :
    let w := server.run (World.initial migratedDeck) abandonedGame
    let w' := server.run w (secondGame.calls w.nextGameId)
    secondGame.Valid (cardIds w.cards) w ∧
      ¬ w'.StartsFresh w.nextPlayerId (w.nextPlayerId + 1) ∧
      w'.player1Turn = false ∧ w'.player2Turn = true ∧
      (w'.cards.any fun c => decide (c.players = some w.nextPlayerId) && c.isPlayed) = true := by
  intro w w'
  have hturn1 : w'.player1Turn = false := by decide +kernel
  refine ⟨secondGame_valid (by decide +kernel) (by decide +kernel), fun hfresh => ?_, hturn1,
    by decide +kernel, by decide +kernel⟩
  rw [hfresh.player1Turn] at hturn1
  cases hturn1

end WarCardGame
