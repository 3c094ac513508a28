import WarCardGame.Server.Lobby
import WarCardGame.Server.Plays

/-!
# A leave takes the cards of every game

There is one card table for all games.  When a player leaves, `reDealCards` deals all
of it to the two seats of that game, one of which is empty now: half of the cards go
to the player who stays and the other half to nobody.  What the players of other games
held is gone, and they are not told.

* `GameEntity.withoutPlayer`, `Tables.next_leave` — **what a leave does**, if the player
  is in the game.
* `OwnersIn` — which players hold cards; only deals and leaves add to them.
* `leave_takes_the_deck` — until somebody deals or leaves, **no player of another game
  puts down a card**.
-/

namespace WarCardGame

open Lib

/-! ## The state after a leave -/

/-- The row of a game as the player with the given key leaves it. -/
def GameEntity.withoutPlayer (game : GameEntity) (k : ℤ) : GameEntity :=
  if game.player1 = some k then { game with player1 := none, winner := game.player2 }
  else { game with player2 := none, winner := game.player1 }

/-- The cards are dealt to the seats as they are now. -/
def World.reDealtFor (w : World) (rows shuffle : CardOrder) (game : GameEntity) : World :=
  { w with cards := reDealt rows shuffle game.player1 game.player2 w.cards }

namespace Tables

variable {w : World}

theorem vacated_seated (h : Tables w) (rows shuffle : CardOrder) {player : PlayersEntity}
    (hplayer : player ∈ w.players) {game : GameEntity} (hseat : player.playerId ∈ game.seats) :
    vacated rows shuffle player game w =
      (game.withoutPlayer player.playerId,
        w.reDealtFor rows shuffle (game.withoutPlayer player.playerId)) := by
  simp only [vacated, h.playerOf_eq_some hplayer, GameEntity.withoutPlayer, World.reDealtFor]
  by_cases h1 : game.player1 = some player.playerId
  · simp only [if_pos h1]
  · have h2 : game.player2 = some player.playerId := by
      simpa [GameEntity.seats, h1] using hseat
    simp only [if_neg h1, if_pos h2]

/-- **What a leave does** to the state if the player is in the game. -/
theorem next_leave (h : Tables w) {call : Call} {gameId : ℤ} {session : Option String}
    (hrequest : call.request = .leaveGame ⟨some gameId, session⟩) {game : GameEntity}
    (hgame : GameRepository.rowOf w.games gameId = some game) {player : PlayersEntity}
    (hplayer : sessionLookup w.players session = .ok (some player))
    (hseat : player.playerId ∈ game.seats) :
    ∃ ms, server.next w call =
      ((((w.quiet.reDealtFor call.rows call.shuffle
        (game.withoutPlayer player.playerId)).closeGame
          (game.withoutPlayer player.playerId)).dropPlayer player).reset).send ms := by
  obtain ⟨-, hmem, -⟩ := mem_of_sessionLookup hplayer
  have hgame' : GameRepository.rowOf w.quiet.games gameId = some game := hgame
  have hplayer' : sessionLookup w.quiet.players session = .ok (some player) := hplayer
  have hvacated := h.quiet.vacated_seated call.rows call.shuffle hmem hseat
  have hfree := (h.quiet.leave call.rows call.shuffle (mem_of_rowOf hgame').1 hmem).2 hseat
  rw [hvacated] at hfree
  obtain ⟨ms, hstate⟩ := leaveGame_state call.rows call.shuffle ⟨some gameId, session⟩ w.quiet
  refine ⟨ms, ?_⟩
  rw [next_leaveGame hrequest, hstate, leaveGame_found call.rows call.shuffle hgame' hplayer']
  simp only [hvacated, hfree, Bool.false_eq_true, if_false]

end Tables

/-! ## Who holds cards -/

/-- Every card that is dealt to somebody is dealt to one of the given players. -/
def OwnersIn (ks : List ℤ) (w : World) : Prop :=
  ∀ c ∈ w.cards, ∀ k, c.players = some k → k ∈ ks

/-- The request is neither a deal nor a leave. -/
def Call.keepsOwners (call : Call) : Bool :=
  match call.request with
  | .dealCardsPlayer1 _ => false
  | .dealCardsPlayer2 _ => false
  | .leaveGame _ => false
  | _ => true

namespace OwnersIn

variable {ks : List ℤ} {w w' : World}

/-- Cards are flagged, and nothing else happens to them. -/
theorem flags (h : OwnersIn ks w)
    (hcards : ∀ c' ∈ w'.cards, c' ∈ w.cards ∨ ∃ c ∈ w.cards, c' = c.setPlayed) :
    OwnersIn ks w' := by
  intro c' hc' k hk
  rcases hcards c' hc' with hold | ⟨c, hc, rfl⟩
  · exact h c' hold k hk
  · exact h c hc k hk

theorem putDown (h : OwnersIn ks w) {c : CardsEntity} (hc : c ∈ w.cards) :
    OwnersIn ks (w.saveCard c.setPlayed) :=
  h.flags (RoundFrame.saveCard hc).cards

theorem step (h : OwnersIn ks w) {call : Call} (hcall : call.keepsOwners = true)
    (hstep : Step w call w') : OwnersIn ks w' := by
  cases hstep with
  | unchanged ms => exact h
  | create request name session => exact h
  | joinFull request gameId name session game => exact h
  | join request gameId name session game => exact h
  | deal session player hand hrequest =>
      rcases hrequest with hrequest | hrequest <;> simp [Call.keepsOwners, hrequest] at hcall
  | play1 playerId c hrequest hc => exact h.putDown hc
  | roundFailed player1Id player2Id gameId c e _ hrequest hc howner hunplayed hturn hround =>
      have hdown : OwnersIn ks (w.putDown2 c.setPlayed) := h.putDown hc
      exact hdown.flags (RoundFrame.of_gameRound hround).cards
  | round player1Id player2Id gameId c v ms hrequest hc howner hunplayed hturn hround =>
      have hdown : OwnersIn ks (w.putDown2 c.setPlayed) := h.putDown hc
      exact hdown.flags (RoundFrame.of_gameRound hround).cards
  | leaveRefused gameId session game player ms hrequest =>
      simp [Call.keepsOwners, hrequest] at hcall
  | leave gameId session game player ms hrequest =>
      simp [Call.keepsOwners, hrequest] at hcall

theorem run (h : OwnersIn ks w) {calls : List Call}
    (hcalls : ∀ call ∈ calls, call.keepsOwners = true) : OwnersIn ks (server.run w calls) := by
  induction calls generalizing w with
  | nil => exact h
  | cons call calls ih =>
      have hquiet : OwnersIn ks w.quiet := h
      have hnext := hquiet.step (hcalls call (List.mem_cons_self ..)) (step_next w call)
      exact ih hnext fun c hc => hcalls c (List.mem_cons_of_mem _ hc)

/-- A player who holds no card has none to put down. -/
theorem cardsOf_eq_nil (h : OwnersIn ks w) {k : ℤ} (hk : k ∉ ks) (rows : CardOrder) :
    CardsRepository.cardsOf rows k w.cards = [] := by
  refine List.eq_nil_iff_forall_not_mem.2 fun c hc => ?_
  obtain ⟨hmem, howner⟩ := CardsRepository.mem_cardsOf.1 hc
  exact hk (h c hmem k howner)

/-- **A play for a player who holds no card** changes nothing. -/
theorem play_refused (h : OwnersIn ks w) {call : Call}
    (hcall : (∃ k, call.request = .playCardPlayer1 k ∧ k ∉ ks) ∨
      ∃ request, call.request = .playCardPlayer2 request ∧
        ∀ k, request.player2Id = some k → k ∉ ks) :
    server.next w call = w.quiet ∧ acceptedPlay call (server.out w call) = none := by
  rcases hcall with ⟨k, hrequest, hk⟩ | ⟨request, hrequest, hk⟩
  · have hnone : playFirst (CardsRepository.cardsOf call.rows k w.quiet.cards) = none := by
      rw [show w.quiet.cards = w.cards from rfl, h.cardsOf_eq_nil hk call.rows]
      rfl
    rw [next_playCard1 hrequest, acceptedPlay, hrequest, response_playCard1 hrequest,
      playCard1_apply]
    cases PlayerRepository.rowOf w.quiet.players k with
    | none => exact ⟨rfl, rfl⟩
    | some p =>
        simp only [hnone]
        split_ifs
        · exact ⟨rfl, rfl⟩
        · exact ⟨rfl, rfl⟩
  · rw [next_playCard2 hrequest, acceptedPlay, hrequest, response_playCard2 hrequest]
    by_cases hnull : request.player1Id = none ∨ request.player2Id = none ∨ request.gameId = none
    · rw [playCard2_null call.rows w.quiet hnull]
      exact ⟨rfl, rfl⟩
    obtain ⟨_ | player1Id, _ | player2Id, _ | gameId⟩ := request
    all_goals try simp at hnull
    have hnone : playFirst (CardsRepository.cardsOf call.rows player2Id w.quiet.cards) = none := by
      rw [show w.quiet.cards = w.cards from rfl, h.cardsOf_eq_nil (hk player2Id rfl) call.rows]
      rfl
    rw [playCard2_apply]
    cases PlayerRepository.rowOf w.quiet.players player2Id with
    | none => exact ⟨rfl, rfl⟩
    | some p =>
        simp only [hnone]
        split_ifs
        · exact ⟨rfl, rfl⟩
        · exact ⟨rfl, rfl⟩

end OwnersIn

/-- After a leave the cards belong to the player who stays, or to nobody. -/
theorem Tables.owners_leave {w : World} (h : Tables w) {call : Call} {gameId : ℤ}
    {session : Option String} (hrequest : call.request = .leaveGame ⟨some gameId, session⟩)
    {game : GameEntity} (hgame : GameRepository.rowOf w.games gameId = some game)
    {player : PlayersEntity} (hplayer : sessionLookup w.players session = .ok (some player))
    (hseat : player.playerId ∈ game.seats) :
    OwnersIn (game.seats.filter (· ≠ player.playerId)) (server.next w call) := by
  obtain ⟨ms, hnext⟩ := h.next_leave hrequest hgame hplayer hseat
  have hcards : (server.next w call).cards =
      reDealt call.rows call.shuffle (game.withoutPlayer player.playerId).player1
        (game.withoutPlayer player.playerId).player2 w.cards := by
    rw [hnext]
    exact World.cards_closeGame _ _
  have hseats : game.seats.Nodup :=
    (List.nodup_flatMap.1 h.oneSeat).1 game (Tables.mem_of_rowOf hgame).1
  intro c hc k hk
  rw [hcards] at hc
  have howner := (of_mem_reDealt hc).2
  rw [hk] at howner
  unfold GameEntity.withoutPlayer at howner
  rw [List.mem_filter]
  split_ifs at howner with h1
  · have hk2 : some k = game.player2 := by simpa using howner
    have h2 : game.player2 = some k := hk2.symm
    refine ⟨by simp [GameEntity.seats, h2], ?_⟩
    rw [GameEntity.seats, h1, h2] at hseats
    simpa using fun hsame : k = player.playerId => by simp [hsame] at hseats
  · have howner1 : some k = game.player1 := by simpa using howner
    have hk1 : game.player1 = some k := howner1.symm
    refine ⟨by simp [GameEntity.seats, hk1], ?_⟩
    simpa using fun hsame : k = player.playerId => h1 (by rw [hk1, hsame])

/-- **A leave takes the cards of every game.**  Let a player leave the game they are in,
after any requests.  From then on, until somebody deals or leaves, all cards that
belong to somebody belong to the player who stays; and a request to play for a player
who was not in that game is refused and changes nothing. -/
theorem leave_takes_the_deck (deck : Deck) (calls : List Call) (call : Call) (gameId : ℤ)
    (session : Option String) (hrequest : call.request = .leaveGame ⟨some gameId, session⟩)
    (game : GameEntity)
    (hgame : GameRepository.rowOf (server.run (World.initial deck) calls).games gameId = some game)
    (player : PlayersEntity)
    (hplayer : sessionLookup (server.run (World.initial deck) calls).players session =
      .ok (some player))
    (hseat : player.playerId ∈ game.seats) (later : List Call)
    (hlater : ∀ c ∈ later, c.keepsOwners = true) :
    let w := server.run (World.initial deck) (calls ++ call :: later)
    (∀ c ∈ w.cards, ∀ k, c.players = some k → k ∈ game.seats ∧ k ≠ player.playerId) ∧
    ∀ play : Call,
      ((∃ k, play.request = .playCardPlayer1 k ∧ k ∉ game.seats) ∨
        ∃ request, play.request = .playCardPlayer2 request ∧
          ∀ k, request.player2Id = some k → k ∉ game.seats) →
      server.next w play = w.quiet ∧ acceptedPlay play (server.out w play) = none := by
  intro w
  have hrun : w = server.run (server.next (server.run (World.initial deck) calls) call) later := by
    show server.run (World.initial deck) (calls ++ call :: later) = _
    rw [Machine.run_append]
    rfl
  have howners : OwnersIn (game.seats.filter (· ≠ player.playerId)) w := by
    rw [hrun]
    exact ((tables_run deck calls).owners_leave hrequest hgame hplayer hseat).run hlater
  have hnot : ∀ {k}, k ∉ game.seats → k ∉ game.seats.filter (· ≠ player.playerId) := fun hk hmem =>
    hk (List.mem_of_mem_filter hmem)
  refine ⟨fun c hc k hk => ?_, fun play hplay => howners.play_refused ?_⟩
  · have hmem := List.mem_filter.1 (howners c hc k hk)
    exact ⟨hmem.1, by simpa using hmem.2⟩
  · rcases hplay with ⟨k, hplay, hk⟩ | ⟨request, hplay, hk⟩
    · exact Or.inl ⟨k, hplay, hnot hk⟩
    · exact Or.inr ⟨request, hplay, fun k hsome => hnot (hk k hsome)⟩

/-- Two games: the cards are dealt to the players of the second one. -/
def secondGameDealt : List Call :=
  [⟨.createGameAndPlayer ⟨some "player1", some "session1"⟩, .same, .same⟩,
    ⟨.joinGame ⟨some 1, some "player2", some "session2"⟩, .same, .same⟩,
    ⟨.createGameAndPlayer ⟨some "player3", some "session3"⟩, .same, .same⟩,
    ⟨.joinGame ⟨some 2, some "player4", some "session4"⟩, .same, .same⟩,
    ⟨.dealCardsPlayer1 (some "session3"), .same, .same⟩,
    ⟨.dealCardsPlayer2 (some "session4"), .same, .same⟩]

/-- Player 3 has half of the deck, and after a leave in the other game no card. -/
theorem leave_takes_the_deck_secondGame :
    let leave : Call := ⟨.leaveGame ⟨some 1, some "session1"⟩, .same, .same⟩
    let w := server.run (World.initial migratedDeck) (secondGameDealt ++ leave :: [])
    ((server.run (World.initial migratedDeck) secondGameDealt).cards.countP
        fun c => c.players = some 3) = 26 ∧
      server.next w ⟨.playCardPlayer1 3, .same, .same⟩ = w.quiet := by
  intro leave w
  have hgame :
      GameRepository.rowOf (server.run (World.initial migratedDeck) secondGameDealt).games 1 =
        some ⟨1, some 1, some 2, none, .newGame⟩ := by decide +kernel
  have hplayer : sessionLookup (server.run (World.initial migratedDeck) secondGameDealt).players
      (some "session1") = .ok (some ⟨1, "player1", some "session1"⟩) := by decide +kernel
  refine ⟨by decide +kernel, ?_⟩
  exact ((leave_takes_the_deck migratedDeck secondGameDealt leave 1 (some "session1") rfl _ hgame _
    hplayer (by decide) [] (by simp)).2 ⟨.playCardPlayer1 3, .same, .same⟩
    (Or.inl ⟨3, rfl, by decide⟩)).1

end WarCardGame
