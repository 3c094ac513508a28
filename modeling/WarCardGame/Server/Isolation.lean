import WarCardGame.Server.Views

/-!
# How far games are isolated

There is one `CardsService`, and its deck, turn, played pair and piles serve every
game.  So one game can disturb another, and it does so through this shared state
and in no other way.

* `Party.Separate` — the rows of two games have nothing to do with each other;
  deals, plays and leaves keep it that way.
* `Party.Separate.own_next` — a request of one game leaves the rows of the other
  alone.
* `isolated_if_restored` — if the requests of game B that come between two requests
  of game A leave the shared state, as A sees it, the way they found it, A gets the
  answers and messages it gets without B.
* `games_not_isolated` — otherwise it may not: a deal of B takes the cards of A.
-/

namespace WarCardGame

open Lib

namespace Party

variable {A B : Party} {w w' : World}

/-- The rows of game B refer to no player of game A. -/
structure Separate (A B : Party) (w : World) : Prop extends A.Seated w where
  others : ∀ p ∈ w.players, B.isSession p.sessionId = true → A.isPlayer p.playerId = false
  apart : ∀ g ∈ w.games, g.gameId = B.gameId → A.isGame g = false

theorem Separate.quiet (h : A.Separate B w) : A.Separate B w.quiet :=
  ⟨h.toSeated.quiet, h.others, h.apart⟩

theorem isGame_eq_false_of {g g' : GameEntity} (hfrom : g.ComesFrom g') (h : A.isGame g = false) :
    A.isGame g' = false := by
  simp only [isGame, Bool.or_eq_false_iff] at h ⊢
  obtain ⟨⟨⟨hid, h1⟩, h2⟩, hwinner⟩ := h
  refine ⟨⟨⟨by rw [hfrom.gameId]; exact hid, ?_⟩, ?_⟩, ?_⟩
  · rcases hfrom.player1 with hsame | hnone
    · rw [hsame, h1]
    · rw [hnone]
      rfl
  · rcases hfrom.player2 with hsame | hnone
    · rw [hsame, h2]
    · rw [hnone]
      rfl
  · rcases hfrom.winner with hsame | hplayer1 | hplayer2
    · rw [hsame, hwinner]
    · rw [hplayer1, h1]
    · rw [hplayer2, h2]

theorem Separate.shrink (h : A.Separate B w) (hshrinks : Shrinks w w') : A.Separate B w' where
  toSeated := h.toSeated.shrink hshrinks
  others := fun p hp => h.others p (hshrinks.players hp)
  apart := by
    intro g' hg' hid
    obtain ⟨g, hg, hfrom⟩ := hshrinks.games g' hg'
    exact isGame_eq_false_of hfrom (h.apart g hg (hfrom.gameId.symm.trans hid))

theorem addsNobody_of_owns {call : Call} (h : A.owns call = true) : call.addsNobody = true := by
  unfold owns at h
  unfold Call.addsNobody
  cases hrequest : call.request with
  | createGameAndPlayer request => simp [hrequest] at h
  | joinGame request => simp [hrequest] at h
  | _ => rfl

theorem Separate.next (h : A.Separate B w) {call : Call}
    (hcall : A.owns call = true ∨ B.owns call = true) : A.Separate B (server.next w call) := by
  have hnobody : call.addsNobody = true := by
    rcases hcall with hA | hB
    · exact addsNobody_of_owns hA
    · exact addsNobody_of_owns hB
  exact h.quiet.shrink ((step_next w call).shrinks hnobody)

/-- Closing a game of somebody else. -/
theorem own_closeGame (rows shuffle : CardOrder) (player : PlayersEntity) {game : GameEntity}
    (hgame : ∀ g ∈ w.games, g.gameId = game.gameId → A.isGame g = false) (hrow : game ∈ w.games) :
    A.own ((vacated rows shuffle player game w).2.closeGame
      (vacated rows shuffle player game w).1) = A.own w := by
  obtain ⟨hfrom, hgames⟩ := comesFrom_vacated rows shuffle player game w
  obtain ⟨hplayers, -⟩ := vacated_closeGame_frame rows shuffle player game w
  have hleft : A.isGame (vacated rows shuffle player game w).1 = false :=
    isGame_eq_false_of hfrom (hgame game hrow rfl)
  refine Prod.ext ?_ ?_
  · show List.filter _ (World.closeGame _ _).players = _
    rw [hplayers]
    rfl
  · show ((vacated rows shuffle player game w).2.closeGame _).games.filter A.isGame =
      w.games.filter A.isGame
    generalize vacated rows shuffle player game w = v at hfrom hgames hleft ⊢
    unfold World.closeGame
    split_ifs
    · show (v.2.games.filter fun g => g.gameId ≠ v.1.gameId).filter A.isGame = _
      rw [hgames, List.filter_filter]
      refine List.filter_congr fun g hg => ?_
      by_cases hid : g.gameId = v.1.gameId
      · simp [hgame g hg (hid.trans hfrom.gameId)]
      · simp [hid]
    · show (Rows.save GameEntity.gameId _ v.2.games).filter A.isGame = _
      rw [hgames, Rows.filter_save_of_not GameEntity.gameId]
      · exact hleft
      · exact fun g hg hid => hgame g hg (hid.trans hfrom.gameId)

/-- **A request of game B leaves the rows of game A alone.** -/
theorem Separate.own_step (h : A.Separate B w) {call : Call} (hcall : B.owns call = true)
    (hstep : Step w call w') : A.own w' = A.own w := by
  have hnobody := addsNobody_of_owns hcall
  have hleave : ∀ {gameId : ℤ} {session : Option String},
      call.request = .leaveGame ⟨some gameId, session⟩ →
      gameId = B.gameId ∧ B.isSession session = true := by
    intro gameId session hrequest
    simpa [owns, hrequest] using hcall
  have hrowOf : ∀ {gameId : ℤ} {game : GameEntity}, gameId = B.gameId →
      GameRepository.rowOf w.games gameId = some game →
      game ∈ w.games ∧ ∀ g ∈ w.games, g.gameId = game.gameId → A.isGame g = false := by
    intro gameId game hid hgame
    have hfound : game.gameId = gameId := by simpa using List.find?_some hgame
    exact ⟨List.mem_of_find?_eq_some hgame,
      fun g hg hg' => h.apart g hg (hg'.trans (hfound.trans hid))⟩
  cases hstep with
  | unchanged ms => rfl
  | create request name session hrequest => simp [Call.addsNobody, hrequest] at hnobody
  | joinFull request gameId name session game hrequest =>
      simp [Call.addsNobody, hrequest] at hnobody
  | join request gameId name session game hrequest => simp [Call.addsNobody, hrequest] at hnobody
  | deal session player hand => rfl
  | play1 playerId c => rfl
  | roundFailed player1Id player2Id gameId c e w' hrequest hc howner hunplayed hturn hround =>
      have hframe := RoundFrame.of_gameRound hround
      rw [own, hframe.players, hframe.games]
      rfl
  | round player1Id player2Id gameId c w' ms hrequest hc howner hunplayed hturn hround =>
      have hframe := RoundFrame.of_gameRound hround
      show (w'.players.filter _, w'.games.filter _) = _
      rw [hframe.players, hframe.games]
      rfl
  | leaveRefused gameId session game player ms hrequest hgame =>
      obtain ⟨hrow, hothers⟩ := hrowOf (hleave hrequest).1 hgame
      exact own_closeGame call.rows call.shuffle player hothers hrow
  | leave gameId session game player ms hrequest hgame hplayer =>
      obtain ⟨hid, hs⟩ := hleave hrequest
      obtain ⟨hrow, hothers⟩ := hrowOf hid hgame
      have hclosed := own_closeGame call.rows call.shuffle player hothers hrow
      obtain ⟨-, hmem, hsession⟩ := mem_of_sessionLookup hplayer
      have hother := h.others player hmem (hsession ▸ hs)
      obtain ⟨hplayers, hgames⟩ := Prod.mk.inj hclosed
      refine Prod.ext (Eq.trans ?_ hplayers) hgames
      refine Eq.trans (List.filter_filter ..) (List.filter_congr fun p _ => ?_)
      by_cases hp : p.playerId = player.playerId
      · simp [hp, hother]
      · simp [hp]

end Party

/-- The orders a request is given depend on the keys of the cards only. -/
def Call.Uniform (call : Call) : Prop :=
  call.rows.Uniform CardsEntity.cardId ∧ call.shuffle.Uniform CardsEntity.cardId

/-- **Games are isolated as far as they leave the shared state alone.**  Take any
interleaving of requests of two games A and B whose rows have nothing to do with
each other.  If, whenever a request of A is handled, the requests of B since A's
last request have together left the shared state, as A sees it, the way it was,
then the answers to A's requests and everything sent while they are handled are
those of the run without B's requests. -/
theorem isolated_if_restored (A B : Party) (w : World) (hseparate : A.Separate B w)
    (calls : List Call) (hcalls : ∀ call ∈ calls, A.owns call = true ∨ B.owns call = true)
    (horders : ∀ call ∈ calls, A.owns call = true → call.Uniform)
    (hrestores : server.restores A.owns A.shared (A.shared w) w calls) :
    server.keptOutputs A.owns w calls = server.outputs w (calls.filter A.owns) := by
  refine Machine.keptOutputs_eq A.shared A.own (I := A.Separate B)
    (C := fun call => (A.owns call = true ∨ B.owns call = true) ∧
      (A.owns call = true → call.Uniform)) ?_ ?_ ?_ hseparate hseparate rfl
    (fun call hcall => ⟨hcalls call hcall, horders call hcall⟩) hrestores
  · exact fun s call hcall hs => hs.next hcall.1
  · intro s t call hkeep hcall hs ht hview hown
    have hsame : A.Same s.quiet t.quiet := Party.same_of_views hview hown rfl
    obtain ⟨hrows, hshuffle⟩ := hcall.2 hkeep
    obtain ⟨hresponse, hafter⟩ := hsame.handle hs.quiet.toSeated ht.quiet.toSeated hrows
      hshuffle hkeep
    refine ⟨?_, hafter.shared_eq, hafter.own_eq⟩
    show Outcome.mk (handle call s.quiet).1 (handle call s.quiet).2.sent =
      Outcome.mk (handle call t.quiet).1 (handle call t.quiet).2.sent
    rw [hresponse, hafter.sent]
  · intro s call hkeep hcall hs
    have hB : B.owns call = true := by
      rcases hcall.1 with hA | hB
      · rw [hkeep] at hA
        cases hA
      · exact hB
    exact hs.quiet.own_step hB (step_next s call)

/-! ## Two games in the migrated database -/

/-- Two games are created and joined. -/
def twoGames : World :=
  server.run (.initial migratedDeck)
    [⟨.createGameAndPlayer ⟨some "player1", some "session1"⟩, .same, .same⟩,
      ⟨.joinGame ⟨some 1, some "player2", some "session2"⟩, .same, .same⟩,
      ⟨.createGameAndPlayer ⟨some "player3", some "session3"⟩, .same, .same⟩,
      ⟨.joinGame ⟨some 2, some "player4", some "session4"⟩, .same, .same⟩]

def gameA : Party := ⟨1, 2, 1, some "session1", some "session2"⟩

def gameB : Party := ⟨3, 4, 2, some "session3", some "session4"⟩

theorem separate_twoGames : gameA.Separate gameB twoGames := by
  have hplayers : twoGames.players = [⟨1, "player1", some "session1"⟩,
      ⟨2, "player2", some "session2"⟩, ⟨3, "player3", some "session3"⟩,
      ⟨4, "player4", some "session4"⟩] := by decide +kernel
  have hgames : twoGames.games = [⟨1, some 1, some 2, none, .newGame⟩,
      ⟨2, some 3, some 4, none, .newGame⟩] := by decide +kernel
  refine ⟨⟨?_, ?_, ?_⟩, ?_, ?_⟩
  · rw [hplayers]
    decide
  · rw [hgames]
    intro g hg hid k hk
    simp only [List.mem_cons, List.not_mem_nil, or_false] at hg
    rcases hg with rfl | rfl
    · cases hk
      decide
    · exact absurd hid (by decide)
  · rw [hgames]
    intro g hg hid k hk
    simp only [List.mem_cons, List.not_mem_nil, or_false] at hg
    rcases hg with rfl | rfl
    · cases hk
      decide
    · exact absurd hid (by decide)
  · rw [hplayers]
    decide
  · rw [hgames]
    decide

/-- Game B is dealt, played and left; then game A is dealt and played, while a
player of B tries to play. -/
def oneAfterTheOther : List Call :=
  [⟨.dealCardsPlayer1 (some "session3"), .same, .same⟩,
    ⟨.dealCardsPlayer2 (some "session4"), .same, .same⟩,
    ⟨.playCardPlayer1 3, .same, .same⟩,
    ⟨.playCardPlayer2 ⟨some 3, some 4, some 2⟩, .same, .same⟩,
    ⟨.leaveGame ⟨some 2, some "session3"⟩, .same, .same⟩,
    ⟨.dealCardsPlayer1 (some "session1"), .same, .same⟩,
    ⟨.dealCardsPlayer2 (some "session2"), .same, .same⟩,
    ⟨.playCardPlayer1 4, .same, .same⟩,
    ⟨.playCardPlayer1 1, .same, .same⟩,
    ⟨.playCardPlayer2 ⟨some 1, some 2, some 1⟩, .same, .same⟩]

theorem isolated_oneAfterTheOther :
    server.keptOutputs gameA.owns twoGames oneAfterTheOther =
      server.outputs twoGames (oneAfterTheOther.filter gameA.owns) := by
  have huniform : ∀ call ∈ oneAfterTheOther, call.rows = .same ∧ call.shuffle = .same := by
    simp [oneAfterTheOther]
  refine isolated_if_restored gameA gameB twoGames separate_twoGames oneAfterTheOther
    (by decide +kernel) (fun call hcall _ => ?_) (by decide +kernel)
  obtain ⟨hrows, hshuffle⟩ := huniform call hcall
  rw [Call.Uniform, hrows, hshuffle]
  exact ⟨Reordering.same_uniform _, Reordering.same_uniform _⟩

/-- Game A is dealt; then player 1 of B is dealt cards, and player 1 of A plays. -/
def dealInBetween : List Call :=
  [⟨.dealCardsPlayer1 (some "session1"), .same, .same⟩,
    ⟨.dealCardsPlayer2 (some "session2"), .same, .same⟩,
    ⟨.dealCardsPlayer1 (some "session3"), .same, .same⟩,
    ⟨.playCardPlayer1 1, .same, .same⟩]

/-- **Games are not isolated**: the deal of game B takes player 1's cards in game
A, who then has nothing to play. -/
theorem games_not_isolated :
    gameA.Separate gameB twoGames ∧
    (∀ call ∈ dealInBetween, gameA.owns call = true ∨ gameB.owns call = true) ∧
    (server.keptOutputs gameA.owns twoGames dealInBetween).map (·.response) ≠
      (server.outputs twoGames (dealInBetween.filter gameA.owns)).map (·.response) :=
  ⟨separate_twoGames, by decide +kernel, by decide +kernel⟩

end WarCardGame
