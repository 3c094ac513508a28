import WarCardGame.Server.Step

/-!
# The three tables stay well formed

`Tables w` collects what every history of requests keeps true of the database:
keys are unique and below their sequences, no reference dangles, a player sits
in at most one seat, a stored winner is one of the two current players, and
somebody sits in every stored game.

There is one lemma for each kind of write (`withCards`, `addPlayer`, `addGame`,
`seat`, `leave`), one for each request (`handle`), and from these
`tables_run`: the invariant holds after any sequence of requests.

Leaving is where the invariant earns its keep.  `unreferenced_of_participant`
shows that once a participant's seat is empty nothing refers to the player any
more, so the delete that ends `leaveGame` is not refused, and
`game_table_wellFormed_and_leave_succeeds` puts the two together.
-/

namespace WarCardGame

open Lib

/-- The players in the two slots of a game. -/
def GameEntity.seats (g : GameEntity) : List ℤ := g.player1.toList ++ g.player2.toList

/-- The keys of the stored players. -/
def World.playerIds (w : World) : List ℤ := w.players.map PlayersEntity.playerId

/-- The filled slots of all stored games. -/
def World.seats (w : World) : List ℤ := w.games.flatMap GameEntity.seats

/-- The invariant of the database. -/
structure Tables (w : World) : Prop where
  cardKeys : (w.cards.map CardsEntity.cardId).Nodup
  playerKeys : w.playerIds.Nodup
  gameKeys : (w.games.map GameEntity.gameId).Nodup
  playerSequence : ∀ k ∈ w.playerIds, k < w.nextPlayerId
  gameSequence : ∀ g ∈ w.games, g.gameId < w.nextGameId
  /-- The foreign key of `card_entity`. -/
  cardOwner : ∀ c ∈ w.cards, ∀ k, c.players = some k → k ∈ w.playerIds
  /-- The foreign keys of the slots of `game_entity`. -/
  seatStored : ∀ k ∈ w.seats, k ∈ w.playerIds
  /-- A player fills at most one slot over all games. -/
  oneSeat : w.seats.Nodup
  /-- The winner is one of the two current players. -/
  winnerSeated : ∀ g ∈ w.games, ∀ k, g.winner = some k → k ∈ g.seats
  /-- Nobody's games are not stored. -/
  someSeat : ∀ g ∈ w.games, g.seats ≠ []

namespace Tables

variable {w w' : World}

theorem initial (deck : Deck) : Tables (World.initial deck) where
  cardKeys := deck.nodup
  playerKeys := List.nodup_nil
  gameKeys := List.nodup_nil
  playerSequence := by simp [World.playerIds, World.initial]
  gameSequence := by simp [World.initial]
  cardOwner := by
    intro c hc k hk
    rw [deck.undealt c hc] at hk
    cases hk
  seatStored := by simp [World.seats, World.initial]
  oneSeat := List.nodup_nil
  winnerSeated := by simp [World.initial]
  someSeat := by simp [World.initial]

/-! ## Writes that touch no player and no game -/

/-- Card rows may be rewritten as long as their keys stay and their owners are
stored. -/
theorem withCards (h : Tables w) (hplayers : w'.players = w.players) (hgames : w'.games = w.games)
    (hnextPlayer : w'.nextPlayerId = w.nextPlayerId) (hnextGame : w'.nextGameId = w.nextGameId)
    (hkeys : w'.cards.map CardsEntity.cardId = w.cards.map CardsEntity.cardId)
    (howner : ∀ c ∈ w'.cards, ∀ k, c.players = some k → k ∈ w.playerIds) : Tables w' := by
  have hids : w'.playerIds = w.playerIds := by rw [World.playerIds, hplayers]; rfl
  have hseats : w'.seats = w.seats := by rw [World.seats, hgames]; rfl
  exact
    { cardKeys := hkeys ▸ h.cardKeys
      playerKeys := hids ▸ h.playerKeys
      gameKeys := hgames ▸ h.gameKeys
      playerSequence := by rw [hids, hnextPlayer]; exact h.playerSequence
      gameSequence := by rw [hgames, hnextGame]; exact h.gameSequence
      cardOwner := by rw [hids]; exact howner
      seatStored := by rw [hids, hseats]; exact h.seatStored
      oneSeat := hseats ▸ h.oneSeat
      winnerSeated := by rw [hgames]; exact h.winnerSeated
      someSeat := by rw [hgames]; exact h.someSeat }

/-- The invariant says nothing of the fields of the service. -/
theorem sameTables (h : Tables w) (hplayers : w'.players = w.players) (hcards : w'.cards = w.cards)
    (hgames : w'.games = w.games) (hnextPlayer : w'.nextPlayerId = w.nextPlayerId)
    (hnextGame : w'.nextGameId = w.nextGameId) : Tables w' :=
  h.withCards hplayers hgames hnextPlayer hnextGame (by rw [hcards])
    (fun c hc => h.cardOwner c (hcards ▸ hc))

theorem round (h : Tables w) (hframe : RoundFrame w w') : Tables w' := by
  refine h.withCards hframe.players hframe.games hframe.nextPlayerId hframe.nextGameId
    hframe.cardIds fun c hc k hk => ?_
  rcases hframe.cards c hc with hold | ⟨d, hd, rfl⟩
  · exact h.cardOwner c hold k hk
  · exact h.cardOwner d hd k hk

/-- Dealing to a stored player, or to nobody. -/
theorem deal (h : Tables w) {player : Option ℤ} (hplayer : ∀ k, player = some k → k ∈ w.playerIds)
    (hand : List CardsEntity) : Tables (w.dealtTo player hand) := by
  refine h.withCards rfl rfl rfl rfl (Rows.map_key_saveAll _ _ _) fun c hc k hk => ?_
  rcases Rows.mem_of_mem_saveAll _ hc with hdealt | ⟨hold, -⟩
  · exact hplayer k (players_of_mem_dealt hdealt ▸ hk)
  · exact h.cardOwner c hold k hk

/-! ## New players and new games -/

theorem newPlayerId_not_mem (h : Tables w) : w.nextPlayerId ∉ w.playerIds := fun hmem =>
  lt_irrefl _ (h.playerSequence _ hmem)

theorem addPlayer (h : Tables w) (username : String) (sessionId : Option String) :
    Tables (w.addPlayer username sessionId) := by
  have hids : (w.addPlayer username sessionId).playerIds = w.playerIds ++ [w.nextPlayerId] := by
    simp [World.playerIds, World.addPlayer, World.newPlayer]
  have hsub : ∀ k ∈ w.playerIds, k ∈ (w.addPlayer username sessionId).playerIds := by
    intro k hk
    rw [hids]
    exact List.mem_append_left _ hk
  exact
    { cardKeys := h.cardKeys
      playerKeys := by
        rw [hids, ← List.concat_eq_append]
        exact h.playerKeys.concat h.newPlayerId_not_mem
      gameKeys := h.gameKeys
      playerSequence := by
        intro k hk
        rw [hids] at hk
        show k < w.nextPlayerId + 1
        rcases List.mem_append.1 hk with hold | hnew
        · have := h.playerSequence k hold
          omega
        · rw [List.mem_singleton] at hnew
          omega
      gameSequence := h.gameSequence
      cardOwner := fun c hc k hk => hsub k (h.cardOwner c hc k hk)
      seatStored := fun k hk => hsub k (h.seatStored k hk)
      oneSeat := h.oneSeat
      winnerSeated := h.winnerSeated
      someSeat := h.someSeat }

/-- A new game for a stored player who sits nowhere. -/
theorem addGame (h : Tables w) {k : ℤ} (hstored : k ∈ w.playerIds) (hfree : k ∉ w.seats) :
    Tables (w.addGame k) := by
  have hseats : (w.addGame k).seats = w.seats ++ [k] := by
    simp [World.seats, World.addGame, GameEntity.seats]
  have hgames : ∀ g ∈ (w.addGame k).games, g ∈ w.games ∨
      g = ⟨w.nextGameId, some k, none, none, .newGame⟩ := by
    intro g hg
    simpa [World.addGame] using hg
  exact
    { cardKeys := h.cardKeys
      playerKeys := h.playerKeys
      gameKeys := by
        have hnew : w.nextGameId ∉ w.games.map GameEntity.gameId := by
          intro hmem
          obtain ⟨g, hg, hkey⟩ := List.mem_map.1 hmem
          exact absurd (h.gameSequence g hg) (by rw [hkey]; exact lt_irrefl _)
        show ((w.games ++ [_]).map GameEntity.gameId).Nodup
        rw [List.map_append, List.map_singleton, ← List.concat_eq_append]
        exact h.gameKeys.concat hnew
      playerSequence := h.playerSequence
      gameSequence := by
        intro g hg
        show g.gameId < w.nextGameId + 1
        rcases hgames g hg with hold | rfl
        · have := h.gameSequence g hold
          omega
        · exact lt_add_one _
      cardOwner := h.cardOwner
      seatStored := by
        intro j hj
        rw [hseats] at hj
        rcases List.mem_append.1 hj with hold | hnew
        · exact h.seatStored j hold
        · rw [List.mem_singleton] at hnew
          exact hnew ▸ hstored
      oneSeat := by
        rw [hseats, ← List.concat_eq_append]
        exact h.oneSeat.concat hfree
      winnerSeated := by
        intro g hg
        rcases hgames g hg with hold | rfl
        · exact h.winnerSeated g hold
        · intro j hj
          cases hj
      someSeat := by
        intro g hg
        rcases hgames g hg with hold | rfl
        · exact h.someSeat g hold
        · simp [GameEntity.seats] }

/-! ## Rewriting the row of a game -/

/-- The row with a given key is stored. -/
theorem mem_of_rowOf {games : List GameEntity} {gameId : ℤ} {game : GameEntity}
    (hrow : GameRepository.rowOf games gameId = some game) :
    game ∈ games ∧ game.gameId = gameId :=
  ⟨List.mem_of_find?_eq_some hrow, by simpa using List.find?_some hrow⟩

/-- At most one row, with the key of `g`. -/
theorem sublist_gameId {new : List GameEntity} {g : GameEntity}
    (hnew : ∀ g' ∈ new, g'.gameId = g.gameId) (hone : new.length ≤ 1) :
    (new.map GameEntity.gameId).Sublist [g.gameId] := by
  cases new with
  | nil => exact List.nil_sublist _
  | cons g' rest =>
      obtain rfl : rest = [] := by simpa using hone
      rw [List.map_singleton, hnew g' (List.mem_cons_self ..)]

/-- Replace the row of a stored game by rows with the same key, or by none: the
invariant holds again if it does for the new seats. -/
theorem replaceGame (h : Tables w) (new : List GameEntity) {before after : List GameEntity}
    {g : GameEntity}
    (hsplit : w.games = before ++ g :: after) (hgames : w'.games = before ++ new ++ after)
    (hnew : ∀ g' ∈ new, g'.gameId = g.gameId) (hone : new.length ≤ 1)
    (hplayers : w'.players = w.players) (hnextPlayer : w'.nextPlayerId = w.nextPlayerId)
    (hnextGame : w'.nextGameId = w.nextGameId)
    (hkeys : w'.cards.map CardsEntity.cardId = w.cards.map CardsEntity.cardId)
    (howner : ∀ c ∈ w'.cards, ∀ k, c.players = some k → k ∈ w.playerIds)
    (hstored : ∀ k ∈ new.flatMap GameEntity.seats, k ∈ w.playerIds)
    (hseat : (before.flatMap GameEntity.seats ++ new.flatMap GameEntity.seats ++
      after.flatMap GameEntity.seats).Nodup)
    (hwinner : ∀ g' ∈ new, ∀ k, g'.winner = some k → k ∈ g'.seats)
    (hsome : ∀ g' ∈ new, g'.seats ≠ []) : Tables w' := by
  have hids : w'.playerIds = w.playerIds := by rw [World.playerIds, hplayers]; rfl
  have hold : ∀ g' ∈ before ++ after, g' ∈ w.games := by
    intro g' hg'
    rw [hsplit]
    rcases List.mem_append.1 hg' with hb | ha
    · exact List.mem_append_left _ hb
    · exact List.mem_append_right _ (List.mem_cons_of_mem _ ha)
  have hcases : ∀ g' ∈ w'.games, g' ∈ new ∨ g' ∈ w.games := by
    intro g' hg'
    rw [hgames, List.append_assoc] at hg'
    rcases List.mem_append.1 hg' with hb | hrest
    · exact Or.inr (hold g' (List.mem_append_left _ hb))
    · rcases List.mem_append.1 hrest with hn | ha
      · exact Or.inl hn
      · exact Or.inr (hold g' (List.mem_append_right _ ha))
  have hgmem : g ∈ w.games := by rw [hsplit]; simp
  have hseats : w'.seats = before.flatMap GameEntity.seats ++ new.flatMap GameEntity.seats ++
      after.flatMap GameEntity.seats := by
    rw [World.seats, hgames, List.flatMap_append, List.flatMap_append]
  exact
    { cardKeys := hkeys ▸ h.cardKeys
      playerKeys := hids ▸ h.playerKeys
      gameKeys := by
        have hnd := h.gameKeys
        rw [hsplit, List.map_append, List.map_cons] at hnd
        rw [hgames, List.map_append, List.map_append, List.append_assoc]
        exact hnd.sublist (((sublist_gameId hnew hone).append_right _).append_left _)
      playerSequence := by rw [hids, hnextPlayer]; exact h.playerSequence
      gameSequence := by
        intro g' hg'
        rw [hnextGame]
        rcases hcases g' hg' with hn | hw
        · rw [hnew g' hn]
          exact h.gameSequence g hgmem
        · exact h.gameSequence g' hw
      cardOwner := by rw [hids]; exact howner
      seatStored := by
        intro k hk
        rw [hids]
        obtain ⟨g', hg', hkg'⟩ := List.mem_flatMap.1 hk
        rcases hcases g' hg' with hn | hw
        · exact hstored k (List.mem_flatMap.2 ⟨g', hn, hkg'⟩)
        · exact h.seatStored k (List.mem_flatMap.2 ⟨g', hw, hkg'⟩)
      oneSeat := hseats ▸ hseat
      winnerSeated := by
        intro g' hg'
        rcases hcases g' hg' with hn | hw
        · exact hwinner g' hn
        · exact h.winnerSeated g' hw
      someSeat := by
        intro g' hg'
        rcases hcases g' hg' with hn | hw
        · exact hsome g' hn
        · exact h.someSeat g' hw }

/-- Seating a stored player who sits nowhere. -/
theorem seat (h : Tables w) {g : GameEntity} (hg : g ∈ w.games) (hplayer2 : g.player2 = none)
    {k : ℤ} (hstored : k ∈ w.playerIds) (hfree : k ∉ w.seats) : Tables (w.seat g k) := by
  obtain ⟨before, after, hsplit, hsave, -⟩ := Rows.exists_split GameEntity.gameId h.gameKeys hg
  have hgseats : g.seats = g.player1.toList := by simp [GameEntity.seats, hplayer2]
  have hnew : GameEntity.seats { g with player2 := some k } = g.seats ++ [k] := by
    rw [hgseats]
    rfl
  have hwseats : w.seats = before.flatMap GameEntity.seats ++ g.seats ++
      after.flatMap GameEntity.seats := by
    simp [World.seats, hsplit]
  refine h.replaceGame [{ g with player2 := some k }] hsplit ?_ ?_ le_rfl rfl rfl rfl rfl
    h.cardOwner ?_ ?_ ?_ ?_
  · show Rows.save GameEntity.gameId { g with player2 := some k } w.games = _
    rw [hsave { g with player2 := some k } rfl]
    simp
  · intro g' hg'
    rw [List.mem_singleton.1 hg']
  · intro j hj
    rw [List.flatMap_singleton, hnew] at hj
    rcases List.mem_append.1 hj with hold | hk
    · exact h.seatStored j (List.mem_flatMap.2 ⟨g, hg, hold⟩)
    · rw [List.mem_singleton.1 hk]
      exact hstored
  · have hperm : (before.flatMap GameEntity.seats ++ (g.seats ++ [k]) ++
        after.flatMap GameEntity.seats).Perm (k :: w.seats) := by
      rw [hwseats]
      have hmiddle : (before.flatMap GameEntity.seats ++ g.seats ++
          k :: after.flatMap GameEntity.seats).Perm (k :: (before.flatMap GameEntity.seats ++
            g.seats ++ after.flatMap GameEntity.seats)) := List.perm_middle
      simpa using hmiddle
    rw [List.flatMap_singleton, hnew, hperm.nodup_iff]
    exact List.nodup_cons.2 ⟨hfree, h.oneSeat⟩
  · intro g' hg' j hj
    rw [List.mem_singleton.1 hg'] at hj ⊢
    rw [hnew]
    exact List.mem_append_left _ (h.winnerSeated g hg j hj)
  · intro g' hg'
    rw [List.mem_singleton.1 hg', hnew]
    simp

/-! ## Leaving -/

/-- A key refers to a stored player exactly if it is the player's. -/
theorem playerOf_eq_some (h : Tables w) {player : PlayersEntity} (hplayer : player ∈ w.players)
    {key : Option ℤ} :
    GameService.playerOf w.players key = some player ↔ key = some player.playerId := by
  cases key with
  | none => simp [GameService.playerOf]
  | some k =>
      show PlayerRepository.rowOf w.players k = some player ↔ _
      rw [PlayerRepository.rowOf, Rows.find?_key_eq_some PlayersEntity.playerId h.playerKeys]
      simp [hplayer, eq_comm]

/-- The first half of `leaveGame`: nothing happens to a game the player is not
in; otherwise the player's seat is emptied, the winner is who is left, and the
cards are dealt to who is left. -/
theorem vacated_cases (h : Tables w) (rows shuffle : CardOrder) {player : PlayersEntity}
    (hplayer : player ∈ w.players) (game : GameEntity) :
    (player.playerId ∉ game.seats ∧ vacated rows shuffle player game w = (game, w)) ∨
    ∃ game', vacated rows shuffle player game w =
        (game', { w with cards := reDealt rows shuffle game'.player1 game'.player2 w.cards }) ∧
      game'.gameId = game.gameId ∧ game.seats.Perm (player.playerId :: game'.seats) ∧
      ∀ k, game'.winner = some k → k ∈ game'.seats := by
  simp only [vacated, h.playerOf_eq_some hplayer]
  by_cases h1 : game.player1 = some player.playerId
  · rw [if_pos h1]
    refine Or.inr ⟨_, rfl, rfl, ?_, ?_⟩
    · simp [GameEntity.seats, h1]
    · intro k hk
      simp only at hk
      simp [GameEntity.seats, hk]
  rw [if_neg h1]
  by_cases h2 : game.player2 = some player.playerId
  · rw [if_pos h2]
    refine Or.inr ⟨_, rfl, rfl, ?_, ?_⟩
    · simp only [GameEntity.seats, h2, Option.toList_some, Option.toList_none, List.append_nil]
      exact List.perm_append_singleton _ _
    · intro k hk
      simp only at hk
      simp [GameEntity.seats, hk]
  · rw [if_neg h2]
    refine Or.inl ⟨?_, rfl⟩
    simp [GameEntity.seats, h1, h2]

/-- The row that is left of a closed game: none if nobody sits in it. -/
def closed (game : GameEntity) : List GameEntity :=
  if game.player1 = none ∧ game.player2 = none then [] else [{ game with gameState := .gameEnded }]

theorem seats_closed (game : GameEntity) : (closed game).flatMap GameEntity.seats = game.seats := by
  unfold closed
  split_ifs with hempty
  · simp [GameEntity.seats, hempty.1, hempty.2]
  · rw [List.flatMap_singleton]
    rfl

theorem mem_closed {game g : GameEntity} (hg : g ∈ closed game) :
    g = { game with gameState := .gameEnded } ∧ g.seats ≠ [] := by
  unfold closed at hg
  split_ifs at hg with hempty
  · exact absurd hg List.not_mem_nil
  · rw [List.mem_singleton] at hg
    subst hg
    refine ⟨rfl, fun hseats => hempty ?_⟩
    simpa [GameEntity.seats, List.append_eq_nil_iff, Option.toList_eq_nil_iff] using hseats

theorem games_closeGame (hkeys : (w.games.map GameEntity.gameId).Nodup) {g g' : GameEntity}
    (hg : g ∈ w.games) (hid : g'.gameId = g.gameId) :
    ∃ before after, w.games = before ++ g :: after ∧
      (w.closeGame g').games = before ++ closed g' ++ after := by
  obtain ⟨before, after, hsplit, hsave, hdelete⟩ := Rows.exists_split GameEntity.gameId hkeys hg
  refine ⟨before, after, hsplit, ?_⟩
  unfold World.closeGame closed
  split_ifs with hempty
  · show w.games.filter (fun x => x.gameId ≠ g'.gameId) = _
    rw [hid, hdelete, List.append_nil]
  · show Rows.save GameEntity.gameId { g' with gameState := .gameEnded } w.games = _
    rw [hsave { g' with gameState := .gameEnded } hid]
    simp

/-- Closing a game whose `left` players have gone: the invariant holds, and
they sit nowhere any more. -/
theorem closeGame (h : Tables w) {g g' : GameEntity} (hg : g ∈ w.games)
    (hid : g'.gameId = g.gameId) (left : List ℤ) (hleft : g.seats.Perm (left ++ g'.seats))
    (hwinner : ∀ k, g'.winner = some k → k ∈ g'.seats) (cards : List CardsEntity)
    (hkeys : cards.map CardsEntity.cardId = w.cards.map CardsEntity.cardId)
    (howner : ∀ c ∈ cards, ∀ k, c.players = some k → k ∈ w.playerIds) :
    Tables ({ w with cards := cards }.closeGame g') ∧
      ∀ k ∈ left, k ∉ ({ w with cards := cards }.closeGame g').seats := by
  obtain ⟨before, after, hsplit, hgames⟩ :=
    games_closeGame (w := { w with cards := cards }) h.gameKeys hg hid
  simp only at hsplit
  -- the seats of the old table are those of the new one, and those left
  have hperm : w.seats.Perm (left ++ (before.flatMap GameEntity.seats ++ g'.seats ++
      after.flatMap GameEntity.seats)) := by
    have hw : w.seats = before.flatMap GameEntity.seats ++ g.seats ++
        after.flatMap GameEntity.seats := by
      simp [World.seats, hsplit]
    rw [hw]
    refine ((hleft.append_left _).append_right _).trans ?_
    rw [← List.append_assoc, ← List.append_assoc, ← List.append_assoc]
    exact ((List.perm_append_comm.append_right _).append_right _)
  have hnd := hperm.nodup_iff.1 h.oneSeat
  obtain ⟨-, hrest, hdisj⟩ := List.nodup_append.1 hnd
  have hstored : ∀ k ∈ g'.seats, k ∈ w.playerIds := by
    intro k hk
    refine h.seatStored k (List.mem_flatMap.2 ⟨g, hg, ?_⟩)
    exact hleft.mem_iff.2 (List.mem_append_right _ hk)
  have hframe := World.closeGame_frame { w with cards := cards } g'
  have hcards := World.cards_closeGame { w with cards := cards } g'
  constructor
  · refine h.replaceGame (closed g') hsplit hgames (fun g₀ hg₀ => ?_) ?_
      (by rw [hframe]) (by rw [hframe]) (by rw [hframe]) ?_ ?_ ?_ ?_ (fun g₀ hg₀ => ?_)
      (fun g₀ hg₀ => (mem_closed hg₀).2)
    · rw [(mem_closed hg₀).1]
      exact hid
    · unfold closed
      split_ifs <;> simp
    · rw [hcards]
      exact hkeys
    · rw [hcards]
      exact howner
    · rw [seats_closed]
      exact hstored
    · rw [seats_closed]
      exact hrest
    · rw [(mem_closed hg₀).1]
      exact hwinner
  · intro k hk hmem
    rw [World.seats, hgames, List.flatMap_append, List.flatMap_append, seats_closed] at hmem
    exact hdisj k hk k hmem rfl

/-- The four columns with a foreign key, in terms of owners, seats and
winners. -/
theorem referenced_eq_false {k : ℤ} :
    PlayerRepository.referenced w k = false ↔
      (∀ c ∈ w.cards, c.players ≠ some k) ∧ k ∉ w.seats ∧ ∀ g ∈ w.games, g.winner ≠ some k := by
  simp only [PlayerRepository.referenced, Bool.or_eq_false_iff, List.any_eq_false,
    Bool.or_eq_true, decide_eq_true_eq, not_or, World.seats, List.mem_flatMap, GameEntity.seats,
    List.mem_append, Option.mem_toList, not_exists, not_and]
  constructor
  · rintro ⟨hcards, hgames⟩
    exact ⟨hcards, fun g hg => (hgames g hg).1, fun g hg => (hgames g hg).2⟩
  · rintro ⟨hcards, hseats, hwinner⟩
    exact ⟨hcards, fun g hg => ⟨hseats g hg, hwinner g hg⟩⟩

/-- **What leaving does to the tables.**  After a player's seat was emptied and
the game was closed the invariant holds, and nothing refers to the player if the
player was in the game. -/
theorem leave (h : Tables w) (rows shuffle : CardOrder) {game : GameEntity} (hgame : game ∈ w.games)
    {player : PlayersEntity} (hplayer : player ∈ w.players) :
    Tables ((vacated rows shuffle player game w).2.closeGame
      (vacated rows shuffle player game w).1) ∧
    (player.playerId ∈ game.seats →
      PlayerRepository.referenced ((vacated rows shuffle player game w).2.closeGame
        (vacated rows shuffle player game w).1) player.playerId = false) := by
  rcases h.vacated_cases rows shuffle hplayer game with
    ⟨hnot, hvacated⟩ | ⟨game', hvacated, hid, hperm, hwinner⟩ <;> rw [hvacated]
  · have hclose := h.closeGame hgame rfl [] (List.Perm.refl _) (h.winnerSeated game hgame) w.cards
      rfl h.cardOwner
    exact ⟨hclose.1, fun hin => absurd hin hnot⟩
  · have howner : ∀ c ∈ reDealt rows shuffle game'.player1 game'.player2 w.cards, ∀ k,
        c.players = some k → k ∈ game'.seats := by
      intro c hc k hk
      rcases (of_mem_reDealt hc).2 with hc | hc <;> rw [hc] at hk <;> simp [GameEntity.seats, hk]
    have hstored : ∀ k ∈ game'.seats, k ∈ w.playerIds := by
      intro k hk
      refine h.seatStored k (List.mem_flatMap.2 ⟨game, hgame, ?_⟩)
      exact hperm.mem_iff.2 (List.mem_cons_of_mem _ hk)
    obtain ⟨htables, hgone⟩ := h.closeGame hgame hid [player.playerId] hperm hwinner _
      (map_cardId_reDealt rows shuffle _ _ w.cards) fun c hc k hk => hstored k (howner c hc k hk)
    refine ⟨htables, fun _ => referenced_eq_false.2 ?_⟩
    have hseat := hgone player.playerId (List.mem_singleton_self _)
    refine ⟨fun c hc hk => ?_, hseat, fun g hg hk => ?_⟩
    · -- the cards belong to who is left, and the seats left are not the player's
      have hcards : c ∈ reDealt rows shuffle game'.player1 game'.player2 w.cards := by
        rw [World.cards_closeGame] at hc
        exact hc
      have hnodup : (player.playerId :: game'.seats).Nodup := by
        refine hperm.nodup_iff.1 ?_
        obtain ⟨before, after, hsplit⟩ := List.append_of_mem hgame
        have hone := h.oneSeat
        rw [World.seats, hsplit, List.flatMap_append, List.flatMap_cons] at hone
        exact (List.nodup_append.1 (List.nodup_append.1 hone).2.1).1
      exact (List.nodup_cons.1 hnodup).1 (howner c hcards _ hk)
    · exact hseat (List.mem_flatMap.2 ⟨g, hg, htables.winnerSeated g hg _ hk⟩)

theorem dropPlayer (h : Tables w) {player : PlayersEntity}
    (hfree : PlayerRepository.referenced w player.playerId = false) :
    Tables (w.dropPlayer player) := by
  obtain ⟨hcards, hseats, -⟩ := referenced_eq_false.1 hfree
  have hids : ∀ k, k ∈ (w.dropPlayer player).playerIds ↔ k ∈ w.playerIds ∧ k ≠ player.playerId := by
    intro k
    simp only [World.playerIds, World.dropPlayer, List.mem_map, List.mem_filter, decide_eq_true_eq]
    constructor
    · rintro ⟨p, ⟨hp, hne⟩, rfl⟩
      exact ⟨⟨p, hp, rfl⟩, hne⟩
    · rintro ⟨⟨p, hp, rfl⟩, hne⟩
      exact ⟨p, ⟨hp, hne⟩, rfl⟩
  exact
    { cardKeys := h.cardKeys
      playerKeys := h.playerKeys.sublist (List.filter_sublist.map _)
      gameKeys := h.gameKeys
      playerSequence := fun k hk => h.playerSequence k ((hids k).1 hk).1
      gameSequence := h.gameSequence
      cardOwner := fun c hc k hk =>
        (hids k).2 ⟨h.cardOwner c hc k hk, fun heq => hcards c hc (heq ▸ hk)⟩
      seatStored := fun k hk => (hids k).2 ⟨h.seatStored k hk, fun heq => hseats (heq ▸ hk)⟩
      oneSeat := h.oneSeat
      winnerSeated := h.winnerSeated
      someSeat := h.someSeat }

/-! ## Every request keeps the tables well formed -/

theorem newPlayerId_free (h : Tables w) : w.nextPlayerId ∉ w.seats := fun hmem =>
  h.newPlayerId_not_mem (h.seatStored _ hmem)

theorem step (h : Tables w) {call : Call} (hstep : Step w call w') : Tables w' := by
  have hsend : ∀ {v : World} (ms : List Message), Tables v → Tables (v.send ms) := fun _ hv =>
    hv.sameTables rfl rfl rfl rfl rfl
  have hnew : ∀ name session, w.nextPlayerId ∈ (w.addPlayer name session).playerIds := by
    intro name session
    simp [World.playerIds, World.addPlayer, World.newPlayer]
  have hputDown : ∀ c ∈ w.cards, Tables (w.saveCard c.setPlayed) := fun c hc =>
    h.round (RoundFrame.saveCard hc)
  have hround : ∀ player1Id player2Id gameId, ∀ c ∈ w.cards,
      Tables (gameRound call.rows player1Id player2Id gameId (w.putDown2 c.setPlayed)).2 := by
    intro player1Id player2Id gameId c hc
    have hdown : Tables (w.putDown2 c.setPlayed) := (hputDown c hc).sameTables rfl rfl rfl rfl rfl
    exact hdown.round (gameRound_frame call.rows player1Id player2Id gameId _)
  cases hstep with
  | unchanged ms => exact hsend ms h
  | create request name session hrequest hcolumns =>
      exact (h.addPlayer name session).addGame (hnew name session) h.newPlayerId_free
  | joinFull request gameId name session game => exact h.addPlayer name session
  | join request gameId name session game hrequest hid hcolumns hgame hplayer1 hplayer2 =>
      exact (h.addPlayer name session).seat (mem_of_rowOf hgame).1 hplayer2 (hnew name session)
        h.newPlayerId_free
  | deal session player hand hrequest hplayer hhand =>
      refine h.deal (fun k hk => ?_) hand
      cases player with
      | none => cases hk
      | some p =>
          cases hk
          exact List.mem_map_of_mem (mem_of_sessionLookup hplayer).2.1
  | play1 playerId c hrequest hc => exact (hputDown c hc).sameTables rfl rfl rfl rfl rfl
  | roundFailed player1Id player2Id gameId c e _ hrequest hc howner hunplayed hturn hfailed =>
      have htables := hround player1Id player2Id gameId c hc
      rw [hfailed] at htables
      exact htables
  | round player1Id player2Id gameId c v ms hrequest hc howner hunplayed hturn hok =>
      have htables := hround player1Id player2Id gameId c hc
      rw [hok] at htables
      exact htables.sameTables rfl rfl rfl rfl rfl
  | leaveRefused gameId session game player ms hrequest hgame hplayer hreferenced =>
      exact hsend ms (h.leave call.rows call.shuffle (mem_of_rowOf hgame).1
        (mem_of_sessionLookup hplayer).2.1).1
  | leave gameId session game player ms hrequest hgame hplayer hreferenced =>
      have hleave := (h.leave call.rows call.shuffle (mem_of_rowOf hgame).1
        (mem_of_sessionLookup hplayer).2.1).1
      exact (hleave.dropPlayer hreferenced).sameTables rfl rfl rfl rfl rfl

theorem quiet (h : Tables w) : Tables w.quiet := h.sameTables rfl rfl rfl rfl rfl

end Tables

/-- The tables are well formed after every sequence of requests. -/
theorem tables_run (deck : Deck) (calls : List Call) :
    Tables (server.run (World.initial deck) calls) :=
  Machine.run_invariant (fun w call h => h.quiet.step (step_next w call)) (Tables.initial deck)
    calls

/-- A session held by one row is found. -/
theorem sessionLookup_singleton {players : List PlayersEntity} {session : Option String}
    {player : PlayersEntity} (h : players.filter (fun p => p.sessionId = session) = [player]) :
    sessionLookup players session = .ok (some player) := by
  rw [sessionLookup, h]

/-- **The game table stays well formed, and a participant can always leave.**
After any requests: a player fills at most one slot over all games, a stored
winner is one of the two current players, and no stored game is empty.  So when
a session held by one row names a player in a slot of the game, the request to
leave ends without an error, with the player's row deleted and nothing referring
to it. -/
theorem game_table_wellFormed_and_leave_succeeds (deck : Deck) (calls : List Call) :
    let w := server.run (World.initial deck) calls
    w.seats.Nodup ∧
    (∀ g ∈ w.games, g.winner = none ∨ g.winner = g.player1 ∨ g.winner = g.player2) ∧
    (∀ g ∈ w.games, g.player1 ≠ none ∨ g.player2 ≠ none) ∧
    ∀ (call : Call) (gameId : ℤ) (session : Option String) (player : PlayersEntity)
      (game : GameEntity),
      call.request = .leaveGame ⟨some gameId, session⟩ →
      w.players.filter (fun p => p.sessionId = session) = [player] →
      GameRepository.rowOf w.games gameId = some game →
      player.playerId ∈ game.seats →
      (server.out w call).response = .ok .leaveGame ∧
        player.playerId ∉ (server.next w call).playerIds ∧
        PlayerRepository.referenced (server.next w call) player.playerId = false := by
  intro w
  have htables : Tables w := tables_run deck calls
  refine ⟨htables.oneSeat, ?_, ?_, ?_⟩
  · intro g hg
    rcases hwinner : g.winner with _ | k
    · exact Or.inl rfl
    · have hseat := htables.winnerSeated g hg k hwinner
      simp only [GameEntity.seats, List.mem_append, Option.mem_toList] at hseat
      rcases hseat with h1 | h2
      · exact Or.inr (Or.inl h1.symm)
      · exact Or.inr (Or.inr h2.symm)
  · intro g hg
    by_contra hnone
    rw [not_or, not_not, not_not] at hnone
    exact htables.someSeat g hg (by simp [GameEntity.seats, hnone.1, hnone.2])
  · intro call gameId session player game hrequest hsession hgame hin
    have hlookup : sessionLookup w.quiet.players session = .ok (some player) :=
      sessionLookup_singleton hsession
    have hrow : GameRepository.rowOf w.quiet.games gameId = some game := hgame
    have hfree := (htables.quiet.leave call.rows call.shuffle (Tables.mem_of_rowOf hrow).1
      (mem_of_sessionLookup hlookup).2.1).2 hin
    have hservice := leaveGame_found call.rows call.shuffle hrow hlookup
    simp only [hfree, Bool.false_eq_true, if_false] at hservice
    obtain ⟨ms, hstate⟩ := leaveGame_state call.rows call.shuffle ⟨some gameId, session⟩ w.quiet
    have hresult := leaveGame_ok (by rw [hservice])
    rw [hservice] at hstate
    rw [response_leaveGame hrequest, hresult, next_leaveGame hrequest, hstate]
    refine ⟨rfl, ?_, hfree⟩
    simp [World.playerIds, World.send, World.reset, World.dropPlayer]

end WarCardGame
