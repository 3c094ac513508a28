import WarCardGame.Model.Tasks
import WarCardGame.Service.Requests

/-!
# Joins that overlap

Several clients join one game at the same time.  Each join looks at the seat and
takes it with two separate calls, and between the two the other joins may make
calls of their own.

* `JoinStage` — where a join stands: the call it makes next, or its end.
* `Joining` — what holds of all the joins together, along any interleaving.
* `one_join_wins_iff` — the seat goes to one client exactly when no second join
  looks at it before the first one has taken it.
* `two_joins_win` — two clients that look before either takes the seat are both
  told that they have it.
-/

namespace WarCardGame

open Lib

/-! ## The stages of a join -/

/-- Where the join of a stored game stands. -/
inductive JoinStage where
  /-- The controller looks for the game next. -/
  | lookup
  /-- The player is stored next. -/
  | create
  /-- The service looks at the seat next. -/
  | check (player2 : PlayersEntity)
  /-- The seat was free, and the game is saved next. -/
  | save (player2 : PlayersEntity)
  /-- The client is told that the seat is theirs. -/
  | found (player2 : PlayersEntity)
  /-- There was no seat. -/
  | refused
  /-- The schema did not accept the player. -/
  | rejected

namespace JoinStage

/-- What is left of the controller's work after the service is done. -/
def answer (request : JoinGameRequest) (game : Option GameEntity) :
    Task World Failure JoinResponse := do
  let game ← Task.orThrow .nullPointerException game
  return { gameId := some game.gameId, joinedPlayerSessionId := request.sessionId, isFound := true }

/-- What is left of the join. -/
def task (game : GameEntity) (request : JoinGameRequest) :
    JoinStage → Task World Failure JoinResponse
  | lookup => GameController.joinGameTask request
  | create => do
      let player2 ← Task.atomic (PlayerService.createNewPlayer request.username request.sessionId)
      let game ← GameService.joinGameTask request.gameId player2
      answer request game
  | check player2 => do
      let game ← GameService.joinGameTask request.gameId player2
      answer request game
  | save player2 => do
      Task.atomic (GameRepository.save { game with player2 := some player2.playerId })
      answer request (some { game with player2 := some player2.playerId })
  | found _ =>
      .done (.ok { gameId := some game.gameId, joinedPlayerSessionId := request.sessionId,
                   isFound := true })
  | refused => .done (.error .nullPointerException)
  | rejected => .done (.error .dataIntegrityViolationException)

/-- The seat was free when the join looked at it. -/
def sawSeat : JoinStage → Bool
  | save _ => true
  | found _ => true
  | _ => false

variable {game row : GameEntity} {request : JoinGameRequest} {w : World}

theorem findById_apply (hid : request.gameId = some game.gameId)
    (hrow : GameRepository.rowOf w.games game.gameId = some row) :
    GameRepository.findById request.gameId w = (.ok (some row), w) := by
  rw [hid, ← hrow]
  rfl

theorem step_lookup (hid : request.gameId = some game.gameId)
    (hrow : GameRepository.rowOf w.games game.gameId = some row) :
    (lookup.task game request).step w = (create.task game request, w) :=
  Task.step_ok (findById_apply hid hrow)

/-- The player is stored, unless the schema rejects the row. -/
theorem step_create (game : GameEntity) (request : JoinGameRequest) (w : World) :
    (PlayerRepository.columns request.username request.sessionId = none ∧
      (create.task game request).step w = (rejected.task game request, w)) ∨
    ∃ given name session,
      PlayerRepository.columns request.username request.sessionId = some (name, session) ∧
      (create.task game request).step w =
        ((check (w.newPlayer given request.sessionId)).task game request,
          w.addPlayer name session) := by
  rcases createNewPlayer_cases request.username request.sessionId w with
    ⟨hno, h⟩ | ⟨given, name, session, hyes, h⟩
  · exact Or.inl ⟨hno, Task.step_error h⟩
  · exact Or.inr ⟨given, name, session, hyes, Task.step_ok h⟩

/-- The seat is free, or it is not. -/
theorem step_check (hid : request.gameId = some game.gameId) (player2 : PlayersEntity)
    (hrow : GameRepository.rowOf w.games game.gameId = some row) :
    ((check player2).task game request).step w =
      (if row.player1 ≠ none ∧ row.player2 = none then (save player2).task row request
        else refused.task game request, w) := by
  show (GameService.joinGameTask request.gameId player2 >>= answer request).step w = _
  rw [GameService.joinGameTask, Task.bind_bind, Task.step_ok (findById_apply hid hrow)]
  simp only
  split_ifs
  · rfl
  · rfl

theorem step_save (player2 : PlayersEntity) :
    ((save player2).task game request).step w =
      ((found player2).task game request, w.seat game player2.playerId) := rfl

end JoinStage

/-- The schema takes the player of the request. -/
def JoinGameRequest.accepted (request : JoinGameRequest) : Bool :=
  (PlayerRepository.columns request.username request.sessionId).isSome

/-- What is known of a join at a stage, `n` calls after its start, when `mine` are the keys
of the rows it has stored and the second seat of the game is `seat`. -/
def JoinStage.Fits (game : GameEntity) (request : JoinGameRequest) (n : ℕ) (mine : ℤ → Prop)
    (seat : Option ℤ) : JoinStage → Prop
  | lookup => n = 0
  | create => n = 1
  | check player2 => n = 2 ∧ request.accepted = true ∧ mine player2.playerId
  | save player2 => n = 3 ∧ request.accepted = true ∧ mine player2.playerId ∧ game.player1 ≠ none
  | found player2 => 4 ≤ n ∧ request.accepted = true ∧ mine player2.playerId ∧
      game.player1 ≠ none ∧ seat ≠ none
  | refused => 3 ≤ n ∧ request.accepted = true ∧ (game.player1 = none ∨ seat ≠ none)
  | rejected => 2 ≤ n ∧ request.accepted = false

/-- More rows, and a seat that was taken: what was known stays true. -/
theorem JoinStage.Fits.mono {game : GameEntity} {request : JoinGameRequest} {n : ℕ}
    {mine mine' : ℤ → Prop} {seat seat' : Option ℤ} {stage : JoinStage}
    (h : stage.Fits game request n mine seat) (hmine : ∀ k, mine k → mine' k)
    (hseat : seat ≠ none → seat' ≠ none) : stage.Fits game request n mine' seat' := by
  cases stage with
  | lookup => exact h
  | create => exact h
  | check player2 => exact ⟨h.1, h.2.1, hmine _ h.2.2⟩
  | save player2 => exact ⟨h.1, h.2.1, hmine _ h.2.2.1, h.2.2.2⟩
  | found player2 =>
      obtain ⟨hn, haccepted, hkey, hplayer1, htaken⟩ := h
      exact ⟨hn, haccepted, hmine _ hkey, hplayer1, hseat htaken⟩
  | refused => exact ⟨h.1, h.2.1, h.2.2.imp_right hseat⟩
  | rejected => exact h

/-! ## The joins together -/

section Pool

variable {ι : Type} [DecidableEq ι]

/-- The joins as they start. -/
def joins (w : World) (requests : ι → JoinGameRequest) : Pool ι World Failure JoinResponse :=
  ⟨w, fun i => GameController.joinGameTask (requests i)⟩

/-- The row was stored by join `i`: with its second call, under the key that was next then. -/
def CreatedBy (w : World) (requests : ι → JoinGameRequest) (calls : List ι) (i : ι)
    (row : PlayersEntity) : Prop :=
  ∃ pre, pre ++ [i] <+: calls ∧ pre.count i = 1 ∧
    PlayerRepository.columns (requests i).username (requests i).sessionId =
      some (row.username, row.sessionId) ∧
    row.playerId = (pool.run (joins w requests) pre).state.nextPlayerId

/-- Join `i` has stored a row with this key. -/
def StoredKey (created : List (ι × PlayersEntity)) (i : ι) (k : ℤ) : Prop :=
  ∃ row, (i, row) ∈ created ∧ row.playerId = k

/-- **What holds along any interleaving.**  `calls` are the calls made so far, by
the request that made them, and `created` the rows stored so far, with the request that
stored each. -/
structure Joining (w₀ : World) (game : GameEntity) (requests : ι → JoinGameRequest)
    (calls : List ι) (P : Pool ι World Failure JoinResponse) (stage : ι → JoinStage)
    (created : List (ι × PlayersEntity)) (seat : Option ℤ) : Prop where
  run : P = pool.run (joins w₀ requests) calls
  tasks : ∀ i, P.tasks i = (stage i).task game (requests i)
  players : P.state.players = w₀.players ++ created.map Prod.snd
  keys : (created.map fun x => x.2.playerId).Nodup
  issued : ∀ x ∈ created, x.2.playerId < P.state.nextPlayerId
  creators : ∀ x ∈ created, CreatedBy w₀ requests calls x.1 x.2
  row : GameRepository.rowOf P.state.games game.gameId = some { game with player2 := seat }
  fits : ∀ i, (stage i).Fits game (requests i) (calls.count i) (StoredKey created i) seat
  taken : ∀ k, seat = some k → ∃ i player2, stage i = .found player2 ∧ player2.playerId = k

variable {w₀ : World} {game : GameEntity} {requests : ι → JoinGameRequest}

theorem Joining.start (hgame : GameRepository.rowOf w₀.games game.gameId = some game)
    (hempty : game.player2 = none) :
    Joining w₀ game requests [] (joins w₀ requests) (fun _ => .lookup) [] none where
  run := rfl
  tasks := fun _ => rfl
  players := (List.append_nil _).symm
  keys := List.nodup_nil
  issued := by simp
  creators := by simp
  row := by
    rw [← hempty]
    exact hgame
  fits := fun _ => List.count_nil
  taken := by simp

variable {calls : List ι} {P : Pool ι World Failure JoinResponse} {stage : ι → JoinStage}
  {created : List (ι × PlayersEntity)} {seat : Option ℤ}

theorem count_snoc_self (calls : List ι) (i : ι) :
    (calls ++ [i]).count i = calls.count i + 1 := by
  simp

theorem count_snoc_ne {i j : ι} (calls : List ι) (h : j ≠ i) :
    (calls ++ [i]).count j = calls.count j := by
  simp [h.symm]

/-- A call of one join, from what it does to that join. -/
theorem Joining.update (h : Joining w₀ game requests calls P stage created seat) {i : ι}
    {stage' : JoinStage} {created' : List (ι × PlayersEntity)} {seat' : Option ℤ}
    (hstep : ((P.tasks i).step P.state).1 = stage'.task game (requests i))
    (hplayers : ((P.tasks i).step P.state).2.players = w₀.players ++ created'.map Prod.snd)
    (hkeys : (created'.map fun x => x.2.playerId).Nodup)
    (hissued : ∀ x ∈ created', x.2.playerId < ((P.tasks i).step P.state).2.nextPlayerId)
    (hcreators : ∀ x ∈ created', x ∈ created ∨ CreatedBy w₀ requests (calls ++ [i]) x.1 x.2)
    (hrow : GameRepository.rowOf ((P.tasks i).step P.state).2.games game.gameId =
      some { game with player2 := seat' })
    (hcreated : created ⊆ created') (hseat : seat ≠ none → seat' ≠ none)
    (hfits : stage'.Fits game (requests i) (calls.count i + 1) (StoredKey created' i) seat')
    (hkeeps : ∀ player2, stage i = .found player2 → stage' = .found player2)
    (htaken : seat' = seat ∨ ∃ player2, stage' = .found player2 ∧ seat' = some player2.playerId) :
    Joining w₀ game requests (calls ++ [i]) (pool.next P i) (Function.update stage i stage')
      created' seat' where
  run := by
    rw [Machine.run_append, ← h.run]
    rfl
  tasks := by
    intro j
    by_cases hj : j = i
    · subst hj
      rw [Pool.next_tasks_self, Function.update_self, hstep]
    · rw [Pool.next_tasks_ne P i hj, Function.update_of_ne hj, h.tasks j]
  players := hplayers
  keys := hkeys
  issued := hissued
  creators := by
    intro x hx
    rcases hcreators x hx with hold | hnew
    · obtain ⟨pre, hpre, hstored⟩ := h.creators x hold
      exact ⟨pre, hpre.trans (List.prefix_append ..), hstored⟩
    · exact hnew
  row := hrow
  fits := by
    intro j
    by_cases hj : j = i
    · subst hj
      rw [Function.update_self, count_snoc_self]
      exact hfits
    · rw [Function.update_of_ne hj, count_snoc_ne calls hj]
      refine (h.fits j).mono (fun k => ?_) hseat
      rintro ⟨row, hmem, hkey⟩
      exact ⟨row, hcreated hmem, hkey⟩
  taken := by
    intro k hk
    rcases htaken with hsame | ⟨player2, hstage', hseat'⟩
    · obtain ⟨j, player2, hj, hkey⟩ := h.taken k (hsame ▸ hk)
      by_cases hji : j = i
      · subst hji
        exact ⟨j, player2, by rw [Function.update_self, hkeeps player2 hj], hkey⟩
      · exact ⟨j, player2, by rw [Function.update_of_ne hji, hj], hkey⟩
    · rw [hseat', Option.some.injEq] at hk
      exact ⟨i, player2, by rw [Function.update_self, hstage'], hk⟩

/-- A call that writes nothing. -/
theorem Joining.read (h : Joining w₀ game requests calls P stage created seat) {i : ι}
    {stage' : JoinStage}
    (hstep : (P.tasks i).step P.state = (stage'.task game (requests i), P.state))
    (hfits : stage'.Fits game (requests i) (calls.count i + 1) (StoredKey created i) seat)
    (hkeeps : ∀ player2, stage i = .found player2 → stage' = .found player2) :
    Joining w₀ game requests (calls ++ [i]) (pool.next P i) (Function.update stage i stage')
      created seat := by
  refine h.update (by rw [hstep]) (by rw [hstep]; exact h.players) h.keys
    (by rw [hstep]; exact h.issued) (fun x hx => Or.inl hx) (by rw [hstep]; exact h.row)
    (fun _ hx => hx) id hfits hkeeps (Or.inl rfl)

/-- The player of a join is stored, under a new key. -/
theorem Joining.create (h : Joining w₀ game requests calls P stage created seat) {i : ι}
    {given name : String} {session : Option String} (hstage : stage i = .create)
    (hcount : calls.count i = 1)
    (hcolumns : PlayerRepository.columns (requests i).username (requests i).sessionId =
      some (name, session))
    (hstep : (P.tasks i).step P.state =
      ((JoinStage.check (P.state.newPlayer given (requests i).sessionId)).task game (requests i),
        P.state.addPlayer name session)) :
    Joining w₀ game requests (calls ++ [i]) (pool.next P i)
      (Function.update stage i (.check (P.state.newPlayer given (requests i).sessionId)))
      (created ++ [(i, P.state.newPlayer name session)]) seat := by
  have hnew : P.state.nextPlayerId ∉ created.map fun x => x.2.playerId := by
    intro hmem
    obtain ⟨x, hx, hkey⟩ := List.mem_map.1 hmem
    exact absurd (h.issued x hx) (by rw [hkey]; exact lt_irrefl _)
  refine h.update (by rw [hstep]) ?_ ?_ ?_ ?_ ?_ (List.subset_append_left ..) id ?_
    (by simp [hstage]) (Or.inl rfl)
  · rw [hstep, List.map_append, ← List.append_assoc, ← h.players]
    rfl
  · rw [List.map_append, List.map_singleton, ← List.concat_eq_append]
    exact h.keys.concat hnew
  · intro x hx
    rw [hstep]
    rcases List.mem_append.1 hx with hold | hlast
    · exact (h.issued x hold).trans (lt_add_one _)
    · rw [List.mem_singleton.1 hlast]
      exact lt_add_one _
  · intro x hx
    rcases List.mem_append.1 hx with hold | hlast
    · exact Or.inl hold
    · rw [List.mem_singleton.1 hlast]
      exact Or.inr ⟨calls, List.prefix_refl _, hcount, hcolumns, by rw [← h.run]; rfl⟩
  · rw [hstep]
    exact h.row
  · refine ⟨by rw [hcount], ?_, P.state.newPlayer name session, by simp, rfl⟩
    rw [JoinGameRequest.accepted, hcolumns]
    rfl

/-- A join that saw the seat free takes it, whoever has taken it meanwhile. -/
theorem Joining.save (h : Joining w₀ game requests calls P stage created seat) {i : ι}
    {player2 : PlayersEntity} (hstage : stage i = .save player2)
    (hfits : (JoinStage.found player2).Fits game (requests i) (calls.count i + 1)
      (StoredKey created i) (some player2.playerId)) :
    Joining w₀ game requests (calls ++ [i]) (pool.next P i)
      (Function.update stage i (.found player2)) created (some player2.playerId) := by
  have hstep : (P.tasks i).step P.state =
      ((JoinStage.found player2).task game (requests i), P.state.seat game player2.playerId) := by
    rw [h.tasks i, hstage]
    exact JoinStage.step_save player2
  have hkey : game.gameId ∈ P.state.games.map GameEntity.gameId := by
    have hrow := List.mem_of_find?_eq_some h.row
    exact List.mem_map.2 ⟨_, hrow, rfl⟩
  refine h.update (by rw [hstep]) (by rw [hstep]; exact h.players) h.keys
    (by rw [hstep]; exact h.issued) (fun x hx => Or.inl hx) ?_ (fun _ hx => hx) (by simp) hfits
    (by simp [hstage]) (Or.inr ⟨player2, rfl, rfl⟩)
  rw [hstep]
  exact Rows.find?_save GameEntity.gameId (r := { game with player2 := some player2.playerId }) hkey

/-- **A call of one of the joins.**  A join that saw the seat goes on having seen
it, and one that looks at the seat sees it only while it is free. -/
theorem Joining.next (hid : ∀ i, (requests i).gameId = some game.gameId)
    (h : Joining w₀ game requests calls P stage created seat) (i : ι) :
    ∃ stage' created' seat',
      Joining w₀ game requests (calls ++ [i]) (pool.next P i) (Function.update stage i stage')
        created' seat' ∧
      ((stage i).sawSeat = true → stage'.sawSeat = true) ∧
      (stage'.sawSeat = true → (stage i).sawSeat = true ∨
        (calls.count i = 2 ∧ game.player1 ≠ none ∧ seat = none)) := by
  have htask := h.tasks i
  have hfits := h.fits i
  cases hstage : stage i with
  | lookup =>
      rw [hstage] at htask hfits
      refine ⟨.create, created, seat, h.read ?_ ?_ ?_, by simp [JoinStage.sawSeat],
        by simp [JoinStage.sawSeat]⟩
      · rw [htask, JoinStage.step_lookup (hid i) h.row]
      · exact congrArg (· + 1) hfits
      · simp [hstage]
  | create =>
      rw [hstage] at htask hfits
      have hcount : calls.count i = 1 := hfits
      rcases JoinStage.step_create game (requests i) P.state with
        ⟨hno, hstep⟩ | ⟨given, name, session, hyes, hstep⟩ <;> rw [← htask] at hstep
      · refine ⟨.rejected, created, seat, h.read hstep ⟨?_, ?_⟩ (by simp [hstage]),
          by simp [JoinStage.sawSeat], by simp [JoinStage.sawSeat]⟩
        · omega
        · rw [JoinGameRequest.accepted, hno]
          rfl
      · exact ⟨_, _, seat, h.create hstage hcount hyes hstep,
          by simp [JoinStage.sawSeat], by simp [JoinStage.sawSeat]⟩
  | check player2 =>
      rw [hstage] at htask hfits
      obtain ⟨hcount, haccepted, hkey⟩ := hfits
      have hstep := JoinStage.step_check (hid i) player2 h.row
      rw [← htask] at hstep
      by_cases hfree : game.player1 ≠ none ∧ seat = none
      · rw [if_pos hfree] at hstep
        refine ⟨.save player2, created, seat, h.read hstep ?_ (by simp [hstage]),
          by simp [JoinStage.sawSeat], fun _ => Or.inr ⟨hcount, hfree⟩⟩
        exact ⟨by rw [hcount], haccepted, hkey, hfree.1⟩
      · rw [if_neg hfree] at hstep
        refine ⟨.refused, created, seat, h.read hstep ?_ (by simp [hstage]),
          by simp [JoinStage.sawSeat], by simp [JoinStage.sawSeat]⟩
        rw [not_and_or, not_not] at hfree
        exact ⟨by rw [hcount], haccepted, hfree⟩
  | save player2 =>
      rw [hstage] at htask hfits
      obtain ⟨hcount, haccepted, hkey, hplayer1⟩ := hfits
      refine ⟨.found player2, created, some player2.playerId, h.save hstage ?_,
        by simp [JoinStage.sawSeat], by simp [JoinStage.sawSeat]⟩
      exact ⟨by rw [hcount], haccepted, hkey, hplayer1, by simp⟩
  | found player2 =>
      rw [hstage] at htask hfits
      obtain ⟨hcount, hrest⟩ := hfits
      refine ⟨.found player2, created, seat, h.read (by rw [htask]; rfl) ⟨by omega, hrest⟩
        (fun q hq => by rw [hstage] at hq; exact hq), id, Or.inl⟩
  | refused =>
      rw [hstage] at htask hfits
      obtain ⟨hcount, hrest⟩ := hfits
      exact ⟨.refused, created, seat, h.read (by rw [htask]; rfl) ⟨by omega, hrest⟩
        (by simp [hstage]), id, Or.inl⟩
  | rejected =>
      rw [hstage] at htask hfits
      obtain ⟨hcount, hrest⟩ := hfits
      exact ⟨.rejected, created, seat, h.read (by rw [htask]; rfl) ⟨by omega, hrest⟩
        (by simp [hstage]), id, Or.inl⟩

/-! ## Who is told that the seat is theirs -/

/-- The client was told that the seat is theirs. -/
def toldFound (t : Task World Failure JoinResponse) : Bool :=
  match t.result? with
  | some (.ok response) => response.isFound
  | _ => false

theorem Joining.toldFound_iff (h : Joining w₀ game requests calls P stage created seat) (i : ι) :
    toldFound (P.tasks i) = true ↔ ∃ player2, stage i = .found player2 := by
  rw [h.tasks i]
  cases stage i with
  | found player2 => exact ⟨fun _ => ⟨player2, rfl⟩, fun _ => rfl⟩
  | _ =>
      constructor
      · intro htold
        cases htold
      · rintro ⟨player2, hstage⟩
        cases hstage

/-- A join that is done and saw the seat was told so. -/
theorem Joining.toldFound_of_sawSeat (h : Joining w₀ game requests calls P stage created seat)
    {i : ι} (hdone : (P.tasks i).result?.isSome = true) (hsaw : (stage i).sawSeat = true) :
    toldFound (P.tasks i) = true := by
  rw [h.toldFound_iff]
  rw [h.tasks i] at hdone
  cases hstage : stage i with
  | found player2 => exact ⟨player2, rfl⟩
  | save player2 =>
      rw [hstage] at hdone
      cases hdone
  | _ =>
      rw [hstage] at hsaw
      cases hsaw

/-- With player 1 in the game, the seat is taken exactly when an accepted join
has made its fourth call. -/
theorem Joining.seat_iff (h : Joining w₀ game requests calls P stage created seat)
    (hplayer1 : game.player1 ≠ none) :
    seat ≠ none ↔ ∃ k, (requests k).accepted = true ∧ 4 ≤ calls.count k := by
  constructor
  · intro hseat
    obtain ⟨key, hkey⟩ := Option.ne_none_iff_exists'.1 hseat
    obtain ⟨k, player2, hk, -⟩ := h.taken key hkey
    have hfits := h.fits k
    rw [hk] at hfits
    exact ⟨k, hfits.2.1, hfits.1⟩
  · rintro ⟨k, haccepted, hcount⟩
    have hfits := h.fits k
    cases hk : stage k <;> rw [hk] at hfits
    case lookup => rw [show calls.count k = 0 from hfits] at hcount; omega
    case create => rw [show calls.count k = 1 from hfits] at hcount; omega
    case check player2 => have := hfits.1; omega
    case save player2 => have := hfits.1; omega
    case found player2 => exact hfits.2.2.2.2
    case refused => exact hfits.2.2.resolve_left hplayer1
    case rejected => cases haccepted.symm.trans hfits.2

/-- The seat is looked at with the third call. -/
theorem Joining.three_le (h : Joining w₀ game requests calls P stage created seat) {i : ι}
    (hsaw : (stage i).sawSeat = true) :
    (requests i).accepted = true ∧ 3 ≤ calls.count i ∧ game.player1 ≠ none := by
  have hfits := h.fits i
  cases hstage : stage i with
  | save player2 =>
      rw [hstage] at hfits
      exact ⟨hfits.2.1, hfits.1.ge, hfits.2.2.2⟩
  | found player2 =>
      rw [hstage] at hfits
      exact ⟨hfits.2.1, by have := hfits.1; omega, hfits.2.2.2.1⟩
  | _ =>
      rw [hstage] at hsaw
      cases hsaw

/-- No second join looks at the seat before the first one has taken it.  A join
that the schema takes looks with its third call and takes the seat with its
fourth, so: whenever two have looked, one has taken it. -/
def Orderly (requests : ι → JoinGameRequest) (schedule : List ι) : Prop :=
  ∀ pre, pre <+: schedule → ∀ i j, i ≠ j → (requests i).accepted = true →
    (requests j).accepted = true → 3 ≤ pre.count i → 3 ≤ pre.count j →
    ∃ k, (requests k).accepted = true ∧ 4 ≤ pre.count k

section Schedules

variable (hid : ∀ i, (requests i).gameId = some game.gameId)

include hid

/-- What joins have seen they have seen at the end. -/
theorem sawSeat_run {i j : ι} (h : Joining w₀ game requests calls P stage created seat)
    (hi : (stage i).sawSeat = true) (hj : (stage j).sawSeat = true) (post : List ι) :
    ∃ calls' stage' created' seat',
      Joining w₀ game requests calls' (pool.run P post) stage' created' seat' ∧
      (stage' i).sawSeat = true ∧ (stage' j).sawSeat = true := by
  refine Machine.run_invariant (M := pool)
    (I := fun P => ∃ calls stage created seat,
      Joining w₀ game requests calls P stage created seat ∧ (stage i).sawSeat = true ∧
        (stage j).sawSeat = true) ?_ ⟨calls, stage, created, seat, h, hi, hj⟩ post
  rintro P k ⟨calls, stage, created, seat, h, hi, hj⟩
  obtain ⟨stage', created', seat', h', hkeeps, -⟩ := h.next hid k
  have hsaw : ∀ a, (stage a).sawSeat = true →
      (Function.update stage k stage' a).sawSeat = true := by
    intro a ha
    by_cases hak : a = k
    · subst hak
      rw [Function.update_self]
      exact hkeeps ha
    · rw [Function.update_of_ne hak]
      exact ha
  exact ⟨_, _, created', seat', h', hsaw i hi, hsaw j hj⟩

/-- Along an orderly interleaving at most one join sees the seat. -/
theorem joining_run (hgame : GameRepository.rowOf w₀.games game.gameId = some game)
    (hempty : game.player2 = none) (schedule : List ι) :
    ∃ stage created seat,
      Joining w₀ game requests schedule (pool.run (joins w₀ requests) schedule) stage created seat ∧
      (Orderly requests schedule → ∀ i j, (stage i).sawSeat = true → (stage j).sawSeat = true →
        i = j) := by
  refine Machine.run_traced (M := pool)
    (I := fun calls P => ∃ stage created seat, Joining w₀ game requests calls P stage created seat ∧
      (Orderly requests calls → ∀ i j, (stage i).sawSeat = true → (stage j).sawSeat = true → i = j))
    ⟨_, _, _, Joining.start hgame hempty, by simp [JoinStage.sawSeat]⟩ ?_ schedule
  rintro calls P i ⟨stage, created, seat, h, hone⟩
  obtain ⟨stage', created', seat', h', -, hlater⟩ := h.next hid i
  refine ⟨_, created', seat', h', fun horderly => ?_⟩
  have hone := hone fun pre hpre => horderly pre (hpre.trans (List.prefix_append ..))
  -- nobody else has seen the seat when `i` sees it
  have hfirst : ∀ j, j ≠ i → stage'.sawSeat = true → (stage j).sawSeat = true → False := by
    intro j hj hi hsaw
    rcases hlater hi with hold | ⟨hcount, hplayer1, hfree⟩
    · exact hj (hone j i hsaw hold)
    · obtain ⟨hacceptedj, hthreej, -⟩ := h.three_le hsaw
      have hsaw' : ((Function.update stage i stage') i).sawSeat = true := by
        rw [Function.update_self]
        exact hi
      obtain ⟨k, hk, hfour⟩ := horderly _ (List.prefix_refl _) j i hj hacceptedj
        (h'.three_le hsaw').1 (by rw [count_snoc_ne calls hj]; exact hthreej)
        (by rw [count_snoc_self, hcount])
      have hki : k ≠ i := by
        rintro rfl
        rw [count_snoc_self, hcount] at hfour
        omega
      rw [count_snoc_ne calls hki] at hfour
      exact (h.seat_iff hplayer1).2 ⟨k, hk, hfour⟩ hfree
  intro a b ha hb
  by_cases hai : a = i
  · by_cases hbi : b = i
    · rw [hai, hbi]
    · rw [hai, Function.update_self] at ha
      rw [Function.update_of_ne hbi] at hb
      exact absurd hb (hfirst b hbi ha)
  · rw [Function.update_of_ne hai] at ha
    by_cases hbi : b = i
    · rw [hbi, Function.update_self] at hb
      exact absurd ha (hfirst a hai hb)
    · rw [Function.update_of_ne hbi] at hb
      exact hone a b ha hb

end Schedules

/-- An accepted join that has looked at a seat nobody has taken saw it. -/
theorem Joining.sawSeat_of_three (h : Joining w₀ game requests calls P stage created seat)
    (hplayer1 : game.player1 ≠ none)
    (hnone : ¬ ∃ k, (requests k).accepted = true ∧ 4 ≤ calls.count k) {i : ι}
    (haccepted : (requests i).accepted = true) (hthree : 3 ≤ calls.count i) :
    (stage i).sawSeat = true := by
  have hfits := h.fits i
  cases hstage : stage i <;> rw [hstage] at hfits
  case lookup => rw [show calls.count i = 0 from hfits] at hthree; omega
  case create => rw [show calls.count i = 1 from hfits] at hthree; omega
  case check player2 => have := hfits.1; omega
  case save player2 => rfl
  case found player2 => rfl
  case refused =>
    exact absurd ((h.seat_iff hplayer1).1 (hfits.2.2.resolve_left hplayer1)) hnone
  case rejected => cases haccepted.symm.trans hfits.2

/-- **When one client gets the seat.**  Any number of clients, with the same session or
with different ones, join a game whose second seat is empty, their calls are interleaved in
any way, and each is answered.  At most one is told that the seat is theirs, and
the stored game then seats the player that this join stored, exactly if player 1
has left the game (and nobody gets the seat), or no second join looks at the seat
before the first one has taken it. -/
theorem one_join_wins_iff (w : World) (game : GameEntity)
    (hgame : GameRepository.rowOf w.games game.gameId = some game) (hempty : game.player2 = none)
    (requests : ι → JoinGameRequest) (hid : ∀ i, (requests i).gameId = some game.gameId)
    (schedule : List ι)
    (hanswered : ∀ i,
      ((pool.run (joins w requests) schedule).tasks i).result?.isSome = true) :
    let P := pool.run (joins w requests) schedule
    ((∀ i j, toldFound (P.tasks i) = true → toldFound (P.tasks j) = true → i = j) ∧
      ∀ i, toldFound (P.tasks i) = true → ∃ player2, CreatedBy w requests schedule i player2 ∧
        (P.state.players.drop w.players.length).filter
            (fun p => p.playerId = player2.playerId) = [player2] ∧
          (GameRepository.rowOf P.state.games game.gameId).bind (·.player2) =
            some player2.playerId) ↔
    game.player1 = none ∨ Orderly requests schedule := by
  intro P
  obtain ⟨stage, created, seat, h, hone⟩ := joining_run hid hgame hempty schedule
  constructor
  · rintro ⟨hunique, -⟩
    by_contra hnot
    rw [not_or] at hnot
    obtain ⟨hplayer1, hdisorderly⟩ := hnot
    -- two joins have looked at the seat before it was taken
    simp only [Orderly, not_forall] at hdisorderly
    obtain ⟨pre, ⟨post, hpost⟩, i, j, hij, hi, hj, hthreei, hthreej, hnone⟩ := hdisorderly
    obtain ⟨stage₁, created₁, seat₁, h₁, -⟩ := joining_run hid hgame hempty pre
    obtain ⟨calls₂, stage₂, created₂, seat₂, h₂, hsawi, hsawj⟩ :=
      sawSeat_run hid h₁ (h₁.sawSeat_of_three hplayer1 hnone hi hthreei)
        (h₁.sawSeat_of_three hplayer1 hnone hj hthreej) post
    rw [← Machine.run_append, hpost] at h₂
    exact hij (hunique i j (h₂.toldFound_of_sawSeat (hanswered i) hsawi)
      (h₂.toldFound_of_sawSeat (hanswered j) hsawj))
  · intro hcond
    have hsaw : ∀ i player2, stage i = .found player2 → (stage i).sawSeat = true := by
      intro i player2 hi
      rw [hi]
      rfl
    have hunique : ∀ i j, toldFound (P.tasks i) = true → toldFound (P.tasks j) = true → i = j := by
      intro i j hi hj
      obtain ⟨p, hp⟩ := (h.toldFound_iff i).1 hi
      obtain ⟨q, hq⟩ := (h.toldFound_iff j).1 hj
      rcases hcond with hgone | horderly
      · exact absurd hgone (h.three_le (hsaw i p hp)).2.2
      · exact hone horderly i j (hsaw i p hp) (hsaw j q hq)
    refine ⟨hunique, fun i hi => ?_⟩
    obtain ⟨player2, hstage⟩ := (h.toldFound_iff i).1 hi
    have hfits := h.fits i
    rw [hstage] at hfits
    obtain ⟨-, -, ⟨row, hmem, hkey⟩, -, hseat⟩ := hfits
    refine ⟨row, h.creators _ hmem, ?_, ?_⟩
    · rw [h.players, List.drop_left]
      refine Rows.filter_key_eq PlayersEntity.playerId ?_ (List.mem_map.2 ⟨_, hmem, rfl⟩)
      rw [List.map_map]
      exact h.keys
    · -- the seat is the one of a join that was told so, and there is only one
      obtain ⟨k, hk⟩ := Option.ne_none_iff_exists'.1 hseat
      obtain ⟨j, q, hj, hq⟩ := h.taken k hk
      have hij : i = j := hunique i j hi ((h.toldFound_iff j).2 ⟨q, hj⟩)
      rw [← hij, hstage] at hj
      cases hj
      rw [h.row, hkey, hq]
      exact hk

end Pool

/-! ## Two clients -/

/-- A game with one player, waiting for another. -/
def waitingGame : World :=
  server.run (World.initial migratedDeck)
    [⟨.createGameAndPlayer ⟨some "player1", some "session1"⟩, .same, .same⟩]

/-- Two clients that want the seat. -/
def rivals : Fin 2 → JoinGameRequest :=
  ![⟨some 1, some "player2", some "session2"⟩, ⟨some 1, some "player3", some "session3"⟩]

/-- One after the other, the first gets the seat. -/
theorem one_join_wins_oneAfterTheOther :
    let P := pool.run (joins waitingGame rivals) [0, 0, 0, 0, 1, 1, 1]
    ∀ i j, toldFound (P.tasks i) = true → toldFound (P.tasks j) = true → i = j := by
  refine ((one_join_wins_iff waitingGame ⟨1, some 1, none, none, .newGame⟩ (by decide +kernel) rfl
    rivals (by decide) [0, 0, 0, 0, 1, 1, 1] (by decide +kernel)).2 (Or.inr ?_)).1
  intro pre hpre
  rw [← List.mem_inits] at hpre
  revert pre
  decide +kernel

/-- Both look at the seat before either takes it: both are told that it is
theirs, and the game has the second one. -/
theorem two_joins_win :
    let P := pool.run (joins waitingGame rivals) [0, 0, 0, 1, 1, 1, 0, 1]
    toldFound (P.tasks 0) = true ∧ toldFound (P.tasks 1) = true ∧
      P.state.games = [⟨1, some 1, some 3, none, .newGame⟩] ∧
      P.state.players.map (fun p => (p.playerId, p.sessionId)) =
        [(1, some "session1"), (2, some "session2"), (3, some "session3")] := by
  decide +kernel

end WarCardGame
