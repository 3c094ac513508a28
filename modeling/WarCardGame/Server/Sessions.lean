import WarCardGame.Server.Step

/-!
# Sessions and players

Requests to deal and to leave find their player by session, and the lookup fails
when several rows have the session.  Nothing keeps sessions apart: `create` and
`join` store a row whatever rows there are, and a join stores it before it looks
for a seat.

* `sessionLookup_isOk` — the lookup works for every session that can be sent as long as no
  two rows share one.
* `sessions_next` — what a request does to the sessions: it stores one row, or it only
  takes rows away.
* `rows_fit` — every row holds texts that fit its columns, so the lookup of a text that
  cannot be sent fails.
* `sessions_unique_iff` — so sessions identify players throughout a run exactly
  when every row it stores has a session no row has at that moment.
-/

namespace WarCardGame

open Lib

/-- The sessions of the stored players. -/
def World.sessions (w : World) : List (Option String) := w.players.map PlayersEntity.sessionId

/-- The session under which a request stores a player, if the schema takes the row.  It is
the one of the request, except that blanks beyond the width of the column are cut off. -/
def Request.newSession : Request → Option (Option String)
  | .createGameAndPlayer request =>
      (PlayerRepository.columns request.username request.sessionId).map Prod.snd
  | .joinGame request =>
      (PlayerRepository.columns request.username request.sessionId).map Prod.snd
  | _ => none

/-- The session of the row a request stores, if it stores one: a create whose
row the schema takes, or a join of a stored game, seat or no seat. -/
def storedSession (w : World) (call : Call) : Option (Option String) :=
  match call.request with
  | .joinGame request =>
      if request.gameId.any fun gameId => (GameRepository.rowOf w.games gameId).isSome then
        call.request.newSession
      else none
  | request => request.newSession

/-! ## The lookup -/

/-- The lookup works for every session that can be sent, as long as no two rows share
one. -/
theorem sessionLookup_isOk {players : List PlayersEntity}
    (hunique : (players.map PlayersEntity.sessionId).Nodup) {session : Option String}
    (hsendable : session.all Varchar.sendable = true) :
    (sessionLookup players session).isOk = true := by
  have hcount : (players.map PlayersEntity.sessionId).count session =
      (players.filter fun p => p.sessionId = session).length := by
    rw [List.count, List.countP_map, List.countP_eq_length_filter]
    exact congrArg List.length (List.filter_congr fun p _ => by
      simp [beq_eq_decide])
  have hle := List.nodup_iff_count_le_one.1 hunique session
  rw [hcount] at hle
  unfold sessionLookup
  generalize players.filter _ = found at hle ⊢
  rcases found with _ | ⟨player, _ | ⟨other, rest⟩⟩
  · simp only [hsendable, if_true]
    rfl
  · rfl
  · simp at hle

/-! ## The player table -/

/-- A step that is neither a create nor a join takes rows away at most. -/
theorem sessions_sublist {w w' : World} {call : Call} (hstep : Step w call w')
    (hcreate : ∀ request, call.request ≠ .createGameAndPlayer request)
    (hjoin : ∀ request, call.request ≠ .joinGame request) : w'.sessions.Sublist w.sessions := by
  cases hstep with
  | unchanged ms => exact List.Sublist.refl _
  | create request name session hrequest => exact absurd hrequest (hcreate _)
  | joinFull request gameId name session game hrequest => exact absurd hrequest (hjoin _)
  | join request gameId name session game hrequest => exact absurd hrequest (hjoin _)
  | deal session player hand => exact List.Sublist.refl _
  | play1 playerId c => exact List.Sublist.refl _
  | roundFailed player1Id player2Id gameId c e _ _ _ _ _ _ hround =>
      have hframe := RoundFrame.of_gameRound hround
      rw [World.sessions, hframe.players]
      exact List.Sublist.refl _
  | round player1Id player2Id gameId c v ms _ _ _ _ _ hround =>
      have hframe := RoundFrame.of_gameRound hround
      have hplayers : (v.turnBack.send ms).players = w.players := hframe.players
      rw [World.sessions, hplayers]
      exact List.Sublist.refl _
  | leaveRefused gameId session game player ms =>
      have hplayers := (vacated_closeGame_frame call.rows call.shuffle player game w).1
      simp only [World.sessions, World.send, hplayers]
      exact List.Sublist.refl _
  | leave gameId session game player ms =>
      refine List.Sublist.map _ ?_
      have hplayers := (vacated_closeGame_frame call.rows call.shuffle player game w).1
      simp only [World.send, World.reset, World.dropPlayer, hplayers]
      exact List.filter_sublist

theorem sessions_addPlayer (w : World) (name : String) (session : Option String) :
    (w.addPlayer name session).sessions = w.sessions ++ [session] := by
  simp [World.sessions, World.addPlayer, World.newPlayer]

/-- **What a request does to the sessions.**  It stores one row, or it takes
rows away at most. -/
theorem sessions_next (w : World) (call : Call) :
    (∃ session, storedSession w call = some session ∧
      (server.next w call).sessions = w.sessions ++ [session]) ∨
    (storedSession w call = none ∧ (server.next w call).sessions.Sublist w.sessions) := by
  cases hrequest : call.request with
  | createGameAndPlayer request =>
      rw [next_createGameAndPlayer hrequest]
      rcases createGameAndPlayer_cases request w.quiet with
        ⟨hno, h⟩ | ⟨name, session, hyes, h⟩ <;> rw [h]
      · exact Or.inr ⟨by simp [storedSession, Request.newSession, hrequest, hno],
          List.Sublist.refl _⟩
      · refine Or.inl ⟨session, by simp [storedSession, Request.newSession, hrequest, hyes], ?_⟩
        exact sessions_addPlayer w.quiet name session
  | joinGame request =>
      rw [next_joinGame hrequest]
      rcases joinGame_cases request w.quiet with ⟨hid, h⟩ | ⟨gameId, hid, hgame, h⟩ |
        ⟨gameId, game, hid, hgame, ⟨hno, h⟩ | ⟨name, session, hyes, ⟨-, h⟩ | ⟨-, -, h⟩⟩⟩ <;> rw [h]
      · exact Or.inr ⟨by simp [storedSession, hrequest, hid], List.Sublist.refl _⟩
      · have hrow : GameRepository.rowOf w.games gameId = none := hgame
        exact Or.inr ⟨by simp [storedSession, hrequest, hid, hrow], List.Sublist.refl _⟩
      · exact Or.inr ⟨by simp [storedSession, Request.newSession, hrequest, hno],
          List.Sublist.refl _⟩
      all_goals
        have hrow : GameRepository.rowOf w.games gameId = some game := hgame
        refine Or.inl ⟨session,
          by simp [storedSession, Request.newSession, hrequest, hid, hrow, hyes], ?_⟩
        exact sessions_addPlayer w.quiet name session
  | _ =>
      refine Or.inr ⟨by simp [storedSession, Request.newSession, hrequest], ?_⟩
      have hsub := sessions_sublist (step_next w call) (by simp [hrequest]) (by simp [hrequest])
      exact hsub

/-- **Where a player comes from**: the row was there before, or the request stored it
under a key that was not given out before, with texts that fit its columns. -/
theorem Step.player_origin {w w' : World} {call : Call} (hstep : Step w call w')
    {p : PlayersEntity} (hp : p ∈ w'.players) :
    p ∈ w.players ∨
      (p.playerId = w.nextPlayerId ∧ call.request.newSession = some p.sessionId ∧
        PlayerRepository.columns (some p.username) p.sessionId =
          some (p.username, p.sessionId)) := by
  have hadd : ∀ {username sessionId session : Option String} {name : String},
      PlayerRepository.columns username sessionId = some (name, session) →
      call.request.newSession =
        (PlayerRepository.columns username sessionId).map Prod.snd →
      p ∈ w.players ++ [w.newPlayer name session] →
      p ∈ w.players ∨
        (p.playerId = w.nextPlayerId ∧ call.request.newSession = some p.sessionId ∧
          PlayerRepository.columns (some p.username) p.sessionId =
            some (p.username, p.sessionId)) := by
    intro username sessionId session name hcolumns hrequest hmem
    rcases List.mem_append.1 hmem with hold | hnew
    · exact Or.inl hold
    · rw [List.mem_singleton.1 hnew]
      refine Or.inr ⟨rfl, ?_, PlayerRepository.columns_columns hcolumns⟩
      rw [hrequest, hcolumns]
      rfl
  have hleave : ∀ (game : GameEntity) (player : PlayersEntity),
      ((vacated call.rows call.shuffle player game w).2.closeGame
        (vacated call.rows call.shuffle player game w).1).players = w.players :=
    fun game player => (vacated_closeGame_frame call.rows call.shuffle player game w).1
  cases hstep with
  | unchanged ms => exact Or.inl hp
  | create request name session hrequest hcolumns =>
      exact hadd hcolumns (by rw [hrequest]; rfl) hp
  | joinFull request gameId name session game hrequest hid hcolumns =>
      exact hadd hcolumns (by rw [hrequest]; rfl) hp
  | join request gameId name session game hrequest hid hcolumns =>
      exact hadd hcolumns (by rw [hrequest]; rfl) hp
  | deal session player hand => exact Or.inl hp
  | play1 playerId c => exact Or.inl hp
  | roundFailed player1Id player2Id gameId c e _ hrequest hc howner hunplayed hturn hround =>
      have hframe := RoundFrame.of_gameRound hround
      rw [hframe.players] at hp
      exact Or.inl hp
  | round player1Id player2Id gameId c v ms hrequest hc howner hunplayed hturn hround =>
      have hframe := RoundFrame.of_gameRound hround
      have hold : p ∈ v.players := hp
      rw [hframe.players] at hold
      exact Or.inl hold
  | leaveRefused gameId session game player ms =>
      have hold : p ∈ _ := hleave game player ▸ hp
      exact Or.inl hold
  | leave gameId session game player ms =>
      have hold := List.mem_of_mem_filter hp
      rw [hleave game player] at hold
      exact Or.inl hold

/-! ## Whole runs -/

/-- After any requests every row holds texts that fit its columns. -/
theorem rows_fit (deck : Deck) (calls : List Call) :
    ∀ p ∈ (server.run (World.initial deck) calls).players,
      PlayerRepository.columns (some p.username) p.sessionId =
        some (p.username, p.sessionId) := by
  refine Machine.run_invariant (M := server)
    (I := fun w => ∀ p ∈ w.players, PlayerRepository.columns (some p.username) p.sessionId =
      some (p.username, p.sessionId)) (fun w call h p hp => ?_) (by simp [World.initial]) calls
  rcases (step_next w call).player_origin hp with hold | ⟨-, -, hfits⟩
  · exact h p hold
  · exact hfits

/-- So a session that cannot be sent to the database is found in no row, and the lookup
fails. -/
theorem findPlayerBySessionId_unsendable (deck : Deck) (calls : List Call) {session : String}
    (h : Varchar.sendable session = false) :
    PlayerRepository.findPlayerBySessionId (some session)
        (server.run (World.initial deck) calls) =
      (.error .dataIntegrityViolationException, server.run (World.initial deck) calls) := by
  have hnone : (server.run (World.initial deck) calls).players.filter
      (fun p => p.sessionId = some session) = [] := by
    refine List.filter_eq_nil_iff.2 fun p hp hsession => ?_
    obtain ⟨-, hstored⟩ := PlayerRepository.columns_eq_some_iff.1 (rows_fit deck calls p hp)
    rw [of_decide_eq_true hsession] at hstored
    have hfits := Varchar.fits_of_store (Option.some.inj hstored)
    exact absurd hfits.1 (by simp [h])
  rw [findPlayerBySessionId_apply, sessionLookup, hnone]
  simp [h]

/-- **When sessions identify players.**  Throughout a run no two rows share a
session, and every lookup by a session that can be sent to the database works, exactly
if every request that stores a row stores a session that no row has at that moment. -/
theorem sessions_unique_iff (deck : Deck) (calls : List Call) :
    (∀ pre, pre <+: calls →
      (server.run (World.initial deck) pre).sessions.Nodup ∧
      ∀ session : Option String, session.all Varchar.sendable = true →
        (PlayerRepository.findPlayerBySessionId session
          (server.run (World.initial deck) pre)).1.isOk = true) ↔
    ∀ x ∈ server.steps (World.initial deck) calls, ∀ session,
      storedSession x.1 x.2 = some session → session ∉ x.1.sessions := by
  have hlookup : ∀ w : World, (w.sessions.Nodup ∧
      ∀ session : Option String, session.all Varchar.sendable = true →
        (PlayerRepository.findPlayerBySessionId session w).1.isOk = true) ↔ w.sessions.Nodup := by
    intro w
    simp only [findPlayerBySessionId_apply]
    exact ⟨fun h => h.1, fun h => ⟨h, fun session hsendable => sessionLookup_isOk h hsendable⟩⟩
  simp only [hlookup]
  have hstart : (World.initial deck).sessions.Nodup := List.nodup_nil
  refine Machine.always_iff (P := fun w => w.sessions.Nodup)
    (C := fun w call => ∀ session, storedSession w call = some session → session ∉ w.sessions)
    (fun w call hunique => ?_) hstart calls
  rcases sessions_next w call with ⟨session, hstored, hnext⟩ | ⟨hstored, hsub⟩
  · rw [hnext, ← List.concat_eq_append, List.nodup_concat]
    constructor
    · rintro ⟨hnew, -⟩ session' hstored'
      cases hstored.symm.trans hstored'
      exact hnew
    · exact fun hnew => ⟨hnew session hstored, hunique⟩
  · refine ⟨fun _ session' hstored' => ?_, fun _ => hunique.sublist hsub⟩
    rw [hstored] at hstored'
    cases hstored'

/-- A browser that creates a second game before it leaves the first one. -/
def createdTwice : List Call :=
  [⟨.createGameAndPlayer ⟨some "player1", some "session1"⟩, .same, .same⟩,
    ⟨.createGameAndPlayer ⟨some "player1", some "session1"⟩, .same, .same⟩]

/-- Two rows then have the session, and the deal for it fails. -/
theorem session_shared_after_two_creates :
    let w := server.run (World.initial migratedDeck) createdTwice
    w.sessions = [some "session1", some "session1"] ∧
      (server.out w ⟨.dealCardsPlayer1 (some "session1"), .same, .same⟩).response =
        .error .incorrectResultSizeDataAccessException := by
  decide +kernel

end WarCardGame
