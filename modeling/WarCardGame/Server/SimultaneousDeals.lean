import WarCardGame.Lib.War
import WarCardGame.Server.Deals

/-!
# Dealing to two players at the same time

The start button sends both deal messages at once, and they may be handled by two
threads: a call of one deal can come between any two calls of the other.  Both
read the card table, into one list that they share, and both write it row by row
from what they have read.

As long as the database keeps to one order, none of this shows.  Each deal writes
the rows it would write alone, whatever the other one has written so far, because
a deal overwrites the only columns a deal changes; and no row is written by both.

* `DealStage` — where a deal stands.
* `Together` — what holds of the two deals along any interleaving; the rows
  written so far are `saved`.
* `deals_commute` — so every interleaving ends with one card table, in which the
  deck is split between the two players.
-/

namespace WarCardGame

open Lib
open Lib.War (Side)

/-! ## The stages of a deal -/

/-- A deal of the half that `cut` takes, to the player with a session. -/
structure Deal where
  cut : List CardsEntity → List CardsEntity
  shuffle : CardOrder
  session : Option String
  playerId : ℤ

/-- Where a deal stands. -/
inductive DealStage where
  /-- The card table is read next. -/
  | query
  /-- The player is looked up next. -/
  | lookup
  /-- The list is cut next. -/
  | cut
  /-- The cards of `rest` are saved next, from position `i` on. -/
  | saving (i : ℕ) (rest : List CardsEntity)

namespace Deal

variable (d : Deal) (rows : CardOrder) (cards : List CardsEntity)

/-- The rows the deal writes. -/
def hand : List CardsEntity := dealtRows d.cut rows d.shuffle (some d.playerId) cards

/-- What is left of the deal. -/
def task : DealStage → Task Dealing Failure DealCardsResponse
  | .query => dealTask d.cut rows d.shuffle d.session
  | .lookup => do
      let player ← Task.atomic
        (Dealing.repository (PlayerRepository.findPlayerBySessionId d.session))
      let allCards ← Task.atomic Dealing.getAllCards
      dealCardsTask (player.map (·.playerId)) 0 (d.shuffle.apply (d.cut allCards))
      return { cards := dealt (player.map (·.playerId)) 0 (d.shuffle.apply (d.cut allCards)),
               playerSession := d.session }
  | .cut => do
      let allCards ← Task.atomic Dealing.getAllCards
      dealCardsTask (some d.playerId) 0 (d.shuffle.apply (d.cut allCards))
      return { cards := dealt (some d.playerId) 0 (d.shuffle.apply (d.cut allCards)),
               playerSession := d.session }
  | .saving i rest => do
      dealCardsTask (some d.playerId) i rest
      return { cards := d.hand rows cards, playerSession := d.session }

/-- What is known of a deal at a stage, when it has written the rows `saved`. -/
def Fits (saved : List CardsEntity) : DealStage → Prop
  | .saving i rest => d.hand rows cards = saved ++ dealt (some d.playerId) i rest
  | _ => saved = []

theorem step_query (s : Dealing) :
    (d.task rows cards .query).step s =
      (d.task rows cards .lookup, ⟨s.world, rows.apply s.world.cards⟩) := rfl

theorem step_lookup {s : Dealing} {player : PlayersEntity}
    (hlook : sessionLookup s.world.players d.session = .ok (some player))
    (hplayer : player.playerId = d.playerId) :
    (d.task rows cards .lookup).step s = (d.task rows cards .cut, s) := by
  have hcall : Dealing.repository (PlayerRepository.findPlayerBySessionId d.session) s =
      (.ok (some player), s) := by
    unfold Dealing.repository
    rw [findPlayerBySessionId_apply, hlook]
  refine (Task.step_ok hcall).trans ?_
  rw [Option.map_some, hplayer]
  rfl

theorem step_cut {s : Dealing}
    (hhand : dealt (some d.playerId) 0 (d.shuffle.apply (d.cut s.allCards)) = d.hand rows cards) :
    (d.task rows cards .cut).step s =
      (d.task rows cards (.saving 0 (d.shuffle.apply (d.cut s.allCards))), s) := by
  rw [task, task, ← hhand]
  rfl

theorem step_saving (s : Dealing) (i : ℕ) (card : CardsEntity) (rest : List CardsEntity) :
    (d.task rows cards (.saving i (card :: rest))).step s =
      (d.task rows cards (.saving (i + 1) rest),
        ⟨s.world.saveCard { card with dealOrder := i, players := some d.playerId }, s.allCards⟩) :=
  rfl

theorem step_saved (s : Dealing) (i : ℕ) :
    (d.task rows cards (.saving i [])).step s = (d.task rows cards (.saving i []), s) := rfl

end Deal

/-! ## The two deals together -/

/-- Two deals of the cards of `w`, over a database that lists the cards in an order
that depends on their keys only. -/
structure Dealable (w : World) (rows : CardOrder) (deals : Side → Deal) : Prop where
  keys : (w.cards.map CardsEntity.cardId).Nodup
  rows : rows.Uniform CardsEntity.cardId
  shuffles : ∀ side, (deals side).shuffle.Uniform CardsEntity.cardId
  players : ∀ side, ∃ player, sessionLookup w.players (deals side).session = .ok (some player) ∧
    player.playerId = (deals side).playerId
  maps : ∀ side f l, (deals side).cut (List.map f l) = ((deals side).cut l).map f
  subset : ∀ side l, (deals side).cut l ⊆ l

/-- **What holds along any interleaving.**  Each deal has written the beginning of
its hand, in the table and nowhere else, and the list that both cut has the faces
it would have before the deals. -/
structure Together (w : World) (rows : CardOrder) (deals : Side → Deal)
    (P : Pool Side Dealing Failure DealCardsResponse) (stage : Side → DealStage)
    (saved : Side → List CardsEntity) : Prop where
  tasks : ∀ side, P.tasks side = (deals side).task rows w.cards (stage side)
  players : P.state.world.players = w.players
  table : ∃ log, log.Perm (saved .player1 ++ saved .player2) ∧
    P.state.world.cards = Rows.saveAll CardsEntity.cardId log w.cards
  list : ∀ side, stage side ≠ .query →
    P.state.allCards.map CardsEntity.face = (rows.apply w.cards).map CardsEntity.face
  fits : ∀ side, (deals side).Fits rows w.cards (saved side) (stage side)

/-- The deals as they start, with whatever list was read last. -/
def dealsAtOnce (w : World) (allCards : List CardsEntity) (rows : CardOrder)
    (deals : Side → Deal) : Pool Side Dealing Failure DealCardsResponse :=
  ⟨⟨w, allCards⟩, fun side =>
    dealTask (deals side).cut rows (deals side).shuffle (deals side).session⟩

section Together

variable {w : World} {rows : CardOrder} {deals : Side → Deal}
  {P : Pool Side Dealing Failure DealCardsResponse} {stage : Side → DealStage}
  {saved : Side → List CardsEntity}

theorem Together.start (w : World) (allCards : List CardsEntity) (rows : CardOrder)
    (deals : Side → Deal) :
    Together w rows deals (dealsAtOnce w allCards rows deals) (fun _ => .query) fun _ => [] where
  tasks := fun _ => rfl
  players := rfl
  table := ⟨[], List.Perm.refl _, rfl⟩
  list := fun _ h => absurd rfl h
  fits := fun _ => rfl

/-- The rows of a hand have the faces of the cards. -/
theorem Dealable.face_hand (hd : Dealable w rows deals) (side : Side) {r x : CardsEntity}
    (hr : r ∈ (deals side).hand rows w.cards) (hx : x ∈ w.cards) (hkey : x.cardId = r.cardId) :
    x.face = r.face := by
  obtain ⟨c, hc, n, rfl⟩ := exists_of_mem_dealt hr
  rw [Reordering.mem_apply] at hc
  have hmem : c ∈ w.cards := (rows.mem_apply).1 (hd.subset side _ hc)
  rw [Rows.eq_of_key_eq CardsEntity.cardId hd.keys hx hmem hkey]
  rfl

theorem Together.saved_subset (h : Together w rows deals P stage saved) (side : Side) :
    saved side ⊆ (deals side).hand rows w.cards := by
  have hfits := h.fits side
  cases hstage : stage side with
  | saving i rest =>
      rw [hstage] at hfits
      have hhand : (deals side).hand rows w.cards = _ := hfits
      rw [hhand]
      exact List.subset_append_left ..
  | _ =>
      rw [hstage] at hfits
      have hnil : saved side = [] := hfits
      rw [hnil]
      exact List.nil_subset _

/-- No deal changes a face. -/
theorem Together.faces (hd : Dealable w rows deals) (h : Together w rows deals P stage saved) :
    P.state.world.cards.map CardsEntity.face = w.cards.map CardsEntity.face := by
  obtain ⟨log, hlog, hcards⟩ := h.table
  rw [hcards]
  refine faces_saveAll fun r hr x hx hkey => ?_
  rcases List.mem_append.1 (hlog.mem_iff.1 hr) with h1 | h2
  · exact hd.face_hand _ (h.saved_subset _ h1) hx hkey
  · exact hd.face_hand _ (h.saved_subset _ h2) hx hkey

/-- A call of one deal, from what it does to that deal. -/
theorem Together.update (h : Together w rows deals P stage saved) {side : Side}
    {stage' : DealStage} {s' : Dealing} (new : List CardsEntity)
    (hstep : (P.tasks side).step P.state = ((deals side).task rows w.cards stage', s'))
    (hplayers : s'.world.players = w.players)
    (hcards : s'.world.cards = Rows.saveAll CardsEntity.cardId new P.state.world.cards)
    (hlist : stage' ≠ .query →
      s'.allCards.map CardsEntity.face = (rows.apply w.cards).map CardsEntity.face)
    (hkeeps : s'.allCards = P.state.allCards ∨
      s'.allCards.map CardsEntity.face = (rows.apply w.cards).map CardsEntity.face)
    (hfits : (deals side).Fits rows w.cards (saved side ++ new) stage') :
    Together w rows deals (pool.next P side) (Function.update stage side stage')
      (Function.update saved side (saved side ++ new)) where
  tasks := by
    intro other
    by_cases hother : other = side
    · subst hother
      rw [Pool.next_tasks_self, Function.update_self, hstep]
    · rw [Pool.next_tasks_ne P side hother, Function.update_of_ne hother, h.tasks other]
  players := by
    rw [Pool.next_state, hstep]
    exact hplayers
  table := by
    obtain ⟨log, hlog, htable⟩ := h.table
    refine ⟨log ++ new, ?_, ?_⟩
    · refine (hlog.append_right new).trans ?_
      cases side with
      | player1 =>
          rw [Function.update_self, Function.update_of_ne (by simp), List.append_assoc,
            List.append_assoc]
          exact List.perm_append_comm.append_left _
      | player2 =>
          rw [Function.update_self, Function.update_of_ne (by simp), List.append_assoc]
    · rw [Pool.next_state, hstep, hcards, htable, Rows.saveAll_append]
  list := by
    intro other hquery
    rw [Pool.next_state, hstep]
    by_cases hother : other = side
    · subst hother
      rw [Function.update_self] at hquery
      exact hlist hquery
    · rw [Function.update_of_ne hother] at hquery
      rcases hkeeps with hsame | hnew
      · rw [hsame]
        exact h.list other hquery
      · exact hnew
  fits := by
    intro other
    by_cases hother : other = side
    · subst hother
      rw [Function.update_self, Function.update_self]
      exact hfits
    · rw [Function.update_of_ne hother, Function.update_of_ne hother]
      exact h.fits other

/-- **A call of one of the deals.** -/
theorem Together.next (hd : Dealable w rows deals) (h : Together w rows deals P stage saved)
    (side : Side) :
    ∃ stage' saved', Together w rows deals (pool.next P side) stage' saved' := by
  have htask := h.tasks side
  have hfits := h.fits side
  cases hstage : stage side with
  | query =>
      rw [hstage] at htask hfits
      have hfaces := face_apply hd.rows (h.faces hd)
      have hstep := (deals side).step_query rows w.cards P.state
      rw [← htask] at hstep
      refine ⟨_, _, h.update [] hstep h.players rfl (fun _ => hfaces) (Or.inr hfaces) ?_⟩
      rw [List.append_nil]
      exact hfits
  | lookup =>
      rw [hstage] at htask hfits
      obtain ⟨player, hlook, hplayer⟩ := hd.players side
      rw [← h.players] at hlook
      have hlist := h.list side (by simp [hstage])
      have hstep := (deals side).step_lookup rows w.cards hlook hplayer
      rw [← htask] at hstep
      refine ⟨_, _, h.update [] hstep h.players rfl (fun _ => hlist) (Or.inl rfl) ?_⟩
      rw [List.append_nil]
      exact hfits
  | cut =>
      rw [hstage] at htask hfits
      have hlist := h.list side (by simp [hstage])
      have hhand := dealt_cut (hd.maps side) (hd.shuffles side) (some (deals side).playerId) hlist
      have hstep := (deals side).step_cut rows w.cards hhand
      rw [← htask] at hstep
      refine ⟨_, _, h.update [] hstep h.players rfl (fun _ => hlist) (Or.inl rfl) ?_⟩
      have hnil : saved side = [] := hfits
      rw [hnil]
      exact hhand.symm
  | saving i rest =>
      rw [hstage] at htask hfits
      have hlist := h.list side (by simp [hstage])
      cases rest with
      | nil =>
          have hstep : (P.tasks side).step P.state =
              ((deals side).task rows w.cards (.saving i []), P.state) := by
            rw [htask]
            exact (deals side).step_saved rows w.cards P.state i
          refine ⟨_, _, h.update [] hstep h.players rfl (fun _ => hlist) (Or.inl rfl) ?_⟩
          rw [List.append_nil]
          exact hfits
      | cons card rest =>
          have hstep := (deals side).step_saving rows w.cards P.state i card rest
          rw [← htask] at hstep
          refine ⟨_, _, h.update
            [{ card with dealOrder := i, players := some (deals side).playerId }] hstep h.players
            rfl (fun _ => hlist) (Or.inl rfl) ?_⟩
          have hhand : (deals side).hand rows w.cards = _ := hfits
          show (deals side).hand rows w.cards = _
          rw [hhand, List.append_assoc]
          rfl

/-- When both deals are done, the rows they have written are their hands. -/
theorem Together.table_of_done (h : Together w rows deals P stage saved)
    (hdone : ∀ side, (P.tasks side).result?.isSome = true) :
    ∃ log, log.Perm ((deals .player1).hand rows w.cards ++ (deals .player2).hand rows w.cards) ∧
      P.state.world.cards = Rows.saveAll CardsEntity.cardId log w.cards := by
  have hsaved : ∀ side, saved side = (deals side).hand rows w.cards := by
    intro side
    have hfits := h.fits side
    have hresult := hdone side
    rw [h.tasks side] at hresult
    cases hstage : stage side with
    | saving i rest =>
        rw [hstage] at hfits hresult
        have hhand : (deals side).hand rows w.cards = _ := hfits
        cases rest with
        | nil => rw [hhand, dealt, List.append_nil]
        | cons card rest => cases hresult
    | _ =>
        rw [hstage] at hresult
        cases hresult
  obtain ⟨log, hlog, hcards⟩ := h.table
  rw [hsaved, hsaved] at hlog
  exact ⟨log, hlog, hcards⟩

end Together

theorem together_run {w : World} {rows : CardOrder} {deals : Side → Deal}
    (hd : Dealable w rows deals) (allCards : List CardsEntity) (schedule : List Side) :
    ∃ stage saved, Together w rows deals
      (pool.run (dealsAtOnce w allCards rows deals) schedule) stage saved :=
  Machine.run_invariant (M := pool)
    (I := fun P => ∃ stage saved, Together w rows deals P stage saved)
    (fun _ side ⟨_, _, h⟩ => h.next hd side) ⟨_, _, Together.start w allCards rows deals⟩ schedule

/-- A hand does not depend on whether the other hand was dealt before. -/
theorem Dealable.hand_after {w : World} {rows : CardOrder} {deals : Side → Deal}
    (hd : Dealable w rows deals) (side other : Side) :
    (deals side).hand rows
        (Rows.saveAll CardsEntity.cardId ((deals other).hand rows w.cards) w.cards) =
      (deals side).hand rows w.cards := by
  have hfaces := faces_saveAll fun r hr x hx hkey => hd.face_hand other hr hx hkey
  exact dealt_cut (hd.maps side) (hd.shuffles side) _ (face_apply hd.rows hfaces)

/-! ## The two halves -/

/-- The two deals the start button asks for. -/
def halves (session1 session2 : Option String) (shuffle1 shuffle2 : CardOrder)
    (player1Id player2Id : ℤ) : Side → Deal
  | .player1 => ⟨half1, shuffle1, session1, player1Id⟩
  | .player2 => ⟨half2, shuffle2, session2, player2Id⟩

/-- The messages the start button sends, handled at the same time; `allCards` is the
list that the service has read last. -/
def startGame (w : World) (allCards : List CardsEntity) (rows shuffle1 shuffle2 : CardOrder)
    (session1 session2 : Option String) : Pool Side Dealing Failure DealCardsResponse :=
  ⟨⟨w, allCards⟩, fun side => match side with
    | .player1 => dealCards1Task rows shuffle1 session1
    | .player2 => dealCards2Task rows shuffle2 session2⟩

section Halves

variable {w : World} {session1 session2 : Option String} {player1 player2 : PlayersEntity}
  {rows shuffle1 shuffle2 : CardOrder}

theorem startGame_eq (w : World) (allCards : List CardsEntity) (rows shuffle1 shuffle2 : CardOrder)
    (session1 session2 : Option String) (player1Id player2Id : ℤ) :
    startGame w allCards rows shuffle1 shuffle2 session1 session2 =
      dealsAtOnce w allCards rows
        (halves session1 session2 shuffle1 shuffle2 player1Id player2Id) := by
  unfold startGame dealsAtOnce
  congr 1
  funext side
  cases side with
  | player1 => rfl
  | player2 => rfl

theorem dealable_halves (hcards : (w.cards.map CardsEntity.cardId).Nodup)
    (h1 : sessionLookup w.players session1 = .ok (some player1))
    (h2 : sessionLookup w.players session2 = .ok (some player2))
    (hrows : rows.Uniform CardsEntity.cardId) (hshuffle1 : shuffle1.Uniform CardsEntity.cardId)
    (hshuffle2 : shuffle2.Uniform CardsEntity.cardId) :
    Dealable w rows
      (halves session1 session2 shuffle1 shuffle2 player1.playerId player2.playerId) where
  keys := hcards
  rows := hrows
  shuffles := by
    intro side
    cases side with
    | player1 => exact hshuffle1
    | player2 => exact hshuffle2
  players := by
    intro side
    cases side with
    | player1 => exact ⟨player1, h1, rfl⟩
    | player2 => exact ⟨player2, h2, rfl⟩
  maps := by
    intro side
    cases side with
    | player1 => exact map_half1
    | player2 => exact map_half2
  subset := by
    intro side l
    cases side with
    | player1 => exact List.take_subset ..
    | player2 => exact List.drop_subset ..

/-- The deals one after the other. -/
theorem cards_run_halves (hcards : (w.cards.map CardsEntity.cardId).Nodup)
    (h1 : sessionLookup w.players session1 = .ok (some player1))
    (h2 : sessionLookup w.players session2 = .ok (some player2))
    (hrows : rows.Uniform CardsEntity.cardId) (hshuffle1 : shuffle1.Uniform CardsEntity.cardId)
    (hshuffle2 : shuffle2.Uniform CardsEntity.cardId) :
    let deal1 : Call := ⟨.dealCardsPlayer1 session1, rows, shuffle1⟩
    let deal2 : Call := ⟨.dealCardsPlayer2 session2, rows, shuffle2⟩
    let hand1 := dealtRows half1 rows shuffle1 (some player1.playerId) w.cards
    let hand2 := dealtRows half2 rows shuffle2 (some player2.playerId) w.cards
    (server.run w [deal1, deal2]).cards =
        Rows.saveAll CardsEntity.cardId (hand1 ++ hand2) w.cards ∧
      (server.run w [deal2, deal1]).cards =
        Rows.saveAll CardsEntity.cardId (hand2 ++ hand1) w.cards := by
  intro deal1 deal2 hand1 hand2
  have hd := dealable_halves hcards h1 h2 hrows hshuffle1 hshuffle2
  constructor
  · obtain ⟨hplayers1, hcards1⟩ := cards_deal1 rows shuffle1 h1
    obtain ⟨-, hcards2⟩ := cards_deal2 (w := server.next w deal1) rows shuffle2 (hplayers1 ▸ h2)
    refine hcards2.trans ?_
    rw [hcards1, Rows.saveAll_append]
    exact congrArg (Rows.saveAll CardsEntity.cardId · _) (hd.hand_after .player2 .player1)
  · obtain ⟨hplayers2, hcards2⟩ := cards_deal2 rows shuffle2 h2
    obtain ⟨-, hcards1⟩ := cards_deal1 (w := server.next w deal2) rows shuffle1 (hplayers2 ▸ h1)
    refine hcards1.trans ?_
    rw [hcards2, Rows.saveAll_append]
    exact congrArg (Rows.saveAll CardsEntity.cardId · _) (hd.hand_after .player1 .player2)

end Halves

/-- **Simultaneous deals commute.**  The database lists the cards in an order that
depends on their keys only, and so does each shuffle.  Then every interleaving of
the calls of `dealCards1` and `dealCards2` ends in the card table of running them
one after the other, in either order, and in that table the deck is split between
the two players. -/
theorem deals_commute (w : World) (hcards : (w.cards.map CardsEntity.cardId).Nodup)
    (hplayers : w.playerIds.Nodup) (session1 session2 : Option String)
    (hsessions : session1 ≠ session2) (player1 player2 : PlayersEntity)
    (h1 : w.players.filter (fun p => p.sessionId = session1) = [player1])
    (h2 : w.players.filter (fun p => p.sessionId = session2) = [player2])
    (rows shuffle1 shuffle2 : CardOrder) (hrows : rows.Uniform CardsEntity.cardId)
    (hshuffle1 : shuffle1.Uniform CardsEntity.cardId)
    (hshuffle2 : shuffle2.Uniform CardsEntity.cardId) (allCards : List CardsEntity)
    (schedule : List Side)
    (hdone : ∀ side, ((pool.run (startGame w allCards rows shuffle1 shuffle2 session1 session2)
      schedule).tasks side).result?.isSome = true) :
    let P := pool.run (startGame w allCards rows shuffle1 shuffle2 session1 session2) schedule
    let deal1 : Call := ⟨.dealCardsPlayer1 session1, rows, shuffle1⟩
    let deal2 : Call := ⟨.dealCardsPlayer2 session2, rows, shuffle2⟩
    P.state.world.cards = (server.run w [deal1, deal2]).cards ∧
      P.state.world.cards = (server.run w [deal2, deal1]).cards ∧
      EvenDeal player1.playerId player2.playerId P.state.world.cards := by
  intro P deal1 deal2
  have hlook1 := sessionLookup_singleton h1
  have hlook2 := sessionLookup_singleton h2
  have hne := playerId_ne_of_session hplayers hsessions hlook1 hlook2
  have hd := dealable_halves hcards hlook1 hlook2 hrows hshuffle1 hshuffle2
  obtain ⟨stage, saved, htogether⟩ := together_run hd allCards schedule
  rw [← startGame_eq] at htogether
  obtain ⟨log, hlog, hP⟩ := htogether.table_of_done hdone
  -- every card is in one of the hands, and in one only
  obtain ⟨hkeys, heven⟩ := evenDeal_of_halves hne hcards rows shuffle1 shuffle2
  have hnodup := hkeys.nodup_iff.2 hcards
  have htable := Rows.saveAll_eq_of_perm CardsEntity.cardId hlog ((hlog.map _).nodup_iff.2 hnodup)
    w.cards
  obtain ⟨h12, h21⟩ := cards_run_halves hcards hlook1 hlook2 hrows hshuffle1 hshuffle2
  refine ⟨(hP.trans htable).trans h12.symm, (hP.trans htable).trans ?_, ?_⟩
  · rw [h21]
    exact Rows.saveAll_eq_of_perm CardsEntity.cardId List.perm_append_comm hnodup w.cards
  · rw [hP, htable]
    exact heven

/-- The calls of the two deals in turn. -/
def inTurn : List Side := (List.replicate 29 [Side.player1, Side.player2]).flatten

theorem deals_commute_inTurn :
    EvenDeal 1 2 (pool.run (startGame seatedGame [] .same .same .same (some "session1")
      (some "session2")) inTurn).state.world.cards :=
  (deals_commute seatedGame (by decide +kernel) (by decide +kernel) (some "session1")
    (some "session2") (by decide) ⟨1, "player1", some "session1"⟩ ⟨2, "player2", some "session2"⟩
    (by decide +kernel) (by decide +kernel) .same .same .same (Reordering.same_uniform _)
    (Reordering.same_uniform _) (Reordering.same_uniform _) [] inTurn
    (by intro side; cases side <;> decide +kernel)).2.2

end WarCardGame
