import WarCardGame.Game.Simulation
import WarCardGame.Server.Outcomes

/-!
# Usernames and the captured piles

Two runs of a game that differ in the usernames only.  Names are read where a war
runs out of cards: `declareWinner` returns a text, and the text is compared with the
two names.

* `World.renamed`, `Renamed` — the same state with other names.
* `playCard1_renamed`, `Renamed.playCard2` — what one request does to two such
  states.
* `piles_same_iff` — **the piles stay the same** in the two runs exactly when in
  every war that runs out of cards the two pairs of names select the same recipient.
-/

namespace WarCardGame

open Lib
open Lib.War (Side)

/-! ## Renaming players -/

/-- A player under another name. -/
def PlayersEntity.renamed (names : ℤ → String) (player : PlayersEntity) : PlayersEntity :=
  { player with username := names player.playerId }

/-- The state in which every player has the name `names` gives. -/
def World.renamed (w : World) (names : ℤ → String) : World :=
  { w with players := w.players.map (PlayersEntity.renamed names) }

/-- The two piles. -/
def World.piles (w : World) : List CardsEntity × List CardsEntity :=
  (w.player1CapturedCards, w.player2CapturedCards)

/-- Two states that differ in the names of the players, and perhaps in the messages
sent last. -/
def Renamed (names : ℤ → String) (w t : World) : Prop := t.quiet = (w.renamed names).quiet

section Rows

variable {names : ℤ → String} {w : World}

theorem rowOf_renamed (names : ℤ → String) (players : List PlayersEntity) (k : ℤ) :
    PlayerRepository.rowOf (players.map (PlayersEntity.renamed names)) k =
      (PlayerRepository.rowOf players k).map (PlayersEntity.renamed names) := by
  rw [PlayerRepository.rowOf, List.find?_map]
  rfl

theorem Stored.renamed {player1Id player2Id gameId : ℤ} {player1 player2 : PlayersEntity}
    (h : Stored player1Id player2Id gameId player1 player2 w) (names : ℤ → String) :
    Stored player1Id player2Id gameId (player1.renamed names) (player2.renamed names)
      (w.renamed names) :=
  ⟨h.game, (rowOf_renamed names w.players player1Id).trans (by rw [h.player1]; rfl),
    (rowOf_renamed names w.players player2Id).trans (by rw [h.player2]; rfl)⟩

theorem rowOf_renamed_eq_none {k : ℤ} :
    PlayerRepository.rowOf (w.renamed names).players k = none ↔
      PlayerRepository.rowOf w.players k = none := by
  show PlayerRepository.rowOf (w.players.map (PlayersEntity.renamed names)) k = none ↔ _
  rw [rowOf_renamed, Option.map_eq_none_iff]

theorem putsDown_renamed {rows : CardOrder} {player2Id : ℤ} {card : CardsEntity}
    {hand : List CardsEntity} :
    PutsDown rows player2Id card hand (w.renamed names) ↔ PutsDown rows player2Id card hand w := by
  have hstored : (∃ player2, PlayerRepository.rowOf (w.renamed names).players player2Id =
      some player2) ↔ ∃ player2, PlayerRepository.rowOf w.players player2Id = some player2 := by
    rw [← Option.ne_none_iff_exists', ← Option.ne_none_iff_exists', Ne, Ne, rowOf_renamed_eq_none]
  exact ⟨fun h => ⟨hstored.1 h.stored, h.turn, h.play⟩,
    fun h => ⟨hstored.2 h.stored, h.turn, h.play⟩⟩

theorem Round.Accepted.renamed {r : Round} {rows : CardOrder} {player1Id player2Id : ℤ}
    (h : r.Accepted rows player1Id player2Id w) (names : ℤ → String) :
    r.Accepted rows player1Id player2Id (w.renamed names) :=
  ⟨putsDown_renamed.2 h.toPutsDown, h.card1, h.ends⟩

/-- What a round leaves, renamed. -/
theorem Round.after_renamed (r : Round) (side : Option Side) (w : World) (names : ℤ → String) :
    (r.after side (w.renamed names)).quiet = ((r.after side w).renamed names).quiet := by
  rcases side with _ | _ | _ <;> rfl

theorem Round.left_renamed (r : Round) (w : World) (names : ℤ → String) :
    (r.left (w.renamed names)).quiet = ((r.left w).renamed names).quiet := by
  unfold Round.left
  rcases r.ending.winner with _ | side
  · rfl
  · exact r.after_renamed (some side) w names

end Rows

/-! ## One request -/

/-- Player 1's requests do not read names. -/
theorem playCard1_renamed (rows : CardOrder) (playerId : ℤ) (w : World) (names : ℤ → String) :
    (playCard1 rows playerId (w.renamed names)).2 =
      (playCard1 rows playerId w).2.renamed names := by
  rw [playCard1_apply, playCard1_apply]
  rw [show PlayerRepository.rowOf (w.renamed names).players playerId = _ from
    rowOf_renamed names w.players playerId]
  rw [show (w.renamed names).player1Turn = w.player1Turn from rfl,
    show (w.renamed names).cards = w.cards from rfl]
  cases PlayerRepository.rowOf w.players playerId with
  | none => rfl
  | some player =>
      cases w.player1Turn with
      | false => rfl
      | true => cases playFirst (CardsRepository.cardsOf rows playerId w.cards) <;> rfl

/-- In the war of this request, if it is accepted with the rows stored and its war
runs out of cards, both pairs of names select the same recipient. -/
def SameRecipient (names : ℤ → String) (rows : CardOrder) (request : PlayCardRequest) (w : World) :
    Prop :=
  ∀ player1Id player2Id gameId r player1 player2,
    request = ⟨some player1Id, some player2Id, some gameId⟩ →
    Round.Accepted r rows player1Id player2Id w →
    Stored player1Id player2Id gameId player1 player2 w → r.ending.winner = none →
    recipient (names player1.playerId) (names player2.playerId) w.player1CapturedCards.length
        w.player2CapturedCards.length =
      recipient player1.username player2.username w.player1CapturedCards.length
        w.player2CapturedCards.length

theorem sameRecipient_quiet {names : ℤ → String} {rows : CardOrder} {request : PlayCardRequest}
    {w : World} :
    SameRecipient names rows request w.quiet ↔ SameRecipient names rows request w := by
  have hstored : ∀ player1Id player2Id gameId player1 player2,
      Stored player1Id player2Id gameId player1 player2 w.quiet ↔
        Stored player1Id player2Id gameId player1 player2 w := fun _ _ _ _ _ =>
    ⟨fun h => h.same rfl rfl, fun h => h.same rfl rfl⟩
  simp only [SameRecipient, Round.Accepted.quiet_iff, hstored]
  rfl

/-- Cards that go to different sides make different piles. -/
theorem Round.piles_after_inj {r : Round} {w : World} (hcards : r.cards ≠ [])
    {side side' : Option Side} (h : (r.after side w).piles = (r.after side' w).piles) :
    side = side' := by
  simp only [World.piles, Round.after, Prod.mk.injEq] at h
  obtain ⟨h1, h2⟩ := h
  rcases side with _ | _ | _ <;> rcases side' with _ | _ | _ <;> first
    | rfl
    | simp [World.given, World.turnBack, World.captured1, World.captured2, hcards] at h1 h2

section Requests

variable {names : ℤ → String} {rows : CardOrder} {request : PlayCardRequest} {w : World}

/-- **A request of player 2 in two states that differ in names** leaves states that
differ in names, if both pairs of names select the same recipient. -/
theorem playCard2_renamed (h : SameRecipient names rows request w) :
    Renamed names (playCard2 rows request w).2 (playCard2 rows request (w.renamed names)).2 := by
  unfold Renamed
  rcases playCard2_outcome rows request w with
    ⟨result, heq, hnot⟩ | ⟨player1Id, player2Id, gameId, card, hand, rfl, hdown, hnone, heq⟩ |
    ⟨player1Id, player2Id, gameId, r, rfl, haccepted⟩
  · rcases playCard2_outcome rows request (w.renamed names) with
      ⟨result', heq', -⟩ | ⟨_, _, _, _, _, hids, hdown, -⟩ | ⟨_, _, _, r, hids, haccepted⟩
    · rw [heq, heq']
    · exact absurd (putsDown_renamed.1 hdown) ((hnot _ _ _ hids).1 _ _)
    · exact absurd (putsDown_renamed.1 haccepted.toPutsDown) ((hnot _ _ _ hids).1 _ _)
  · rcases playCard2_outcome rows ⟨some player1Id, some player2Id, some gameId⟩ (w.renamed names)
      with ⟨result', -, hnot⟩ | ⟨_, _, _, card', hand', hids, hdown', -, heq'⟩ |
        ⟨_, _, _, r, -, haccepted⟩
    · exact absurd (putsDown_renamed.2 hdown) ((hnot _ _ _ rfl).1 _ _)
    · cases hids
      obtain ⟨rfl, -⟩ : card = card' ∧ hand = hand' := by
        simpa using hdown.play.symm.trans hdown'.play
      rw [heq, heq']
      rfl
    · cases hnone.symm.trans haccepted.card1
  have haccepted' := haccepted.renamed names
  rcases haccepted.stored_or_missing gameId with ⟨player1, player2, hstored⟩ | hmissing
  · obtain ⟨response, v, heq, hquiet, -⟩ := haccepted.succeeds hstored
    obtain ⟨response', v', heq', hquiet', -⟩ := haccepted'.succeeds (hstored.renamed names)
    have htaker : r.taker (player1.renamed names).username (player2.renamed names).username
        (w.renamed names) = r.taker player1.username player2.username w := by
      unfold Round.taker
      rcases hwinner : r.ending.winner with _ | side
      · exact h _ _ _ r player1 player2 rfl haccepted hstored hwinner
      · rfl
    rw [heq, heq', hquiet', htaker, Round.after_renamed]
    exact congrArg (fun x => x.renamed names) hquiet.symm
  · have hmissing' : GameRepository.rowOf (w.renamed names).games gameId = none ∨
        PlayerRepository.rowOf (w.renamed names).players player1Id = none :=
      hmissing.imp_right rowOf_renamed_eq_none.2
    rw [haccepted'.next_missing hmissing', Round.left_renamed]
    exact congrArg (fun x => x.renamed names) (haccepted.next_missing hmissing).symm

/-- And it makes the piles differ, if the recipients differ. -/
theorem piles_playCard2_ne (h : ¬ SameRecipient names rows request w) :
    (playCard2 rows request (w.renamed names)).2.piles ≠ (playCard2 rows request w).2.piles := by
  simp only [SameRecipient, not_forall] at h
  obtain ⟨player1Id, player2Id, gameId, r, player1, player2, rfl, haccepted, hstored, hout, hne⟩ :=
    h
  obtain ⟨response, v, heq, hquiet, -⟩ := haccepted.succeeds hstored
  obtain ⟨response', v', heq', hquiet', -⟩ :=
    (haccepted.renamed names).succeeds (hstored.renamed names)
  intro hpiles
  rw [heq, heq'] at hpiles
  rw [Round.after_renamed] at hquiet'
  have hafter : v.piles = (r.after (r.taker player1.username player2.username w) w).piles := by
    show v.quiet.piles = _
    rw [hquiet]
    rfl
  have hafter' : v'.piles = (r.after (r.taker (player1.renamed names).username
      (player2.renamed names).username (w.renamed names)) w).piles := by
    show v'.quiet.piles = _
    rw [hquiet']
    rfl
  have hsides := Round.piles_after_inj haccepted.ends.cards_ne_nil
    (hafter'.symm.trans (hpiles.trans hafter))
  unfold Round.taker at hsides
  rw [hout] at hsides
  exact hne hsides

end Requests

/-! ## Two runs -/

/-- If the request is one of player 2 whose war runs out of cards, both pairs of names
select the same recipient. -/
def NamesIrrelevant (names : ℤ → String) (w : World) (call : Call) : Prop :=
  ∀ request, call.request = .playCardPlayer2 request → SameRecipient names call.rows request w

/-- **When usernames do not influence the piles.**  In any two runs of plays that start
in states which differ in the usernames only, the captured piles after every request
are the same exactly if at every request whose war runs out of cards both pairs of
names select the same recipient. -/
theorem piles_same_iff (w : World) (names : ℤ → String) (calls : List Call)
    (hplays : ∀ call ∈ calls, call.request.isPlay = true) :
    (∀ pre, pre <+: calls →
      (server.run (w.renamed names) pre).piles = (server.run w pre).piles) ↔
    ∀ x ∈ server.steps w calls, NamesIrrelevant names x.1 x.2 := by
  have hview : ∀ s t, Renamed names s t → t.piles = s.piles := by
    intro s t h
    show t.quiet.piles = _
    rw [h]
    rfl
  have hquiet : ∀ {s t : World}, Renamed names s t → t.quiet = s.quiet.renamed names := fun h => h
  refine Machine.agree_iff World.piles (R := Renamed names)
    (D := fun call : Call => call.request.isPlay = true) hview
    (fun s t call hplay hst hnames => ?_) (fun s t call hplay hst hnames => ?_) rfl hplays
  · cases hrequest : call.request with
    | playCardPlayer1 playerId =>
        rw [next_playCard1 hrequest, next_playCard1 hrequest, hquiet hst, playCard1_renamed]
        rfl
    | playCardPlayer2 request =>
        rw [next_playCard2 hrequest, next_playCard2 hrequest, hquiet hst]
        exact playCard2_renamed (sameRecipient_quiet.2 (hnames request hrequest))
    | _ => simp [hrequest, Request.isPlay] at hplay
  · simp only [NamesIrrelevant, not_forall] at hnames
    obtain ⟨request, hrequest, hne⟩ := hnames
    rw [next_playCard2 hrequest, next_playCard2 hrequest, hquiet hst]
    exact piles_playCard2_ne fun h => hne (sameRecipient_quiet.1 h)

/-- Names that differ from each other and from the text of a tie. -/
structure ClearNames (username1 username2 : String) : Prop where
  differ : username1 ≠ username2
  notTie1 : username1 ≠ tieText
  notTie2 : username2 ≠ tieText

/-- In a game whose two players have such names in both runs the names are irrelevant
throughout: the larger pile gets the cards. -/
theorem namesIrrelevant_of_clearNames {w : World} {names : ℤ → String} {calls : List Call}
    (hplays : ∀ call ∈ calls, call.request.isPlay = true) (player1 player2 : PlayersEntity)
    (hrow1 : PlayerRepository.rowOf w.players player1.playerId = some player1)
    (hrow2 : PlayerRepository.rowOf w.players player2.playerId = some player2)
    (hids : ∀ call ∈ calls, ∀ request, call.request = .playCardPlayer2 request →
      request.player1Id = some player1.playerId ∧ request.player2Id = some player2.playerId)
    (hclear : ClearNames player1.username player2.username)
    (hclear' : ClearNames (names player1.playerId) (names player2.playerId)) :
    ∀ x ∈ server.steps w calls, NamesIrrelevant names x.1 x.2 := by
  rintro ⟨v, call⟩ hx request hrequest player1Id player2Id gameId r p1 p2 rfl - hstored -
  obtain ⟨pre, post, rfl, rfl⟩ := (Machine.mem_steps server).1 hx
  -- the rows are those of the start, since plays do not touch them
  have hplayers : (server.run w pre).players = w.players :=
    players_run_of_isPlay fun call hcall => hplays call (List.mem_append_left _ hcall)
  obtain ⟨hid1, hid2⟩ := hids call (List.mem_append_right _ List.mem_cons_self) _ hrequest
  cases hid1
  cases hid2
  have h1 := hstored.player1
  have h2 := hstored.player2
  rw [hplayers] at h1 h2
  cases hrow1.symm.trans h1
  cases hrow2.symm.trans h2
  rw [recipient_eq_largerPile hclear.differ hclear.notTie1 hclear.notTie2,
    recipient_eq_largerPile hclear'.differ hclear'.notTie1 hclear'.notTie2]

/-- Other names for the two players. -/
def otherNames : ℤ → String
  | 1 => "left"
  | _ => "right"

/-- The war that follows on the first pair runs out of cards, and such names do not
change who gets them. -/
theorem piles_same_otherNames :
    let w := server.run (World.initial migratedDeck) player1HasPlayed
    ∀ pre, pre <+: [⟨.playCardPlayer2 ⟨some 1, some 2, some 1⟩, .same, .same⟩] →
      (server.run (w.renamed otherNames) pre).piles = (server.run w pre).piles := by
  intro w
  have hplays : ∀ call ∈ [(⟨.playCardPlayer2 ⟨some 1, some 2, some 1⟩, .same, .same⟩ : Call)],
      call.request.isPlay = true := by decide
  refine (piles_same_iff w otherNames _ hplays).2 (namesIrrelevant_of_clearNames hplays
    ⟨1, "player1", some "session1"⟩ ⟨2, "player2", some "session2"⟩ (by decide +kernel)
    (by decide +kernel) ?_ ⟨by decide, by decide, by decide⟩ ⟨by decide, by decide, by decide⟩)
  intro call hcall request hrequest
  rw [List.mem_singleton.1 hcall] at hrequest
  cases hrequest
  exact ⟨rfl, rfl⟩

/-- Player 1 is called as the tie is. -/
def tieNames : ℤ → String
  | 1 => "It was a tie"
  | _ => "player2"

/-- The same war runs out of cards with equal piles.  Its cards are lost in the one
run, and in the other one they go to the player who is called as the tie is. -/
theorem piles_differ_by_name :
    let w := server.run (World.initial migratedDeck) player1HasPlayed
    let call : Call := ⟨.playCardPlayer2 ⟨some 1, some 2, some 1⟩, .same, .same⟩
    w.players.map PlayersEntity.username = ["player1", "player2"] ∧
      (w.renamed tieNames).players.map PlayersEntity.username = ["It was a tie", "player2"] ∧
      (server.next w call).piles = ([], []) ∧
      (server.next (w.renamed tieNames) call).piles ≠ ([], []) := by
  decide +kernel

end WarCardGame
