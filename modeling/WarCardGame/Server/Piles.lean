import WarCardGame.Server.Tables
import WarCardGame.Service.Endings

/-!
# No card is captured twice

A card that is put down leaves its hand by being flagged, and it may be flagged
only if it was not.  So the cards in the two captured piles and the cards that
lie on the table are all different, and all flagged: that is `OnTable pot w`,
where `pot` are the cards on the table that still have to be won.

* `OnTable.drawNextCard`, `OnTable.drawWarCards` — a draw puts a new card into
  the pot.
* `OnTable.captured1`, `OnTable.captured2`, `OnTable.award` — cards go from the
  pot to a pile.
* `war_resolves`, `gameRound_resolves` — a round that ends hands out the pot, or
  forgets some of it; a round that throws leaves the played pair in it.
* `piles_run` — the invariant of the server: the pot is player 1's card while
  it is player 2's turn, and empty otherwise.
-/

namespace WarCardGame

open Lib

/-- The two captured piles, player 1's first. -/
def World.captured (w : World) : List CardsEntity :=
  w.player1CapturedCards ++ w.player2CapturedCards

/-- The card row with the given key is flagged. -/
def World.flagged (w : World) (cardId : ℤ) : Prop :=
  ∃ c ∈ w.cards, c.cardId = cardId ∧ c.isPlayed = true

/-- The keys of some cards. -/
abbrev cardIds (cards : List CardsEntity) : List ℤ := cards.map CardsEntity.cardId

/-- The cards of the pot and of the two piles are all different, and flagged. -/
structure OnTable (pot : List ℤ) (w : World) : Prop where
  keys : (cardIds w.cards).Nodup
  distinct : (pot ++ cardIds w.captured).Nodup
  played : ∀ k ∈ pot ++ cardIds w.captured, w.flagged k

namespace OnTable

variable {w w' : World} {pot pot' rest : List ℤ}

/-- Cards may move between the pot and the piles. -/
theorem of_perm (h : OnTable pot w) (hcards : w'.cards = w.cards)
    (hperm : (pot ++ cardIds w.captured).Perm (pot' ++ cardIds w'.captured)) : OnTable pot' w' where
  keys := by rw [hcards]; exact h.keys
  distinct := hperm.nodup_iff.1 h.distinct
  played := by
    intro k hk
    obtain ⟨c, hc, hflag⟩ := h.played k (hperm.mem_iff.2 hk)
    exact ⟨c, by rw [hcards]; exact hc, hflag⟩

/-- Cards of the pot may be forgotten. -/
theorem mono (h : OnTable pot w) (hsub : pot'.Sublist pot) : OnTable pot' w where
  keys := h.keys
  distinct := h.distinct.sublist (hsub.append_right _)
  played := fun k hk => h.played k ((hsub.append_right _).subset hk)

/-- The piles and the card rows are all that counts. -/
theorem same (h : OnTable pot w) (hcards : w'.cards = w.cards)
    (h1 : w'.player1CapturedCards = w.player1CapturedCards)
    (h2 : w'.player2CapturedCards = w.player2CapturedCards) : OnTable pot w' := by
  refine h.of_perm hcards (List.Perm.of_eq ?_)
  simp only [World.captured, h1, h2]

/-- An unplayed card is neither in the pot nor in a pile. -/
theorem not_mem (h : OnTable pot w) {c : CardsEntity} (hc : c ∈ w.cards)
    (hunplayed : c.isPlayed = false) : c.cardId ∉ pot ++ cardIds w.captured := by
  intro hmem
  obtain ⟨d, hd, hkey, hplayed⟩ := h.played _ hmem
  have heq : d = c := Rows.eq_of_key_eq CardsEntity.cardId h.keys hd hc hkey
  rw [heq, hunplayed] at hplayed
  cases hplayed

/-- Flagging an unplayed card puts it into the pot. -/
theorem saveCard (h : OnTable (pot ++ rest) w) {c : CardsEntity} (hc : c ∈ w.cards)
    (hunplayed : c.isPlayed = false) :
    OnTable (pot ++ [c.cardId] ++ rest) (w.saveCard c.setPlayed) := by
  have hperm : (pot ++ [c.cardId] ++ rest ++ cardIds w.captured).Perm
      (c.cardId :: (pot ++ rest ++ cardIds w.captured)) := by
    simp
  refine ⟨?_, hperm.nodup_iff.2 (List.nodup_cons.2 ⟨h.not_mem hc hunplayed, h.distinct⟩), ?_⟩
  · show (cardIds (Rows.save CardsEntity.cardId c.setPlayed w.cards)).Nodup
    rw [cardIds, Rows.map_key_save]
    exact h.keys
  · intro k hk
    rcases List.mem_cons.1 (hperm.mem_iff.1 hk) with rfl | hold
    · exact ⟨c.setPlayed, (Rows.mem_save _).2 (Or.inr ⟨rfl, List.mem_map.2 ⟨c, hc, rfl⟩⟩), rfl, rfl⟩
    · obtain ⟨d, hd, hkey, hplayed⟩ := h.played k hold
      refine ⟨d, (Rows.mem_save _).2 (Or.inl ⟨hd, fun hdc => ?_⟩), hkey, hplayed⟩
      have heq : d = c := Rows.eq_of_key_eq CardsEntity.cardId h.keys hd hc hdc
      rw [heq, hunplayed] at hplayed
      cases hplayed

theorem send (h : OnTable pot w) (ms : List Message) : OnTable pot (w.send ms) :=
  h.same rfl rfl rfl

theorem captured1 {cards : List CardsEntity} (h : OnTable (cardIds cards ++ rest) w) :
    OnTable rest (w.captured1 cards) := by
  refine h.of_perm rfl (List.perm_iff_count.2 fun k => ?_)
  simp only [World.captured, World.captured1, cardIds, List.map_append, List.count_append]
  omega

theorem captured2 {cards : List CardsEntity} (h : OnTable (cardIds cards ++ rest) w) :
    OnTable rest (w.captured2 cards) := by
  refine h.of_perm rfl (List.perm_iff_count.2 fun k => ?_)
  simp only [World.captured, World.captured2, cardIds, List.map_append, List.count_append]
  omega

theorem award {cards : List CardsEntity} (h : OnTable (cardIds cards ++ rest) w)
    (username1 username2 winner : String) :
    OnTable rest (w.award username1 username2 winner cards) := by
  unfold World.award
  split_ifs
  · exact h.captured1
  · exact h.captured2
  · exact h.mono (List.sublist_append_right _ _)

/-! ## Draws -/

theorem drawNextCard {rows : CardOrder} {playerId : ℤ} (h : OnTable (pot ++ rest) w)
    {c : CardsEntity} (hdraw : WarCardGame.drawNextCard rows playerId w = (.ok (some c), w')) :
    OnTable (pot ++ [c.cardId] ++ rest) w' := by
  rcases drawNextCard_cases rows playerId w with ⟨hnone, -⟩ | ⟨d, hd, -, hunplayed, hsome⟩
  · rw [hnone] at hdraw
    cases hdraw
  · rw [hsome] at hdraw
    cases hdraw
    have hsave := h.saveCard hd hunplayed
    exact hsave

end OnTable

/-- The loop of `war` adds what it draws to the cards it starts with, and to the
pot. -/
theorem OnTable.drawWarCards {rows : CardOrder} {player1Id player2Id : ℤ} {rest : List ℤ} :
    ∀ (n : ℕ) {warCards : List CardsEntity} {d : WarDraw} {w w' : World},
      OnTable (cardIds warCards ++ rest) w →
      WarCardGame.drawWarCards rows player1Id player2Id n warCards w = (.ok d, w') →
      (∃ more, d.cards = warCards ++ more) ∧ OnTable (cardIds d.cards ++ rest) w' := by
  intro n
  induction n with
  | zero =>
      intro warCards d w w' h hdraw
      cases hdraw
      exact ⟨⟨[], by simp [WarDraw.cards]⟩, h⟩
  | succ n ih =>
      intro warCards d w w' h hdraw
      rcases drawWarCards_succ rows player1Id player2Id n warCards w with
        ⟨-, hrun⟩ | ⟨c1, w1, h1, -, hrun⟩ | ⟨c1, w1, c2, w2, h1, h2, hrun⟩ <;> rw [hrun] at hdraw
      · cases hdraw
        exact ⟨⟨[], by simp [WarDraw.cards]⟩, h⟩
      · cases hdraw
        refine ⟨⟨[c1], rfl⟩, ?_⟩
        simpa [WarDraw.cards] using h.drawNextCard h1
      · have hpot : OnTable (cardIds (warCards ++ [c1, c2]) ++ rest) w2 := by
          simpa using (h.drawNextCard h1).drawNextCard h2
        obtain ⟨⟨more, hmore⟩, hend⟩ := ih hpot hdraw
        exact ⟨⟨[c1, c2] ++ more, by rw [hmore, List.append_assoc]⟩, hend⟩

/-! ## Rounds -/

/-- How a round leaves the table: nothing has to be won any more, or, if the
round threw, player 1's card still has to be. -/
def Resolved (playedCard1 : CardsEntity) : Except Failure Unit × World → Prop
  | (.ok _, w) => OnTable [] w
  | (.error _, w) => OnTable [playedCard1.cardId] w

theorem declareWinnerAndAddWarCards_resolves (gameId player1Id player2Id : ℤ)
    {c : CardsEntity} {cards : List CardsEntity} {rest : List ℤ} {w : World}
    (h : OnTable (cardIds (c :: cards) ++ rest) w) :
    Resolved c (declareWinnerAndAddWarCards gameId player1Id player2Id (c :: cards) w) := by
  rcases rows_stored_or_missing gameId player1Id player2Id w with ⟨g, p1, p2, hg, h1, h2⟩ | hmissing
  · rw [declareWinnerAndAddWarCards_apply hg h1 h2]
    exact ((h.award _ _ _).send _).mono (List.nil_sublist _)
  · rw [declareWinnerAndAddWarCards_missing hmissing]
    exact h.mono (by simp)

theorem war_resolves (rows : CardOrder) (player1Id player2Id gameId : ℤ) {c1 c2 : CardsEntity}
    {rest : List ℤ} {w : World} (h1 : w.playedCard1 = some c1) (h2 : w.playedCard2 = some c2)
    (h : OnTable (cardIds [c1, c2] ++ rest) w) :
    Resolved c1 (war rows player1Id player2Id gameId w) := by
  -- by induction on the levels of the war: a level that ties leaves its draws in `rest`
  refine war_induction rows player1Id player2Id
    (motive := fun w => ∀ rest : List ℤ, w.playedCard1 = some c1 → w.playedCard2 = some c2 →
      OnTable (cardIds [c1, c2] ++ rest) w →
      Resolved c1 (war rows player1Id player2Id gameId w)) ?_ w rest h1 h2 h
  clear h1 h2 h rest w
  intro w ih rest h1 h2 h
  have hlevel : ∀ {d w'}, warDraw rows player1Id player2Id w = (.ok d, w') →
      (∃ more, d.cards = [c1, c2] ++ more) ∧ OnTable (cardIds d.cards ++ rest) w' := by
    intro d w' hdraw
    unfold warDraw at hdraw
    rw [h1, h2] at hdraw
    exact OnTable.drawWarCards 3 h hdraw
  rcases war_cases rows player1Id player2Id gameId w with
    ⟨cs, w', hdraw, hwar⟩ | ⟨cs, w', hdraw, hwar⟩ | ⟨cs, a, b, w', hdraw, -, hwar⟩ |
    ⟨cs, a, b, w', hdraw, -, hwar⟩ | ⟨cs, a, b, w', hdraw, -, hwar⟩ <;> rw [hwar] <;>
    obtain ⟨⟨more, hmore⟩, hpot⟩ := hlevel hdraw <;> simp only [WarDraw.cards] at hmore hpot
  · have hend : Resolved c1 (declareWinnerAndAddWarCards gameId player1Id player2Id cs w') := by
      rw [hmore] at hpot ⊢
      exact declareWinnerAndAddWarCards_resolves gameId player1Id player2Id hpot
    rw [Handler.bind_apply]
    rcases hrun : declareWinnerAndAddWarCards gameId player1Id player2Id cs w' with ⟨e | u, w''⟩ <;>
      rw [hrun] at hend
    · exact hend
    · exact OnTable.send hend _
  · rw [hmore] at hpot ⊢
    exact declareWinnerAndAddWarCards_resolves gameId player1Id player2Id hpot
  · exact hpot.captured1.mono (List.nil_sublist _)
  · exact hpot.captured2.mono (List.nil_sublist _)
  · have hframe := RoundFrame.drawWarCards rows player1Id player2Id 3 hdraw
    refine ih _ _ hdraw (cardIds more ++ rest) (hframe.playedCard1.trans h1)
      (hframe.playedCard2.trans h2) ?_
    rw [hmore] at hpot
    simpa using hpot.send [.gameWar warText]

theorem gameRound_resolves (rows : CardOrder) (player1Id player2Id gameId : ℤ)
    {c1 c2 : CardsEntity} {w : World} (h1 : w.playedCard1 = some c1) (h2 : w.playedCard2 = some c2)
    (h : OnTable (cardIds [c1, c2]) w) :
    Resolved c1 (gameRound rows player1Id player2Id gameId w) := by
  rcases gameRound_cases rows player1Id player2Id gameId w with
    ⟨hnull, -⟩ | ⟨d1, d2, hd1, hd2, -, hround⟩ | ⟨d1, d2, hd1, hd2, -, hround⟩ |
    ⟨d1, d2, -, -, -, hround⟩
  · simp [h1, h2] at hnull
  all_goals
    rw [hround]
    have hpot : OnTable (cardIds [c1, c2] ++ []) w := by simpa using h
  · cases h1.symm.trans hd1
    cases h2.symm.trans hd2
    exact hpot.captured1
  · cases h1.symm.trans hd1
    cases h2.symm.trans hd2
    exact hpot.captured2
  · exact war_resolves rows player1Id player2Id gameId h1 h2 (hpot.send _)

/-! ## Deals -/

/-- The rows keep their keys and their flags. -/
structure SameFlags (cards cards' : List CardsEntity) : Prop where
  keys : cardIds cards' = cardIds cards
  flags : ∀ c ∈ cards', ∃ d ∈ cards, d.cardId = c.cardId ∧ d.isPlayed = c.isPlayed

namespace SameFlags

variable {cards cards' cards'' : List CardsEntity}

theorem trans (h : SameFlags cards cards') (h' : SameFlags cards' cards'') :
    SameFlags cards cards'' := by
  refine ⟨h'.keys.trans h.keys, fun c'' hc'' => ?_⟩
  obtain ⟨c', hc', hkey', hflag'⟩ := h'.flags c'' hc''
  obtain ⟨c, hc, hkey, hflag⟩ := h.flags c' hc'
  exact ⟨c, hc, hkey.trans hkey', hflag.trans hflag'⟩

/-- Every old row has a new one with its key and its flag. -/
theorem exists_of_mem (h : SameFlags cards cards') (hnd : (cardIds cards).Nodup) {d : CardsEntity}
    (hd : d ∈ cards) : ∃ c ∈ cards', c.cardId = d.cardId ∧ c.isPlayed = d.isPlayed := by
  have hmem : d.cardId ∈ cardIds cards' := by
    rw [h.keys]
    exact List.mem_map_of_mem hd
  obtain ⟨c, hc, hkey⟩ := List.mem_map.1 hmem
  obtain ⟨e, he, hkey', hflag⟩ := h.flags c hc
  have heq : e = d := Rows.eq_of_key_eq CardsEntity.cardId hnd he hd (hkey'.trans hkey)
  exact ⟨c, hc, hkey, by rw [← hflag, heq]⟩

/-- Dealing stored cards writes no flag. -/
theorem deal (player : Option ℤ) {hand : List CardsEntity} (hhand : hand ⊆ cards) :
    SameFlags cards (Rows.saveAll CardsEntity.cardId (dealt player 0 hand) cards) := by
  refine ⟨Rows.map_key_saveAll _ _ _, fun c hc => ?_⟩
  rcases Rows.mem_of_mem_saveAll _ hc with hdealt | ⟨hold, -⟩
  · obtain ⟨d, hd, n, rfl⟩ := exists_of_mem_dealt hdealt
    exact ⟨d, hhand hd, rfl, rfl⟩
  · exact ⟨c, hold, rfl, rfl⟩

end SameFlags

/-! ## The server -/

/-- The cards that lie on the table between two requests: player 1's, while it
is player 2's turn. -/
def World.pot (w : World) : List ℤ :=
  if w.player2Turn then cardIds w.playedCard1.toList else []

/-- The invariant of the piles. -/
structure Piles (w : World) : Prop where
  onTable : OnTable w.pot w
  playedCard1 : w.player2Turn = true → w.playedCard1 ≠ none

namespace Piles

variable {w w' : World}

theorem initial (deck : Deck) : Piles (World.initial deck) where
  onTable := ⟨deck.nodup, List.nodup_nil, fun k hk => absurd hk List.not_mem_nil⟩
  playedCard1 := fun h => by cases h

/-- The invariant while it is player 1's turn. -/
theorem of_turn1 (h : OnTable [] w) (hturn : w.player2Turn = false) : Piles w where
  onTable := by
    rw [World.pot, hturn]
    exact h
  playedCard1 := fun h2 => by
    rw [hturn] at h2
    cases h2

/-- The invariant while player 1's card waits for player 2's. -/
theorem of_turn2 {c : CardsEntity} (h : OnTable [c.cardId] w) (hcard : w.playedCard1 = some c) :
    Piles w where
  onTable := by
    refine h.mono ?_
    rw [World.pot, hcard]
    split_ifs <;> simp
  playedCard1 := fun _ => by simp [hcard]

/-- Rows may be rewritten as long as every flag stays. -/
theorem withCards (h : Piles w) {cards : List CardsEntity} (hflags : SameFlags w.cards cards) :
    Piles { w with cards := cards } where
  onTable := by
    refine ⟨by rw [hflags.keys]; exact h.onTable.keys, h.onTable.distinct, fun k hk => ?_⟩
    obtain ⟨d, hd, hkey, hplayed⟩ := h.onTable.played k hk
    obtain ⟨c, hc, hkey', hplayed'⟩ := hflags.exists_of_mem h.onTable.keys hd
    exact ⟨c, hc, hkey'.trans hkey, hplayed'.trans hplayed⟩
  playedCard1 := h.playedCard1

/-- The invariant reads the card rows and the fields of the service only. -/
theorem same (h : Piles w) (hcards : w'.cards = w.cards) (hturn : w'.player2Turn = w.player2Turn)
    (hcard : w'.playedCard1 = w.playedCard1)
    (h1 : w'.player1CapturedCards = w.player1CapturedCards)
    (h2 : w'.player2CapturedCards = w.player2CapturedCards) : Piles w' where
  onTable := by
    rw [World.pot, hturn, hcard]
    exact h.onTable.same hcards h1 h2
  playedCard1 := by
    rw [hturn, hcard]
    exact h.playedCard1

/-- The round player 2's card starts resolves the table. -/
theorem round (h : Piles w) (rows : CardOrder) (player1Id player2Id gameId : ℤ) {c : CardsEntity}
    (hc : c ∈ w.cards) (hunplayed : c.isPlayed = false) (hturn : w.player2Turn = true) :
    ∃ c1, w.playedCard1 = some c1 ∧
      Resolved c1 (gameRound rows player1Id player2Id gameId (w.putDown2 c.setPlayed)) := by
  obtain ⟨c1, hc1⟩ := Option.ne_none_iff_exists'.1 (h.playedCard1 hturn)
  refine ⟨c1, hc1, ?_⟩
  have hpot : OnTable ([c1.cardId] ++ []) w := by
    have hon := h.onTable
    rw [World.pot, if_pos hturn, hc1] at hon
    exact hon
  have hdown : OnTable (cardIds [c1, c.setPlayed]) (w.putDown2 c.setPlayed) :=
    (hpot.saveCard hc hunplayed).same rfl rfl rfl
  have hcard2 : (w.putDown2 c.setPlayed).playedCard2 = some c.setPlayed := rfl
  exact gameRound_resolves rows player1Id player2Id gameId hc1 hcard2 hdown

theorem step (h : Piles w) (htables : Tables w) {call : Call} (hstep : Step w call w') :
    Piles w' := by
  cases hstep with
  | unchanged ms => exact h.same rfl rfl rfl rfl rfl
  | create request name session => exact h.same rfl rfl rfl rfl rfl
  | joinFull request gameId name session game => exact h.same rfl rfl rfl rfl rfl
  | join request gameId name session game => exact h.same rfl rfl rfl rfl rfl
  | deal session player hand hrequest hplayer hhand => exact h.withCards (SameFlags.deal _ hhand)
  | play1 playerId c hrequest hc howner hunplayed =>
      have hpot : OnTable ([] ++ []) w := h.onTable.mono (List.nil_sublist _)
      refine of_turn2 (c := c.setPlayed) ?_ rfl
      exact (hpot.saveCard hc hunplayed).same rfl rfl rfl
  | roundFailed player1Id player2Id gameId c e _ hrequest hc howner hunplayed hturn hround =>
      obtain ⟨c1, hc1, hresolved⟩ := h.round call.rows player1Id player2Id gameId hc hunplayed hturn
      have hframe := RoundFrame.of_gameRound hround
      rw [hround] at hresolved
      exact of_turn2 hresolved (hframe.playedCard1.trans hc1)
  | round player1Id player2Id gameId c v ms hrequest hc howner hunplayed hturn hround =>
      obtain ⟨c1, hc1, hresolved⟩ := h.round call.rows player1Id player2Id gameId hc hunplayed hturn
      rw [hround] at hresolved
      exact of_turn1 (OnTable.same hresolved rfl rfl rfl) rfl
  | leaveRefused gameId session game player ms hrequest hgame hplayer hreferenced =>
      -- the delete is refused only if the player was not in the game, and then no card changed
      obtain ⟨-, hmem, -⟩ := mem_of_sessionLookup hplayer
      have hfree := (htables.leave call.rows call.shuffle (Tables.mem_of_rowOf hgame).1 hmem).2
      rcases htables.vacated_cases call.rows call.shuffle hmem game with
        ⟨-, hvacated⟩ | ⟨game', -, -, hperm, -⟩
      · rw [hvacated, World.closeGame_frame]
        exact h.same rfl rfl rfl rfl rfl
      · rw [hfree (hperm.mem_iff.2 (List.mem_cons_self ..))] at hreferenced
        cases hreferenced
  | leave gameId session game player ms hrequest hgame hplayer hreferenced =>
      obtain ⟨-, hmem, -⟩ := mem_of_sessionLookup hplayer
      have hleave := (htables.leave call.rows call.shuffle (Tables.mem_of_rowOf hgame).1 hmem).1
      refine of_turn1 ⟨hleave.cardKeys, List.nodup_nil, fun k hk => absurd hk List.not_mem_nil⟩ rfl

end Piles

/-- The invariant of the piles holds after every sequence of requests. -/
theorem piles_run (deck : Deck) (calls : List Call) :
    Piles (server.run (World.initial deck) calls) := by
  have hboth : Tables (server.run (World.initial deck) calls) ∧
      Piles (server.run (World.initial deck) calls) := by
    refine Machine.run_invariant (I := fun w => Tables w ∧ Piles w) ?_
      ⟨Tables.initial deck, Piles.initial deck⟩ calls
    rintro w call ⟨htables, hpiles⟩
    have hquiet : Piles w.quiet := hpiles.same rfl rfl rfl rfl rfl
    exact ⟨htables.quiet.step (step_next w call), hquiet.step htables.quiet (step_next w call)⟩
  exact hboth.2

/-- **No card is ever captured twice.**  After any requests the cards of the two
piles have pairwise distinct keys and are flagged in the card table, and during
player 2's turn the card player 1 put down is there, flagged, and in no pile. -/
theorem captured_cards_distinct_and_played (deck : Deck) (calls : List Call) :
    let w := server.run (World.initial deck) calls
    (cardIds (w.player1CapturedCards ++ w.player2CapturedCards)).Nodup ∧
    (∀ c ∈ w.player1CapturedCards ++ w.player2CapturedCards, w.flagged c.cardId) ∧
    (w.player2Turn = true → ∃ c, w.playedCard1 = some c ∧ w.flagged c.cardId ∧
      c.cardId ∉ cardIds (w.player1CapturedCards ++ w.player2CapturedCards)) := by
  intro w
  have hpiles : Piles w := piles_run deck calls
  have hnone := hpiles.onTable.mono (List.nil_sublist _)
  refine ⟨hnone.distinct, fun c hc => hnone.played _ (List.mem_map_of_mem hc), fun hturn => ?_⟩
  obtain ⟨c, hc⟩ := Option.ne_none_iff_exists'.1 (hpiles.playedCard1 hturn)
  have hon := hpiles.onTable
  rw [World.pot, if_pos hturn, hc] at hon
  exact ⟨c, hc, hon.played _ (by simp), (List.nodup_cons.1 hon.distinct).1⟩

end WarCardGame
