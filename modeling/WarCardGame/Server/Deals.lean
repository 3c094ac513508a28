import WarCardGame.Server.Tables
import WarCardGame.Service.Deals

/-!
# Dealing to two players, one after the other

`dealCards1` and `dealCards2` each list the whole card table and take a half of
their own list.  The query has no `ORDER BY`, so the two lists need not agree, and
then a card may be in both halves and another one in neither.

* `EvenDeal` — the deck is split: every card has one of the two owners, the hands
  have the right sizes, and positions count from zero.
* `cards_twoDeals` — what the table holds after the two deals: player 2's rows,
  player 1's rows that player 2's did not overwrite, and rows nobody was dealt.
* `evenDeal_iff` — exactly when that is an even deal.
-/

namespace WarCardGame

open Lib

/-- The cards with the given owner. -/
def ownedBy (playerId : ℤ) (cards : List CardsEntity) : List CardsEntity :=
  cards.filter fun c => c.players = some playerId

/-- The deck is split between two players. -/
structure EvenDeal (player1Id player2Id : ℤ) (cards : List CardsEntity) : Prop where
  owned : ∀ c ∈ cards, c.players = some player1Id ∨ c.players = some player2Id
  size1 : (ownedBy player1Id cards).length = cards.length / 2
  size2 : (ownedBy player2Id cards).length = cards.length - cards.length / 2
  order1 : ((ownedBy player1Id cards).map CardsEntity.dealOrder).Perm
    ((List.range (cards.length / 2)).map Nat.cast)
  order2 : ((ownedBy player2Id cards).map CardsEntity.dealOrder).Perm
    ((List.range (cards.length - cards.length / 2)).map Nat.cast)

/-! ## Hands in the table -/

section Hands

variable {player1Id player2Id : ℤ} {cards : List CardsEntity}

theorem ownedBy_perm {cards' : List CardsEntity} (playerId : ℤ) (h : cards.Perm cards') :
    (ownedBy playerId cards).Perm (ownedBy playerId cards') := h.filter _

theorem ownedBy_append (playerId : ℤ) (l l' : List CardsEntity) :
    ownedBy playerId (l ++ l') = ownedBy playerId l ++ ownedBy playerId l' := List.filter_append ..

theorem ownedBy_eq_self {playerId : ℤ} (h : ∀ c ∈ cards, c.players = some playerId) :
    ownedBy playerId cards = cards :=
  List.filter_eq_self.2 fun c hc => by simp [h c hc]

theorem ownedBy_eq_nil {playerId : ℤ} (h : ∀ c ∈ cards, c.players ≠ some playerId) :
    ownedBy playerId cards = [] :=
  List.filter_eq_nil_iff.2 fun c hc => by simp [h c hc]

/-- The table is a hand `hand2` of player 2, what is left of a hand `hand1` of
player 1, and other rows `rest`, as many as were taken out of `hand1`.  It is an
even deal exactly if the other rows belong to player 1 and have the positions
of the rows that were taken out. -/
theorem evenDeal_iff_rest (hne : player1Id ≠ player2Id) {hand1 hand2 : List CardsEntity}
    (kept lost rest : List CardsEntity)
    (hcards : cards.Perm (hand2 ++ (kept ++ rest))) (hhand1 : hand1.Perm (kept ++ lost))
    (howner1 : ∀ c ∈ hand1, c.players = some player1Id)
    (howner2 : ∀ c ∈ hand2, c.players = some player2Id)
    (hsize1 : hand1.length = cards.length / 2)
    (hsize2 : hand2.length = cards.length - cards.length / 2)
    (horder1 : hand1.map CardsEntity.dealOrder = (List.range hand1.length).map Nat.cast)
    (horder2 : hand2.map CardsEntity.dealOrder = (List.range hand2.length).map Nat.cast) :
    EvenDeal player1Id player2Id cards ↔
      (∀ c ∈ rest, c.players = some player1Id) ∧
        (rest.map CardsEntity.dealOrder).Perm (lost.map CardsEntity.dealOrder) := by
  have hne' : some player2Id ≠ some player1Id := fun h => hne (Option.some.inj h).symm
  have hkept : ∀ c ∈ kept, c.players = some player1Id := fun c hc =>
    howner1 c (hhand1.mem_iff.2 (List.mem_append_left _ hc))
  have howned1 : (ownedBy player1Id cards).Perm (kept ++ ownedBy player1Id rest) := by
    refine (ownedBy_perm player1Id hcards).trans ?_
    rw [ownedBy_append, ownedBy_append, ownedBy_eq_self hkept,
      ownedBy_eq_nil fun c hc => howner2 c hc ▸ hne', List.nil_append]
  have howned2 : (ownedBy player2Id cards).Perm (hand2 ++ ownedBy player2Id rest) := by
    refine (ownedBy_perm player2Id hcards).trans ?_
    rw [ownedBy_append, ownedBy_append, ownedBy_eq_self howner2,
      ownedBy_eq_nil fun c hc => hkept c hc ▸ hne'.symm, List.nil_append]
  -- the positions in player 1's hand, as they were dealt
  have hpositions : ((List.range (cards.length / 2)).map Nat.cast).Perm
      (kept.map CardsEntity.dealOrder ++ lost.map CardsEntity.dealOrder) := by
    rw [← hsize1, ← horder1, ← List.map_append]
    exact hhand1.map _
  constructor
  · intro heven
    have hnone : ownedBy player2Id rest = [] := by
      have hlength := howned2.length_eq
      rw [heven.size2, List.length_append, hsize2] at hlength
      exact List.length_eq_zero_iff.1 (by omega)
    have hrest : ∀ c ∈ rest, c.players = some player1Id := by
      intro c hc
      have hmem : c ∈ cards :=
        hcards.mem_iff.2 (List.mem_append_right _ (List.mem_append_right _ hc))
      refine (heven.owned c hmem).resolve_right fun h2 => ?_
      have hin : c ∈ ownedBy player2Id rest := List.mem_filter.2 ⟨hc, by simp [h2]⟩
      rw [hnone] at hin
      exact absurd hin List.not_mem_nil
    refine ⟨hrest, ?_⟩
    have horder := (howned1.map CardsEntity.dealOrder).symm.trans (heven.order1.trans hpositions)
    rw [ownedBy_eq_self hrest, List.map_append] at horder
    exact (List.perm_append_left_iff _).1 horder
  · rintro ⟨hrest, horder⟩
    have hnone : ownedBy player2Id rest = [] :=
      ownedBy_eq_nil fun c hc => hrest c hc ▸ hne'.symm
    rw [ownedBy_eq_self hrest] at howned1
    rw [hnone, List.append_nil] at howned2
    have hlost : rest.length = lost.length := by
      have hlength := horder.length_eq
      rwa [List.length_map, List.length_map] at hlength
    refine ⟨fun c hc => ?_, ?_, ?_, ?_, ?_⟩
    · rcases List.mem_append.1 (hcards.mem_iff.1 hc) with h2 | h1
      · exact Or.inr (howner2 c h2)
      · rcases List.mem_append.1 h1 with hk | hr
        · exact Or.inl (hkept c hk)
        · exact Or.inl (hrest c hr)
    · rw [howned1.length_eq, ← hsize1, hhand1.length_eq, List.length_append, List.length_append,
        hlost]
    · rw [howned2.length_eq, hsize2]
    · refine (howned1.map _).trans ?_
      rw [List.map_append]
      exact (horder.append_left _).trans hpositions.symm
    · rw [← hsize2, ← horder2]
      exact howned2.map _

end Hands

/-! ## The two deals -/

/-- A deal of each kind, one after the other, with the order in which the database
lists the cards each time. -/
def twoDeals (session1 session2 : Option String) (rows1 shuffle1 rows2 shuffle2 : CardOrder) :
    List Call :=
  [⟨.dealCardsPlayer1 session1, rows1, shuffle1⟩, ⟨.dealCardsPlayer2 session2, rows2, shuffle2⟩]

section TwoDeals

variable {w : World} {session1 session2 : Option String} {player1 player2 : PlayersEntity}

theorem cards_deal1 (rows shuffle : CardOrder)
    (h1 : sessionLookup w.players session1 = .ok (some player1)) :
    (server.next w ⟨.dealCardsPlayer1 session1, rows, shuffle⟩).players = w.players ∧
    (server.next w ⟨.dealCardsPlayer1 session1, rows, shuffle⟩).cards =
      Rows.saveAll CardsEntity.cardId
        (dealtRows half1 rows shuffle (some player1.playerId) w.cards) w.cards := by
  rw [next_dealCards1 rfl h1]
  exact ⟨rfl, rfl⟩

theorem cards_deal2 (rows shuffle : CardOrder)
    (h2 : sessionLookup w.players session2 = .ok (some player2)) :
    (server.next w ⟨.dealCardsPlayer2 session2, rows, shuffle⟩).players = w.players ∧
    (server.next w ⟨.dealCardsPlayer2 session2, rows, shuffle⟩).cards =
      Rows.saveAll CardsEntity.cardId
        (dealtRows half2 rows shuffle (some player2.playerId) w.cards) w.cards := by
  rw [next_dealCards2 rfl h2]
  exact ⟨rfl, rfl⟩

/-- Players with different sessions have different keys. -/
theorem playerId_ne_of_session (hplayers : w.playerIds.Nodup) (hsessions : session1 ≠ session2)
    (h1 : sessionLookup w.players session1 = .ok (some player1))
    (h2 : sessionLookup w.players session2 = .ok (some player2)) :
    player1.playerId ≠ player2.playerId := by
  intro hid
  obtain ⟨-, hmem1, hsession1⟩ := mem_of_sessionLookup h1
  obtain ⟨-, hmem2, hsession2⟩ := mem_of_sessionLookup h2
  have hsame := Rows.eq_of_key_eq PlayersEntity.playerId hplayers hmem1 hmem2 hid
  exact hsessions (by rw [← hsession1, hsame, hsession2])

end TwoDeals

section Listings

variable {cards : List CardsEntity}

/-- The keys of a half are keys of the table, without repetition. -/
theorem half_keys (hcards : (cards.map CardsEntity.cardId).Nodup) (rows : CardOrder) :
    ((half1 (rows.apply cards)).map CardsEntity.cardId).Nodup ∧
    ((half2 (rows.apply cards)).map CardsEntity.cardId).Nodup ∧
    (half2 (rows.apply cards)).map CardsEntity.cardId ⊆ cards.map CardsEntity.cardId ∧
    (half1 (rows.apply cards)).map CardsEntity.cardId ⊆ cards.map CardsEntity.cardId ∧
    ∀ k ∈ cards.map CardsEntity.cardId, k ∈ (half2 (rows.apply cards)).map CardsEntity.cardId ↔
      k ∉ (half1 (rows.apply cards)).map CardsEntity.cardId := by
  have hperm := halves_perm rows cards
  have hnodup := hperm.nodup_iff.2 hcards
  obtain ⟨hnd1, hnd2, hdisj⟩ := List.nodup_append.1 hnodup
  refine ⟨hnd1, hnd2, fun k hk => hperm.mem_iff.1 (List.mem_append_right _ hk),
    fun k hk => hperm.mem_iff.1 (List.mem_append_left _ hk), fun k hk => ⟨fun h2 h1 => ?_, ?_⟩⟩
  · exact hdisj k h1 k h2 rfl
  · exact (List.mem_append.1 (hperm.mem_iff.2 hk)).resolve_left

/-- **What the table holds after two deals**: player 2's hand, what is left of
player 1's, and the rows that neither deal reached. -/
theorem cards_twoDeals (hcards : (cards.map CardsEntity.cardId).Nodup)
    {hand1 hand2 : List CardsEntity} {first second : List ℤ}
    (hnd1 : first.Nodup) (hnd2 : second.Nodup)
    (hfirst : first ⊆ cards.map CardsEntity.cardId)
    (hsecond : second ⊆ cards.map CardsEntity.cardId)
    (hkeys1 : (hand1.map CardsEntity.cardId).Perm first)
    (hkeys2 : (hand2.map CardsEntity.cardId).Perm second) :
    (Rows.saveAll CardsEntity.cardId hand2
      (Rows.saveAll CardsEntity.cardId hand1 cards)).Perm
      (hand2 ++ (hand1.filter (fun c => c.cardId ∉ second) ++
        cards.filter fun c => c.cardId ∉ first ∧ c.cardId ∉ second)) := by
  have hperm1 := Rows.saveAll_perm CardsEntity.cardId hcards (hkeys1.nodup_iff.2 hnd1)
    fun k hk => hfirst (hkeys1.mem_iff.1 hk)
  have hsame := Rows.map_key_saveAll CardsEntity.cardId hand1 cards
  have hnodup : ((Rows.saveAll CardsEntity.cardId hand1 cards).map CardsEntity.cardId).Nodup :=
    hsame ▸ hcards
  have hperm2 := Rows.saveAll_perm CardsEntity.cardId hnodup (hkeys2.nodup_iff.2 hnd2)
    fun k hk => hsame ▸ hsecond (hkeys2.mem_iff.1 hk)
  refine hperm2.trans (List.Perm.append_left _ ?_)
  refine (hperm1.filter _).trans (List.Perm.of_eq ?_)
  rw [List.filter_append, List.filter_filter]
  congr 1
  · exact List.filter_congr fun c _ => by simp only [hkeys2.mem_iff]
  · refine List.filter_congr fun c _ => ?_
    simp only [hkeys1.mem_iff, hkeys2.mem_iff, ← Bool.decide_and, and_comm]

/-- No row is missed exactly if the second list of keys holds the keys that the
first one leaves. -/
theorem missed_eq_nil_iff (first second : List ℤ) {other : List ℤ} (hother : other.Nodup)
    (hlength : second.length = other.length) (hsub : other ⊆ cards.map CardsEntity.cardId)
    (hsplit : ∀ k ∈ cards.map CardsEntity.cardId, k ∈ other ↔ k ∉ first) :
    cards.filter (fun c => c.cardId ∉ first ∧ c.cardId ∉ second) = [] ↔ second.Perm other := by
  rw [List.filter_eq_nil_iff]
  constructor
  · intro hnone
    have hall : other ⊆ second := by
      intro k hk
      obtain ⟨c, hc, rfl⟩ := List.mem_map.1 (hsub hk)
      by_contra hnot
      have hfirst := (hsplit _ (List.mem_map_of_mem hc)).1 hk
      exact hnone c hc (by simp [hfirst, hnot])
    exact ((List.subperm_of_subset hother hall).perm_of_length_le hlength.le).symm
  · intro hperm c hc hmissed
    rw [decide_eq_true_eq] at hmissed
    exact hmissed.2 (hperm.mem_iff.2 ((hsplit _ (List.mem_map_of_mem hc)).2 hmissed.1))

end Listings

/-- Two halves of one list are an even deal. -/
theorem evenDeal_of_halves {player1Id player2Id : ℤ} (hne : player1Id ≠ player2Id)
    {cards : List CardsEntity} (hcards : (cards.map CardsEntity.cardId).Nodup)
    (rows shuffle1 shuffle2 : CardOrder) :
    let hand1 := dealtRows half1 rows shuffle1 (some player1Id) cards
    let hand2 := dealtRows half2 rows shuffle2 (some player2Id) cards
    ((hand1 ++ hand2).map CardsEntity.cardId).Perm (cards.map CardsEntity.cardId) ∧
      EvenDeal player1Id player2Id (Rows.saveAll CardsEntity.cardId (hand1 ++ hand2) cards) := by
  intro hand1 hand2
  have hkeys : ((hand1 ++ hand2).map CardsEntity.cardId).Perm (cards.map CardsEntity.cardId) := by
    rw [List.map_append]
    exact ((map_cardId_dealtRows ..).append (map_cardId_dealtRows ..)).trans
      (halves_perm rows cards)
  refine ⟨hkeys, ?_⟩
  have htable := Rows.saveAll_perm CardsEntity.cardId hcards (hkeys.nodup_iff.2 hcards)
    fun k hk => hkeys.mem_iff.1 hk
  have hnone : cards.filter (fun c => c.cardId ∉ (hand1 ++ hand2).map CardsEntity.cardId) = [] := by
    refine List.filter_eq_nil_iff.2 fun c hc hnot => ?_
    rw [decide_eq_true_eq] at hnot
    exact hnot (hkeys.mem_iff.2 (List.mem_map_of_mem hc))
  rw [hnone, List.append_nil] at htable
  have hlength :=
    congrArg List.length (Rows.map_key_saveAll CardsEntity.cardId (hand1 ++ hand2) cards)
  rw [List.length_map, List.length_map] at hlength
  have hsplit : (Rows.saveAll CardsEntity.cardId (hand1 ++ hand2) cards).Perm
      (hand2 ++ (hand1 ++ [])) := by
    rw [List.append_nil]
    exact htable.trans List.perm_append_comm
  have hwhole : hand1.Perm (hand1 ++ []) := by rw [List.append_nil]
  refine (evenDeal_iff_rest hne hand1 [] [] hsplit hwhole (fun c hc => players_of_mem_dealt hc)
    (fun c hc => players_of_mem_dealt hc) ?_ ?_ (dealOrder_dealtRows ..)
    (dealOrder_dealtRows ..)).2 ?_
  · rw [hlength]
    exact length_dealtRows1 ..
  · rw [hlength]
    exact length_dealtRows2 ..
  · exact ⟨fun c hc => absurd hc List.not_mem_nil, List.Perm.refl _⟩

/-! ## When the deck is split -/

/-- A hand is the cards whose keys are not among some keys, and those whose keys
are. -/
theorem perm_filter_keys (keys : List ℤ) (hand : List CardsEntity) :
    hand.Perm (hand.filter (fun c => c.cardId ∉ keys) ++
      hand.filter fun c => c.cardId ∈ keys) := by
  have hparts := List.filter_append_perm (fun c : CardsEntity => c.cardId ∈ keys) hand
  refine hparts.symm.trans (List.perm_append_comm.trans (List.Perm.of_eq ?_))
  congr 1
  exact List.filter_congr fun c _ => by simp

/-- Rows that do not belong to player 1 are no substitute for rows that did: there
may be none of them. -/
theorem substitutes_iff {playerId : ℤ} {missed lost : List CardsEntity}
    (hfresh : ∀ c ∈ missed, c.players ≠ some playerId) (hlost : missed = [] → lost = []) :
    ((∀ c ∈ missed, c.players = some playerId) ∧
      (missed.map CardsEntity.dealOrder).Perm (lost.map CardsEntity.dealOrder)) ↔
      missed = [] := by
  constructor
  · rintro ⟨howned, -⟩
    exact List.eq_nil_iff_forall_not_mem.2 fun c hc => hfresh c hc (howned c hc)
  · intro hnone
    rw [hlost hnone, hnone]
    exact ⟨fun c hc => absurd hc List.not_mem_nil, List.Perm.refl _⟩

/-- **When two deals split the deck.**  However the database lists the cards each
time, the deck is split exactly if the rows that neither deal reached are, in
owner and position, as good as the rows of player 1's hand that player 2's deal
took away.  In particular, if player 1 held no cards before, it is split exactly
if the second listing ends with the cards with which the first one ended, in any
order. -/
theorem evenDeal_iff (w : World) (hcards : (w.cards.map CardsEntity.cardId).Nodup)
    (hplayers : w.playerIds.Nodup) (session1 session2 : Option String)
    (hsessions : session1 ≠ session2) (player1 player2 : PlayersEntity)
    (h1 : w.players.filter (fun p => p.sessionId = session1) = [player1])
    (h2 : w.players.filter (fun p => p.sessionId = session2) = [player2])
    (rows1 shuffle1 rows2 shuffle2 : CardOrder) :
    let calls := twoDeals session1 session2 rows1 shuffle1 rows2 shuffle2
    let first := (half1 (rows1.apply w.cards)).map CardsEntity.cardId
    let second := (half2 (rows2.apply (server.run w (calls.take 1)).cards)).map CardsEntity.cardId
    let missed := w.cards.filter fun c => c.cardId ∉ first ∧ c.cardId ∉ second
    let lost := (dealtRows half1 rows1 shuffle1 (some player1.playerId) w.cards).filter fun c =>
      c.cardId ∈ second
    (EvenDeal player1.playerId player2.playerId (server.run w calls).cards ↔
      (∀ c ∈ missed, c.players = some player1.playerId) ∧
        (missed.map CardsEntity.dealOrder).Perm (lost.map CardsEntity.dealOrder)) ∧
    ((∀ c ∈ w.cards, c.players ≠ some player1.playerId) →
      (EvenDeal player1.playerId player2.playerId (server.run w calls).cards ↔
        second.Perm ((half2 (rows1.apply w.cards)).map CardsEntity.cardId))) := by
  intro calls first second missed lost
  have hlook1 := sessionLookup_singleton h1
  have hlook2 := sessionLookup_singleton h2
  have hne := playerId_ne_of_session hplayers hsessions hlook1 hlook2
  obtain ⟨hplayers1, hcards1⟩ := cards_deal1 rows1 shuffle1 hlook1
  set w₁ := server.next w ⟨.dealCardsPlayer1 session1, rows1, shuffle1⟩ with hw₁
  obtain ⟨-, hcards2⟩ := cards_deal2 (w := w₁) rows2 shuffle2 (hplayers1 ▸ hlook2)
  have hfinal : (server.run w calls).cards = _ := hcards2
  set hand1 := dealtRows half1 rows1 shuffle1 (some player1.playerId) w.cards with hhand1
  set hand2 := dealtRows half2 rows2 shuffle2 (some player2.playerId) w₁.cards with hhand2
  have hkeys : w₁.cards.map CardsEntity.cardId = w.cards.map CardsEntity.cardId := by
    rw [hcards1, Rows.map_key_saveAll]
  have hlength : w₁.cards.length = w.cards.length := by
    have := congrArg List.length hkeys
    rwa [List.length_map, List.length_map] at this
  have hlengthFinal : (server.run w calls).cards.length = w.cards.length := by
    have := congrArg List.length (Rows.map_key_saveAll CardsEntity.cardId hand2 w₁.cards)
    rw [List.length_map, List.length_map] at this
    rw [hfinal, this, hlength]
  obtain ⟨hnd1, hndRest, -, hsub1, hsplit⟩ := half_keys hcards rows1
  obtain ⟨-, hnd2, hsub2, -, -⟩ := half_keys (hkeys ▸ hcards) rows2
  rw [hkeys] at hsub2
  have hfirst : (hand1.map CardsEntity.cardId).Perm first := map_cardId_dealtRows ..
  have hsecond : (hand2.map CardsEntity.cardId).Perm second := map_cardId_dealtRows ..
  have htable := cards_twoDeals hcards hnd1 hnd2 hsub1 hsub2 hfirst hsecond
  rw [← hcards1, ← hfinal] at htable
  have hlost : hand1.Perm (hand1.filter (fun c => c.cardId ∉ second) ++ lost) :=
    perm_filter_keys second hand1
  have hsize1 : hand1.length = (server.run w calls).cards.length / 2 := by
    rw [hlengthFinal]
    exact length_dealtRows1 ..
  have hsize2 : hand2.length =
      (server.run w calls).cards.length - (server.run w calls).cards.length / 2 := by
    rw [hlengthFinal, ← hlength]
    exact length_dealtRows2 ..
  have heven := evenDeal_iff_rest hne _ _ _ htable hlost (fun c hc => players_of_mem_dealt hc)
    (fun c hc => players_of_mem_dealt hc) hsize1 hsize2 (dealOrder_dealtRows ..)
    (dealOrder_dealtRows ..)
  refine ⟨heven, fun hfresh => heven.trans ?_⟩
  have hmissed := missed_eq_nil_iff first second hndRest ?_ ?_ hsplit
  · refine (substitutes_iff (fun c hc => hfresh c (List.mem_filter.1 hc).1) ?_).trans hmissed
    -- the second listing then ends with other cards than the first hand has
    intro hnone
    have hperm := hmissed.1 hnone
    refine List.filter_eq_nil_iff.2 fun c hc hin => ?_
    rw [decide_eq_true_eq] at hin
    have hkey := hfirst.mem_iff.1 (List.mem_map_of_mem hc)
    exact (hsplit _ (hsub1 hkey)).1 (hperm.mem_iff.1 hin) hkey
  · rw [List.length_map, List.length_map, length_half2, length_half2, Reordering.length_apply,
      Reordering.length_apply]
    show w₁.cards.length - w₁.cards.length / 2 = _
    rw [hlength]
  · exact (half_keys hcards rows1).2.2.1

/-- A game with two players, before the cards are dealt. -/
def seatedGame : World :=
  server.run (World.initial migratedDeck)
    [⟨.createGameAndPlayer ⟨some "player1", some "session1"⟩, .same, .same⟩,
      ⟨.joinGame ⟨some 1, some "player2", some "session2"⟩, .same, .same⟩]

/-- The rows from the last to the first. -/
def reversed : CardOrder := ⟨List.reverse, List.reverse_perm⟩

/-- A database that lists the cards in the order in which they are stored. -/
theorem evenDeal_storedOrder :
    EvenDeal 1 2 (server.run seatedGame (twoDeals (some "session1") (some "session2")
      .same .same .same .same)).cards := by
  refine ((evenDeal_iff seatedGame (by decide +kernel) (by decide +kernel) (some "session1")
    (some "session2") (by decide) ⟨1, "player1", some "session1"⟩ ⟨2, "player2", some "session2"⟩
    (by decide +kernel) (by decide +kernel) .same .same .same .same).2 (by decide +kernel)).2 ?_
  exact List.Perm.of_eq (by decide +kernel)

/-- A database that lists the cards the other way round after the first deal:
player 2 takes all of player 1's cards, and nobody gets the others. -/
theorem deck_not_split_reversed :
    let w := server.run seatedGame (twoDeals (some "session1") (some "session2")
      .same .same reversed .same)
    ownedBy 1 w.cards = [] ∧ (ownedBy 2 w.cards).length = 26 ∧ ¬ EvenDeal 1 2 w.cards := by
  intro w
  have hnone : ownedBy 1 w.cards = [] := by decide +kernel
  refine ⟨hnone, by decide +kernel, fun heven => ?_⟩
  have hsize := heven.size1
  rw [hnone] at hsize
  revert hsize
  decide +kernel

end WarCardGame
