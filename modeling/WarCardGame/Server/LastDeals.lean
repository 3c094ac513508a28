import WarCardGame.Server.Deals
import WarCardGame.Server.Leaving

/-!
# Who owns the deck

There is one deck, and a start button in each browser.  A deal takes its half of the
deck from whoever had it: from the other player, if the button was clicked twice, from
the players of another game, or from everybody, if no player has the session.  If the
database lists the cards in one order, the two halves are always the same.

* `HalfDealt` — a half of the deck as one deal leaves it.
* `dealersAfter` — who dealt each half last; unknown once a leave has changed a card.
* `deck_follows_last_deals` — **each half belongs to whoever dealt it last**, whatever
  else was requested in between, and two different dealers hold an even deal.
-/

namespace WarCardGame

open Lib

/-! ## The halves -/

/-- An order that depends on the keys only lists equal keys in one order. -/
theorem keys_apply {order : CardOrder} (horder : order.Uniform CardsEntity.cardId)
    {l l' : List CardsEntity} (hkeys : l.map CardsEntity.cardId = l'.map CardsEntity.cardId) :
    (order.apply l).map CardsEntity.cardId = (order.apply l').map CardsEntity.cardId := by
  let blank : ℤ → CardsEntity := fun k => ⟨k, "", "", 0, false, 0, none⟩
  have hblank : ∀ l : List CardsEntity, (order.apply l).map CardsEntity.cardId =
      (order.apply ((l.map CardsEntity.cardId).map blank)).map CardsEntity.cardId := by
    intro l
    rw [List.map_map, horder (blank ∘ CardsEntity.cardId) (fun _ => rfl), List.map_map]
    rfl
  rw [hblank, hkeys, ← hblank]

/-- The keys of the two halves of the deck, in the order in which it is listed. -/
def halfKeys (order : CardOrder) (cards : List CardsEntity) : List ℤ × List ℤ :=
  ((half1 (order.apply cards)).map CardsEntity.cardId,
    (half2 (order.apply cards)).map CardsEntity.cardId)

theorem halfKeys_eq {order : CardOrder} (horder : order.Uniform CardsEntity.cardId)
    {l l' : List CardsEntity} (hkeys : l.map CardsEntity.cardId = l'.map CardsEntity.cardId) :
    halfKeys order l = halfKeys order l' := by
  have happly := keys_apply horder hkeys
  have hlength : (order.apply l).length = (order.apply l').length := by
    simpa only [List.length_map] using congrArg List.length happly
  simp only [halfKeys, half1, half2, List.map_take, List.map_drop, happly, hlength]

/-- What a deal writes of a card, with its key. -/
def CardsEntity.place (c : CardsEntity) : ℤ × Option ℤ × ℤ := (c.cardId, c.players, c.dealOrder)

/-- The cards with the given keys are a hand of `owner`. -/
structure HalfDealt (keys : List ℤ) (owner : Option ℤ) (cards : List CardsEntity) : Prop where
  owner : ∀ c ∈ cards, c.cardId ∈ keys → c.players = owner
  positions : ((cards.filter fun c => c.cardId ∈ keys).map CardsEntity.dealOrder).Perm
    ((List.range keys.length).map Nat.cast)

namespace HalfDealt

variable {keys : List ℤ} {owner : Option ℤ} {cards hand : List CardsEntity}

/-- A deal of the half. -/
theorem deal (hcards : (cards.map CardsEntity.cardId).Nodup) (hnodup : keys.Nodup)
    (hsub : keys ⊆ cards.map CardsEntity.cardId) (hkeys : (hand.map CardsEntity.cardId).Perm keys)
    (howner : ∀ c ∈ hand, c.players = owner)
    (horder : hand.map CardsEntity.dealOrder = (List.range hand.length).map Nat.cast) :
    HalfDealt keys owner (Rows.saveAll CardsEntity.cardId hand cards) where
  owner := by
    intro c hc hkey
    rcases Rows.mem_of_mem_saveAll _ hc with hnew | ⟨-, hnot⟩
    · exact howner c hnew
    · exact absurd (hkeys.mem_iff.2 hkey) hnot
  positions := by
    have hperm := Rows.saveAll_perm CardsEntity.cardId hcards (hkeys.nodup_iff.2 hnodup)
      fun k hk => hsub (hkeys.mem_iff.1 hk)
    have hfilter := hperm.filter fun c => decide (c.cardId ∈ keys)
    have hhand : hand.filter (fun c => decide (c.cardId ∈ keys)) = hand :=
      List.filter_eq_self.2 fun c hc => by
        simpa using hkeys.mem_iff.1 (List.mem_map_of_mem hc)
    have hrest : (cards.filter fun c => c.cardId ∉ hand.map CardsEntity.cardId).filter
        (fun c => decide (c.cardId ∈ keys)) = [] := by
      refine List.filter_eq_nil_iff.2 fun c hc hkey => ?_
      have hnot : c.cardId ∉ hand.map CardsEntity.cardId := by
        simpa only [decide_eq_true_eq] using (List.mem_filter.1 hc).2
      exact hnot (hkeys.mem_iff.2 (by simpa using hkey))
    rw [List.filter_append, hhand, hrest, List.append_nil] at hfilter
    have hlength : hand.length = keys.length := by simpa using hkeys.length_eq
    rw [← hlength, ← horder]
    exact hfilter.map _

/-- A deal of other cards. -/
theorem other (h : HalfDealt keys owner cards) (hcards : (cards.map CardsEntity.cardId).Nodup)
    (hnodup : (hand.map CardsEntity.cardId).Nodup)
    (hsub : hand.map CardsEntity.cardId ⊆ cards.map CardsEntity.cardId)
    (hother : ∀ k ∈ hand.map CardsEntity.cardId, k ∉ keys) :
    HalfDealt keys owner (Rows.saveAll CardsEntity.cardId hand cards) where
  owner := by
    intro c hc hkey
    rcases Rows.mem_of_mem_saveAll _ hc with hnew | ⟨hold, -⟩
    · exact absurd hkey (hother _ (List.mem_map_of_mem hnew))
    · exact h.owner c hold hkey
  positions := by
    have hperm := Rows.saveAll_perm CardsEntity.cardId hcards hnodup hsub
    have hfilter := hperm.filter fun c => decide (c.cardId ∈ keys)
    have hhand : hand.filter (fun c => decide (c.cardId ∈ keys)) = [] :=
      List.filter_eq_nil_iff.2 fun c hc => by
        simpa using hother _ (List.mem_map_of_mem hc)
    have hrest : (cards.filter fun c => c.cardId ∉ hand.map CardsEntity.cardId).filter
        (fun c => decide (c.cardId ∈ keys)) = cards.filter fun c => c.cardId ∈ keys := by
      rw [List.filter_filter]
      refine List.filter_congr fun c _ => ?_
      by_cases hkey : c.cardId ∈ keys
      · simpa [hkey] using fun x hx => fun hsame => hother _ (List.mem_map_of_mem hx) (hsame ▸ hkey)
      · simp [hkey]
    rw [List.filter_append, hhand, hrest, List.nil_append] at hfilter
    exact (hfilter.map _).trans h.positions

/-- Cards that stay in their places. -/
theorem places {cards' : List CardsEntity} (h : HalfDealt keys owner cards)
    (hplaces : cards'.map CardsEntity.place = cards.map CardsEntity.place) :
    HalfDealt keys owner cards' where
  owner := by
    intro c hc hkey
    have hmem : c.place ∈ cards.map CardsEntity.place := by
      rw [← hplaces]
      exact List.mem_map_of_mem hc
    obtain ⟨d, hd, hplace⟩ := List.mem_map.1 hmem
    obtain ⟨hcard, hplayers, -⟩ : d.cardId = c.cardId ∧ d.players = c.players ∧
        d.dealOrder = c.dealOrder := by simpa [CardsEntity.place] using hplace
    rw [← hplayers]
    exact h.owner d hd (by rw [hcard]; exact hkey)
  positions := by
    have hread : ∀ l : List CardsEntity,
        (l.filter fun c => c.cardId ∈ keys).map CardsEntity.dealOrder =
          ((l.map CardsEntity.place).filter fun p => p.1 ∈ keys).map (·.2.2) := by
      intro l
      rw [List.filter_map, List.map_map]
      rfl
    rw [hread, hplaces, ← hread]
    exact h.positions

end HalfDealt

/-! ## One request -/

theorem RoundFrame.places {w w' : World} (hframe : RoundFrame w w')
    (hnodup : (w.cards.map CardsEntity.cardId).Nodup) :
    w'.cards.map CardsEntity.place = w.cards.map CardsEntity.place := by
  refine Rows.map_eq_of_origin CardsEntity.cardId hnodup hframe.cardIds fun c' hc' => ?_
  rcases hframe.cards c' hc' with hold | ⟨c, hc, rfl⟩
  · exact ⟨c', hold, rfl, rfl⟩
  · exact ⟨c, hc, rfl, rfl⟩

section Requests

variable {w : World} {call : Call}

/-- Only deals and leaves move cards. -/
theorem places_next (hnodup : (w.cards.map CardsEntity.cardId).Nodup)
    (hcall : call.keepsOwners = true) :
    (server.next w call).cards.map CardsEntity.place = w.cards.map CardsEntity.place := by
  have hsave : ∀ c ∈ w.quiet.cards, RoundFrame w.quiet (w.quiet.saveCard c.setPlayed) :=
    fun c hc => RoundFrame.saveCard hc
  -- the round starts from the table with player 2's card on it
  have hround : ∀ {rows : CardOrder} {player1Id player2Id gameId : ℤ} {c : CardsEntity}
      {result : Except Failure Unit} {v : World}, c ∈ w.quiet.cards →
      gameRound rows player1Id player2Id gameId (w.quiet.putDown2 c.setPlayed) = (result, v) →
      v.cards.map CardsEntity.place = w.cards.map CardsEntity.place := by
    intro rows player1Id player2Id gameId c result v hc hround
    have hdown : ((w.quiet.putDown2 c.setPlayed).cards.map CardsEntity.cardId).Nodup := by
      have hkeys := (hsave c hc).cardIds
      show ((w.quiet.saveCard c.setPlayed).cards.map CardsEntity.cardId).Nodup
      rw [hkeys]
      exact hnodup
    exact ((RoundFrame.of_gameRound hround).places hdown).trans ((hsave c hc).places hnodup)
  have hstep := step_next w call
  generalize server.next w call = w' at hstep
  cases hstep with
  | unchanged ms => rfl
  | create request name session => rfl
  | joinFull request gameId name session game => rfl
  | join request gameId name session game => rfl
  | deal session player hand hrequest =>
      rcases hrequest with hrequest | hrequest <;> simp [Call.keepsOwners, hrequest] at hcall
  | play1 playerId c hrequest hc => exact (hsave c hc).places hnodup
  | roundFailed player1Id player2Id gameId c e _ hrequest hc howner hunplayed hturn hfailed =>
      exact hround hc hfailed
  | round player1Id player2Id gameId c v ms hrequest hc howner hunplayed hturn hok =>
      have hcards := hround hc hok
      exact hcards
  | leaveRefused gameId session game player ms hrequest =>
      simp [Call.keepsOwners, hrequest] at hcall
  | leave gameId session game player ms hrequest =>
      simp [Call.keepsOwners, hrequest] at hcall

/-- No request changes the keys of the cards, or their order. -/
theorem cardIds_next (hnodup : (w.cards.map CardsEntity.cardId).Nodup) :
    (server.next w call).cards.map CardsEntity.cardId = w.cards.map CardsEntity.cardId := by
  by_cases hcall : call.keepsOwners = true
  · have hplaces := congrArg (List.map (·.1)) (places_next hnodup hcall)
    rw [List.map_map, List.map_map] at hplaces
    exact hplaces
  have hleave : ∀ (player : PlayersEntity) (game : GameEntity),
      ((vacated call.rows call.shuffle player game w.quiet).2.closeGame
        (vacated call.rows call.shuffle player game w.quiet).1).cards.map CardsEntity.cardId =
          w.cards.map CardsEntity.cardId := by
    intro player game
    rw [World.cards_closeGame]
    unfold vacated
    split_ifs
    · exact map_cardId_reDealt ..
    · exact map_cardId_reDealt ..
    · rfl
  have hstep := step_next w call
  generalize server.next w call = w' at hstep
  cases hstep with
  | unchanged ms => rfl
  | create request name session => rfl
  | joinFull request gameId name session game => rfl
  | join request gameId name session game => rfl
  | deal session player hand => exact Rows.map_key_saveAll ..
  | play1 playerId c hrequest => simp [Call.keepsOwners, hrequest] at hcall
  | roundFailed player1Id player2Id gameId c e _ hrequest =>
      simp [Call.keepsOwners, hrequest] at hcall
  | round player1Id player2Id gameId c v ms hrequest =>
      simp [Call.keepsOwners, hrequest] at hcall
  | leaveRefused gameId session game player ms => exact hleave player game
  | leave gameId session game player ms => exact hleave player game

/-- A deal for a session that several players have changes nothing. -/
theorem next_deal_refused {session : Option String} {e : Failure}
    (hrequest : call.request = .dealCardsPlayer1 session ∨
      call.request = .dealCardsPlayer2 session)
    (hlook : sessionLookup w.players session = .error e) : server.next w call = w.quiet := by
  have hlook' : sessionLookup w.quiet.players session = .error e := hlook
  show (handle call w.quiet).2 = _
  rcases hrequest with hrequest | hrequest
  · simp only [handle, hrequest, Handler.bind_pure_state, dealCards1_apply, hlook']
  · simp only [handle, hrequest, Handler.bind_pure_state, dealCards2_apply, hlook']

end Requests

/-! ## Whole runs -/

/-- Who dealt the two halves last: `none` is unknown, and `some none` nobody who is
stored. -/
abbrev Dealers : Type := Option (Option ℤ) × Option (Option ℤ)

/-- The record of the dealers after a request.  A leave that changes a card makes both
unknown. -/
def dealersAfter (dealers : Dealers) (w : World) (call : Call) : Dealers :=
  match call.request with
  | .dealCardsPlayer1 session =>
      match sessionLookup w.players session with
      | .ok player => (some (player.map (·.playerId)), dealers.2)
      | .error _ => dealers
  | .dealCardsPlayer2 session =>
      match sessionLookup w.players session with
      | .ok player => (dealers.1, some (player.map (·.playerId)))
      | .error _ => dealers
  | .leaveGame _ => if (server.next w call).cards = w.cards then dealers else (none, none)
  | _ => dealers

/-- The record is right; `cards` are the cards that there were at the start. -/
structure OwnedBy (order : CardOrder) (cards : List CardsEntity) (dealers : Dealers) (w : World) :
    Prop where
  keys : w.cards.map CardsEntity.cardId = cards.map CardsEntity.cardId
  first : ∀ owner, dealers.1 = some owner → HalfDealt (halfKeys order cards).1 owner w.cards
  second : ∀ owner, dealers.2 = some owner → HalfDealt (halfKeys order cards).2 owner w.cards

namespace OwnedBy

variable {order : CardOrder} {cards : List CardsEntity} {dealers : Dealers} {w : World}
  {call : Call}

/-- A half is dealt: `cut` takes it, and `keys` are its keys. -/
theorem halfDealt_deal {cut : List CardsEntity → List CardsEntity} {keys other : List ℤ}
    (hcards : (w.cards.map CardsEntity.cardId).Nodup)
    (hkeys : (cut (order.apply w.cards)).map CardsEntity.cardId = keys) (hnodup : keys.Nodup)
    (hsub : keys ⊆ w.cards.map CardsEntity.cardId) (hother : ∀ k ∈ keys, k ∉ other)
    (shuffle : CardOrder) (player : Option ℤ) :
    let cards' := Rows.saveAll CardsEntity.cardId
      (dealtRows cut order shuffle player w.cards) w.cards
    HalfDealt keys player cards' ∧
      ∀ owner, HalfDealt other owner w.cards → HalfDealt other owner cards' := by
  intro cards'
  have hperm : ((dealtRows cut order shuffle player w.cards).map CardsEntity.cardId).Perm keys := by
    rw [← hkeys]
    exact map_cardId_dealtRows ..
  refine ⟨HalfDealt.deal hcards hnodup hsub hperm (fun c hc => players_of_mem_dealt hc)
    (dealOrder_dealtRows ..), fun owner h => h.other hcards (hperm.nodup_iff.2 hnodup) ?_ ?_⟩
  · exact fun k hk => hsub (hperm.mem_iff.1 hk)
  · exact fun k hk => hother k (hperm.mem_iff.1 hk)

/-- Nothing is moved. -/
theorem same (h : OwnedBy order cards dealers w) {w' : World}
    (hplaces : w'.cards.map CardsEntity.place = w.cards.map CardsEntity.place)
    (hkeys : w'.cards.map CardsEntity.cardId = w.cards.map CardsEntity.cardId) :
    OwnedBy order cards dealers w' where
  keys := hkeys.trans h.keys
  first := fun owner howner => (h.first owner howner).places hplaces
  second := fun owner howner => (h.second owner howner).places hplaces

/-- **One request.** -/
theorem next (h : OwnedBy order cards dealers w) (hcards : (cards.map CardsEntity.cardId).Nodup)
    (horder : order.Uniform CardsEntity.cardId) (hrows : call.rows = order) :
    OwnedBy order cards (dealersAfter dealers w call) (server.next w call) := by
  have hnodup : (w.cards.map CardsEntity.cardId).Nodup := by
    rw [h.keys]
    exact hcards
  have hkeys : (server.next w call).cards.map CardsEntity.cardId =
      w.cards.map CardsEntity.cardId := cardIds_next hnodup
  -- the halves of the table are those of the deck
  have hhalf := halfKeys_eq horder h.keys
  have hhalf1 : (half1 (order.apply w.cards)).map CardsEntity.cardId = (halfKeys order cards).1 :=
    congrArg Prod.fst hhalf
  have hhalf2 : (half2 (order.apply w.cards)).map CardsEntity.cardId = (halfKeys order cards).2 :=
    congrArg Prod.snd hhalf
  obtain ⟨hnd1, hnd2, hsub2, hsub1, hsplit⟩ := half_keys hnodup order
  rw [hhalf1] at hnd1 hsub1 hsplit
  rw [hhalf2] at hnd2 hsub2 hsplit
  cases hrequest : call.request with
  | dealCardsPlayer1 session =>
      cases hlook : sessionLookup w.players session with
      | error e =>
          simp only [dealersAfter, hrequest, hlook]
          rw [next_deal_refused (Or.inl hrequest) hlook]
          exact h.same rfl rfl
      | ok player =>
          obtain ⟨hfirst, hsecond⟩ := halfDealt_deal hnodup hhalf1 hnd1 hsub1
            (fun k hk hk2 => (hsplit k (hsub1 hk)).1 hk2 hk) call.shuffle
            (player.map (·.playerId))
          refine ⟨hkeys.trans h.keys, ?_, ?_⟩
          all_goals
            simp only [dealersAfter, hrequest, hlook]
            rw [next_dealCards1 hrequest hlook, hrows]
          · rintro owner ⟨⟩
            exact hfirst
          · exact fun owner howner => hsecond owner (h.second owner howner)
  | dealCardsPlayer2 session =>
      cases hlook : sessionLookup w.players session with
      | error e =>
          simp only [dealersAfter, hrequest, hlook]
          rw [next_deal_refused (Or.inr hrequest) hlook]
          exact h.same rfl rfl
      | ok player =>
          obtain ⟨hsecond, hfirst⟩ := halfDealt_deal hnodup hhalf2 hnd2 hsub2
            (fun k hk => (hsplit k (hsub2 hk)).1 hk) call.shuffle (player.map (·.playerId))
          refine ⟨hkeys.trans h.keys, ?_, ?_⟩
          all_goals
            simp only [dealersAfter, hrequest, hlook]
            rw [next_dealCards2 hrequest hlook, hrows]
          · exact fun owner howner => hfirst owner (h.first owner howner)
          · rintro owner ⟨⟩
            exact hsecond
  | leaveGame request =>
      simp only [dealersAfter, hrequest]
      split_ifs with hsame
      · exact h.same (by rw [hsame]) hkeys
      · exact ⟨hkeys.trans h.keys, by simp, by simp⟩
  | _ =>
      simp only [dealersAfter, hrequest]
      exact h.same (places_next hnodup (by simp [Call.keepsOwners, hrequest])) hkeys

end OwnedBy

/-- The record of the dealers after some requests to a fresh server. -/
def dealers (deck : Deck) (calls : List Call) : Dealers :=
  server.history dealersAfter (none, none) (World.initial deck) calls

/-- Two halves with different owners are an even deal. -/
theorem OwnedBy.evenDeal {order : CardOrder} {cards : List CardsEntity} {k1 k2 : ℤ} {w : World}
    (h : OwnedBy order cards (some (some k1), some (some k2)) w)
    (hcards : (cards.map CardsEntity.cardId).Nodup) (hne : k1 ≠ k2) : EvenDeal k1 k2 w.cards := by
  obtain ⟨-, -, -, -, hsplit⟩ := half_keys hcards order
  have hfirst : HalfDealt (halfKeys order cards).1 (some k1) w.cards := h.first _ rfl
  have hsecond : HalfDealt (halfKeys order cards).2 (some k2) w.cards := h.second _ rfl
  have hlength : w.cards.length = cards.length := by
    simpa only [List.length_map] using congrArg List.length h.keys
  have hlength1 : (halfKeys order cards).1.length = w.cards.length / 2 := by
    rw [hlength, halfKeys, List.length_map, half1, List.length_take, Reordering.length_apply]
    omega
  have hlength2 : (halfKeys order cards).2.length = w.cards.length - w.cards.length / 2 := by
    rw [hlength, halfKeys, List.length_map, length_half2, Reordering.length_apply]
  -- every card is in one of the halves, so the owner tells which
  have hhalf : ∀ c ∈ w.cards, c.cardId ∈ (halfKeys order cards).2 ↔
      c.cardId ∉ (halfKeys order cards).1 := by
    intro c hc
    refine hsplit c.cardId ?_
    rw [← h.keys]
    exact List.mem_map_of_mem hc
  have howned1 : ownedBy k1 w.cards =
      w.cards.filter fun c => c.cardId ∈ (halfKeys order cards).1 := by
    refine List.filter_congr fun c hc => ?_
    by_cases hkey : c.cardId ∈ (halfKeys order cards).1
    · simp [hfirst.owner c hc hkey, hkey]
    · simp [hsecond.owner c hc ((hhalf c hc).2 hkey), hkey, hne.symm]
  have howned2 : ownedBy k2 w.cards =
      w.cards.filter fun c => c.cardId ∈ (halfKeys order cards).2 := by
    refine List.filter_congr fun c hc => ?_
    by_cases hkey : c.cardId ∈ (halfKeys order cards).1
    · simp [hfirst.owner c hc hkey, hhalf c hc, hkey, hne]
    · simp [hsecond.owner c hc ((hhalf c hc).2 hkey), hhalf c hc, hkey]
  have horder1 := hfirst.positions
  have horder2 := hsecond.positions
  rw [← howned1, hlength1] at horder1
  rw [← howned2, hlength2] at horder2
  refine ⟨fun c hc => ?_, by simpa using horder1.length_eq, by simpa using horder2.length_eq,
    horder1, horder2⟩
  by_cases hkey : c.cardId ∈ (halfKeys order cards).1
  · exact Or.inl (hfirst.owner c hc hkey)
  · exact Or.inr (hsecond.owner c hc ((hhalf c hc).2 hkey))

/-- **The deck follows the last deals.**  Let the database list the cards in one order.
After any requests, with arbitrary sessions and for any number of games: each half of
the deck belongs to the player who was dealt it last, unless a leave has changed the
cards since; and if these are two players, the deck is split evenly between them. -/
theorem deck_follows_last_deals (deck : Deck) (order : CardOrder)
    (horder : order.Uniform CardsEntity.cardId) (calls : List Call)
    (hrows : ∀ call ∈ calls, call.rows = order) :
    let w := server.run (World.initial deck) calls
    (∀ owner, (dealers deck calls).1 = some owner →
      ∀ c ∈ w.cards, c.cardId ∈ (halfKeys order deck.cards).1 → c.players = owner) ∧
    (∀ owner, (dealers deck calls).2 = some owner →
      ∀ c ∈ w.cards, c.cardId ∈ (halfKeys order deck.cards).2 → c.players = owner) ∧
    ∀ k1 k2, dealers deck calls = (some (some k1), some (some k2)) → k1 ≠ k2 →
      EvenDeal k1 k2 w.cards := by
  intro w
  have h : OwnedBy order deck.cards (dealers deck calls) w := by
    refine Machine.history_invariant (C := fun _ call => call.rows = order)
      (fun p s i hp hi => hp.next deck.nodup horder hi) ⟨rfl, by simp, by simp⟩ ?_
    rintro ⟨s, call⟩ hx
    obtain ⟨pre, post, rfl, -⟩ := server.mem_steps.1 hx
    exact hrows call (by simp)
  refine ⟨fun owner howner => (h.first owner howner).owner,
    fun owner howner => (h.second owner howner).owner, fun k1 k2 hdealers hne => ?_⟩
  rw [hdealers] at h
  exact h.evenDeal deck.nodup hne

/-- Two games are created, each of the four players deals, and Ann deals once more after
a play. -/
def twoGamesDealt : List Call :=
  [⟨.createGameAndPlayer ⟨some "Ann", some "a"⟩, .same, .same⟩,
    ⟨.joinGame ⟨some 1, some "Bob", some "b"⟩, .same, .same⟩,
    ⟨.createGameAndPlayer ⟨some "Cleo", some "c"⟩, .same, .same⟩,
    ⟨.joinGame ⟨some 2, some "Dan", some "d"⟩, .same, .same⟩,
    ⟨.dealCardsPlayer1 (some "a"), .same, .same⟩, ⟨.dealCardsPlayer2 (some "b"), .same, reversed⟩,
    ⟨.dealCardsPlayer1 (some "c"), .same, .same⟩, ⟨.dealCardsPlayer2 (some "d"), .same, .same⟩,
    ⟨.playCardPlayer1 3, .same, .same⟩, ⟨.dealCardsPlayer1 (some "a"), .same, reversed⟩]

/-- Ann and Dan, who are in different games, hold the deck. -/
theorem deck_follows_last_deals_twoGames :
    dealers migratedDeck twoGamesDealt = (some (some 1), some (some 4)) ∧
      EvenDeal 1 4 (server.run (World.initial migratedDeck) twoGamesDealt).cards := by
  have hdealers : dealers migratedDeck twoGamesDealt = (some (some 1), some (some 4)) := by
    decide +kernel
  have hrows : ∀ call ∈ twoGamesDealt, call.rows = .same := by
    simp [twoGamesDealt]
  exact ⟨hdealers, (deck_follows_last_deals migratedDeck .same (Reordering.same_uniform _)
    twoGamesDealt hrows).2.2 1 4 hdealers (by decide)⟩

end WarCardGame
