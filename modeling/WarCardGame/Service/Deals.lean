import WarCardGame.Model.Tasks
import WarCardGame.Service.Effects

/-!
# The rows a deal writes

A deal lists the card table, cuts the list in two, shuffles one half and writes
its cards back with their new owner and their position in the hand.

* `map_dealOrder_dealt` — the positions of a hand are `0, 1, …`.
* `map_cardId_dealtRows`, `halves_perm` — the cards of a hand are those of the half,
  and the two halves of a list are the list.
* `run_dealCards1Task`, `run_dealCards2Task` — a deal that nothing interrupts is the
  handler.
* `faces_saveAll`, `dealt_cut` — a deal changes no face, and the rows it writes
  depend on the faces only.
-/

namespace WarCardGame

open Lib

/-! ## Positions -/

@[simp] theorem length_dealt (player : Option ℤ) (i : ℕ) (hand : List CardsEntity) :
    (dealt player i hand).length = hand.length := by
  induction hand generalizing i with
  | nil => rfl
  | cons card rest ih => rw [dealt, List.length_cons, List.length_cons, ih]

theorem map_dealOrder_dealt (player : Option ℤ) (i : ℕ) (hand : List CardsEntity) :
    (dealt player i hand).map CardsEntity.dealOrder =
      (List.range' i hand.length).map Nat.cast := by
  induction hand generalizing i with
  | nil => rfl
  | cons card rest ih => rw [dealt, List.map_cons, ih, List.length_cons, List.range'_succ,
      List.map_cons]

/-! ## Halves -/

/-- The rows a deal writes: `cut` is the half it takes. -/
def dealtRows (cut : List CardsEntity → List CardsEntity) (rows shuffle : CardOrder)
    (player : Option ℤ) (cards : List CardsEntity) : List CardsEntity :=
  dealt player 0 (shuffle.apply (cut (rows.apply cards)))

theorem map_cardId_dealtRows (cut : List CardsEntity → List CardsEntity) (rows shuffle : CardOrder)
    (player : Option ℤ) (cards : List CardsEntity) :
    ((dealtRows cut rows shuffle player cards).map CardsEntity.cardId).Perm
      ((cut (rows.apply cards)).map CardsEntity.cardId) := by
  rw [dealtRows, map_cardId_dealt]
  exact (shuffle.perm _).map _

/-- The two halves of a list are the list. -/
theorem halves_perm (rows : CardOrder) (cards : List CardsEntity) :
    ((half1 (rows.apply cards)).map CardsEntity.cardId ++
      (half2 (rows.apply cards)).map CardsEntity.cardId).Perm (cards.map CardsEntity.cardId) := by
  rw [← List.map_append, half1, half2, List.take_append_drop]
  exact (rows.perm cards).map _

theorem length_half2 (l : List CardsEntity) : (half2 l).length = l.length - l.length / 2 :=
  List.length_drop

theorem length_dealtRows1 (rows shuffle : CardOrder) (player : Option ℤ)
    (cards : List CardsEntity) :
    (dealtRows half1 rows shuffle player cards).length = cards.length / 2 := by
  rw [dealtRows, length_dealt, Reordering.length_apply, half1, List.length_take,
    Reordering.length_apply]
  omega

theorem length_dealtRows2 (rows shuffle : CardOrder) (player : Option ℤ)
    (cards : List CardsEntity) :
    (dealtRows half2 rows shuffle player cards).length = cards.length - cards.length / 2 := by
  rw [dealtRows, length_dealt, Reordering.length_apply, length_half2, Reordering.length_apply]

theorem dealOrder_dealtRows (cut : List CardsEntity → List CardsEntity) (rows shuffle : CardOrder)
    (player : Option ℤ) (cards : List CardsEntity) :
    (dealtRows cut rows shuffle player cards).map CardsEntity.dealOrder =
      (List.range (dealtRows cut rows shuffle player cards).length).map Nat.cast := by
  rw [dealtRows, map_dealOrder_dealt, length_dealt, List.range_eq_range']

/-! ## Faces -/

/-- A card without the columns that a deal writes. -/
def CardsEntity.face (c : CardsEntity) : CardsEntity := { c with dealOrder := 0, players := none }

/-- The order of the database and of a shuffle does not depend on the columns that
a deal writes. -/
theorem face_apply {rows : CardOrder} (hrows : rows.Uniform CardsEntity.cardId)
    {l l' : List CardsEntity} (hl : l.map CardsEntity.face = l'.map CardsEntity.face) :
    (rows.apply l).map CardsEntity.face = (rows.apply l').map CardsEntity.face := by
  rw [← hrows CardsEntity.face (fun _ => rfl), ← hrows CardsEntity.face (fun _ => rfl), hl]

/-- Writing back cards with their faces keeps the faces. -/
theorem faces_saveAll {log cards : List CardsEntity}
    (h : ∀ r ∈ log, ∀ x ∈ cards, x.cardId = r.cardId → x.face = r.face) :
    (Rows.saveAll CardsEntity.cardId log cards).map CardsEntity.face =
      cards.map CardsEntity.face := by
  induction log generalizing cards with
  | nil => rfl
  | cons r log ih =>
      have hr := h r (List.mem_cons_self ..)
      rw [Rows.saveAll_cons, ih]
      · rw [Rows.save, List.map_map]
        refine List.map_congr_left fun x hx => ?_
        by_cases hkey : x.cardId = r.cardId
        · rw [Function.comp_apply, if_pos hkey, hr x hx hkey]
        · rw [Function.comp_apply, if_neg hkey]
      · -- the row just written has the face of the row it replaced
        intro r' hr' x hx hkey
        have hr' := h r' (List.mem_cons_of_mem _ hr')
        rcases (Rows.mem_save _).1 hx with ⟨hold, -⟩ | ⟨rfl, hstored⟩
        · exact hr' x hold hkey
        · obtain ⟨y, hy, hyx⟩ := List.mem_map.1 hstored
          rw [← hr y hy hyx, hr' y hy (hyx.trans hkey)]

/-- A deal overwrites everything but the faces. -/
theorem dealt_eq_of_faces (player : Option ℤ) (i : ℕ) {l l' : List CardsEntity}
    (hl : l.map CardsEntity.face = l'.map CardsEntity.face) :
    dealt player i l = dealt player i l' := by
  have hface : ∀ (i : ℕ) (hand : List CardsEntity),
      dealt player i (hand.map CardsEntity.face) = dealt player i hand := by
    intro i hand
    induction hand generalizing i with
    | nil => rfl
    | cons c hand ih =>
        rw [List.map_cons, dealt, dealt, ih]
        rfl
  rw [← hface, hl, hface]

theorem map_half1 (f : CardsEntity → CardsEntity) (l : List CardsEntity) :
    half1 (l.map f) = (half1 l).map f := by
  rw [half1, half1, List.map_take, List.length_map]

theorem map_half2 (f : CardsEntity → CardsEntity) (l : List CardsEntity) :
    half2 (l.map f) = (half2 l).map f := by
  rw [half2, half2, List.map_drop, List.length_map]

/-- The rows a deal writes depend on the faces of the list it cuts only. -/
theorem dealt_cut {cut : List CardsEntity → List CardsEntity}
    (hcut : ∀ f l, cut (List.map f l) = (cut l).map f) {shuffle : CardOrder}
    (hshuffle : shuffle.Uniform CardsEntity.cardId) (player : Option ℤ) {l l' : List CardsEntity}
    (hl : l.map CardsEntity.face = l'.map CardsEntity.face) :
    dealt player 0 (shuffle.apply (cut l)) = dealt player 0 (shuffle.apply (cut l')) := by
  refine dealt_eq_of_faces _ _ (face_apply hshuffle ?_)
  rw [← hcut, ← hcut, hl]

/-! ## Deals that are left alone -/

/-- What a handler of the service does, with the list it has read. -/
def Dealing.reading {α : Type} (rows : CardOrder) (x : Service α) : Handler Dealing Failure α :=
  fun d => ((x d.world).1, ⟨(x d.world).2, rows.apply d.world.cards⟩)

theorem run_dealTask (cut : List CardsEntity → List CardsEntity) (rows shuffle : CardOrder)
    (sessionId : Option String) (d : Dealing) :
    (dealTask cut rows shuffle sessionId).run d =
      match sessionLookup d.world.players sessionId with
      | .error e => (.error e, ⟨d.world, rows.apply d.world.cards⟩)
      | .ok player =>
          let hand := shuffle.apply (cut (rows.apply d.world.cards))
          (.ok { cards := dealt (player.map (·.playerId)) 0 hand, playerSession := sessionId },
            ⟨d.world.dealtTo (player.map (·.playerId)) hand, rows.apply d.world.cards⟩) := by
  have hread : Dealing.readAllCards rows d = (.ok (), ⟨d.world, rows.apply d.world.cards⟩) := rfl
  have hlook : Dealing.repository (PlayerRepository.findPlayerBySessionId sessionId)
      ⟨d.world, rows.apply d.world.cards⟩ =
        (sessionLookup d.world.players sessionId, ⟨d.world, rows.apply d.world.cards⟩) := by
    unfold Dealing.repository
    rw [findPlayerBySessionId_apply]
  simp only [dealTask, Task.run_bind, Task.run_atomic, Task.run_pure, run_dealCardsTask]
  rw [Handler.bind_ok hread]
  cases hplayer : sessionLookup d.world.players sessionId with
  | error e =>
      rw [hplayer] at hlook
      rw [Handler.bind_error hlook]
  | ok player =>
      rw [hplayer] at hlook
      rw [Handler.bind_ok hlook]
      have hdeal : ∀ hand, Dealing.repository (dealCards (player.map (·.playerId)) 0 hand)
          ⟨d.world, rows.apply d.world.cards⟩ =
            (.ok (), ⟨d.world.dealtTo (player.map (·.playerId)) hand,
              rows.apply d.world.cards⟩) := by
        intro hand
        unfold Dealing.repository
        rw [dealCards_apply]
        rfl
      have hget : Dealing.getAllCards ⟨d.world, rows.apply d.world.cards⟩ =
          (.ok (rows.apply d.world.cards), ⟨d.world, rows.apply d.world.cards⟩) := rfl
      rw [Handler.bind_ok hget, Handler.bind_ok (hdeal _)]
      rfl

/-- **A deal that is left alone** is the handler. -/
theorem run_dealCards1Task (rows shuffle : CardOrder) (sessionId : Option String) :
    (dealCards1Task rows shuffle sessionId).run =
      Dealing.reading rows (dealCards1 rows shuffle sessionId) := by
  funext d
  rw [dealCards1Task, run_dealTask, Dealing.reading, dealCards1_apply]
  cases sessionLookup d.world.players sessionId <;> rfl

@[inherit_doc run_dealCards1Task]
theorem run_dealCards2Task (rows shuffle : CardOrder) (sessionId : Option String) :
    (dealCards2Task rows shuffle sessionId).run =
      Dealing.reading rows (dealCards2 rows shuffle sessionId) := by
  funext d
  rw [dealCards2Task, run_dealTask, Dealing.reading, dealCards2_apply]
  cases sessionLookup d.world.players sessionId <;> rfl

end WarCardGame
