import WarCardGame.Game.Simulation
import WarCardGame.Model.Tasks

/-!
# Plays that overlap

A click on the button of player 1 sends a play, and every further click sends one
more.  Each of them reads the hand, looks at the turn, and then writes the card, the
card on the table and the two turn flags, in separate calls.

* `PlayStage` — where a play stands: the call it makes next, or its end.
* `Writes` — what the plays have written so far.
* `Playing` — what holds of all the plays together, along any interleaving: the cards
  put down are always the next ones of the hand.
* `simultaneous_plays_iff` — **the clicks act as one** exactly when no play that reads
  the hand after a card was written gets to look at the turn before it was given away.
  Otherwise a second card is gone from the hand, and only one of the two is on the
  table.
-/

namespace WarCardGame

open Lib

/-! ## The stages of a play -/

/-- Where a play stands, in a hand with `n` cards still held.  `seen` is how many of
them were put down when the hand was read. -/
inductive PlayStage (n : ℕ) where
  /-- The hand is read next. -/
  | hand
  /-- The player is read next. -/
  | player (seen : ℕ)
  /-- The turn is looked at next. -/
  | turn (seen : ℕ)
  /-- It was player 1's turn, and the card is saved next. -/
  | save (seen : Fin n)
  /-- The card is put on the table next. -/
  | table (seen : Fin n)
  /-- `player1Turn` is cleared next. -/
  | clear (seen : Fin n)
  /-- `player2Turn` is set next. -/
  | give (seen : Fin n)
  /-- The card was played. -/
  | played (seen : Fin n)
  /-- It was not player 1's turn. -/
  | refused
  /-- There was no card left. -/
  | empty

/-- What the plays have written: how many cards of the hand, which of them is on the
table, and the two flags. -/
structure Writes (n : ℕ) where
  cards : ℕ
  table : Option (Fin n)
  cleared : Bool
  given : Bool

/-- Nothing that was written is taken back. -/
structure Writes.Le {n : ℕ} (x y : Writes n) : Prop where
  cards : x.cards ≤ y.cards
  table : x.table.isSome = true → y.table.isSome = true
  cleared : x.cleared = true → y.cleared = true
  given : x.given = true → y.given = true

theorem Writes.Le.refl {n : ℕ} (x : Writes n) : x.Le x := ⟨le_rfl, id, id, id⟩

/-- The state after these writes. -/
def Writes.world {rest : List CardsEntity} (x : Writes rest.length) (w : World) : World :=
  { w with
    cards := Rows.saveAll CardsEntity.cardId ((rest.take x.cards).map CardsEntity.setPlayed) w.cards
    playedCard1 := (x.table.map fun s => (rest.get s).setPlayed).or w.playedCard1
    player1Turn := !x.cleared
    player2Turn := x.given || w.player2Turn }

namespace PlayStage

variable {n : ℕ}

/-- How many cards were put down when the hand was read, until the turn is looked at. -/
@[simp] def seen : PlayStage n → Option ℕ
  | player s => some s
  | turn s => some s
  | _ => none

/-- The card that was written. -/
@[simp] def written : PlayStage n → Option (Fin n)
  | table s => some s
  | clear s => some s
  | give s => some s
  | played s => some s
  | _ => none

/-- The play has cleared `player1Turn`. -/
@[simp] def hasCleared : PlayStage n → Bool
  | give _ => true
  | played _ => true
  | _ => false

/-- The play goes, or has gone, for another card than the first, or found none. -/
@[simp] def second : PlayStage n → Bool
  | save s => decide (1 ≤ s.val)
  | table s => decide (1 ≤ s.val)
  | clear s => decide (1 ≤ s.val)
  | give s => decide (1 ≤ s.val)
  | played s => decide (1 ≤ s.val)
  | empty => true
  | _ => false

/-- What is known of a play at a stage, `calls` calls after its start, when the plays
have written `x`. -/
def Fits (calls : ℕ) (x : Writes n) : PlayStage n → Prop
  | hand => calls = 0
  | player s => calls = 1 ∧ s ≤ x.cards
  | turn s => calls = 2 ∧ s ≤ x.cards
  | save s => calls = 3 ∧ s.val ≤ x.cards
  | table s => calls = 4 ∧ s.val < x.cards
  | clear s => calls = 5 ∧ s.val < x.cards ∧ x.table.isSome = true
  | give s => calls = 6 ∧ s.val < x.cards ∧ x.table.isSome = true ∧ x.cleared = true
  | played s => 7 ≤ calls ∧ s.val < x.cards ∧ x.table.isSome = true ∧ x.cleared = true ∧
      x.given = true
  | refused => 3 ≤ calls ∧ x.cleared = true
  | empty => 3 ≤ calls ∧ n ≤ x.cards

/-- What was known stays true. -/
theorem Fits.mono {calls : ℕ} {x y : Writes n} {stage : PlayStage n} (h : stage.Fits calls x)
    (hle : x.Le y) : stage.Fits calls y := by
  have hcards := hle.cards
  cases stage with
  | hand => exact h
  | player s => exact ⟨h.1, h.2.trans hcards⟩
  | turn s => exact ⟨h.1, h.2.trans hcards⟩
  | save s => exact ⟨h.1, h.2.trans hcards⟩
  | table s => exact ⟨h.1, h.2.trans_le hcards⟩
  | clear s => exact ⟨h.1, h.2.1.trans_le hcards, hle.table h.2.2⟩
  | give s => exact ⟨h.1, h.2.1.trans_le hcards, hle.table h.2.2.1, hle.cleared h.2.2.2⟩
  | played s =>
      obtain ⟨hcalls, hs, htable, hcleared, hgiven⟩ := h
      exact ⟨hcalls, hs.trans_le hcards, hle.table htable, hle.cleared hcleared, hle.given hgiven⟩
  | refused => exact ⟨h.1, hle.cleared h.2⟩
  | empty => exact ⟨h.1, h.2.trans hcards⟩

/-- A play that has written a card has made its fourth call, and the card counts. -/
theorem Fits.of_written {calls : ℕ} {x : Writes n} {stage : PlayStage n} (h : stage.Fits calls x)
    {s : Fin n} (hs : stage.written = some s) : 4 ≤ calls ∧ s.val < x.cards := by
  cases stage with
  | table t =>
      cases hs
      exact ⟨h.1.ge, h.2⟩
  | clear t =>
      cases hs
      exact ⟨by have := h.1; omega, h.2.1⟩
  | give t =>
      cases hs
      exact ⟨by have := h.1; omega, h.2.1⟩
  | played t =>
      cases hs
      exact ⟨by have := h.1; omega, h.2.1⟩
  | _ => cases hs

/-- A play that has cleared the flag has made its sixth call, and has written a card. -/
theorem Fits.of_hasCleared {calls : ℕ} {x : Writes n} {stage : PlayStage n}
    (h : stage.Fits calls x) (hstage : stage.hasCleared = true) : 6 ≤ calls ∧ 1 ≤ x.cards := by
  cases stage with
  | give s => exact ⟨h.1.ge, by have := h.2.1; omega⟩
  | played s => exact ⟨by have := h.1; omega, by have := h.2.1; omega⟩
  | _ => cases hstage

theorem second_of_written {stage : PlayStage n} {s : Fin n} (h : stage.written = some s)
    (hs : 1 ≤ s.val) : stage.second = true := by
  cases stage with
  | table t =>
      cases h
      exact decide_eq_true hs
  | clear t =>
      cases h
      exact decide_eq_true hs
  | give t =>
      cases h
      exact decide_eq_true hs
  | played t =>
      cases h
      exact decide_eq_true hs
  | _ => cases h

/-! ## The calls -/

section Calls

variable {rest : List CardsEntity}

/-- A hand as it is read after `seen` cards of `rest` were put down. -/
def readHand (taken rest : List CardsEntity) (seen : ℕ) : List CardsEntity :=
  (taken ++ rest.take seen).map CardsEntity.setPlayed ++ rest.drop seen

/-- What is left of the play. -/
def task (order : CardOrder) (playerId : ℤ) (player1 : PlayersEntity) (taken : List CardsEntity) :
    PlayStage rest.length → Task World Failure (Option PlayCardResponse)
  | hand => playCard1Task order playerId
  | player s => do
      let optionalPlayer1 ← Task.atomic (PlayerRepository.findById playerId)
      let player1 ← Task.orThrow .noSuchElementException optionalPlayer1
      takeTurn1Task player1 (readHand taken rest s)
  | turn s => takeTurn1Task player1 (readHand taken rest s)
  | save s => putDown1Task player1 (rest.get s).setPlayed
  | table s => do
      Task.atomic (Handler.modify fun w => { w with playedCard1 := some (rest.get s).setPlayed })
      Task.atomic (Handler.modify fun w => { w with player1Turn := false })
      Task.atomic (Handler.modify fun w => { w with player2Turn := true })
      return some ⟨some (rest.get s).setPlayed, true, player1.sessionId⟩
  | clear s => do
      Task.atomic (Handler.modify fun w => { w with player1Turn := false })
      Task.atomic (Handler.modify fun w => { w with player2Turn := true })
      return some ⟨some (rest.get s).setPlayed, true, player1.sessionId⟩
  | give s => do
      Task.atomic (Handler.modify fun w => { w with player2Turn := true })
      return some ⟨some (rest.get s).setPlayed, true, player1.sessionId⟩
  | played s => .done (.ok (some ⟨some (rest.get s).setPlayed, true, player1.sessionId⟩))
  | refused => .done (.ok (some ⟨none, false, player1.sessionId⟩))
  | empty => .done (.ok none)

variable {order : CardOrder} {playerId : ℤ} {player1 : PlayersEntity} {taken : List CardsEntity}
  {w : World}

theorem step_hand {s : ℕ}
    (hhand : Holding playerId (taken ++ rest.take s) (rest.drop s) w.cards) :
    ((hand : PlayStage rest.length).task order playerId player1 taken).step w =
      ((player s : PlayStage rest.length).task order playerId player1 taken, w) := by
  have hcards : CardsRepository.cardsOf order playerId w.cards = readHand taken rest s :=
    hhand.cardsOf order
  refine Task.step_ok ?_
  show (Except.ok (CardsRepository.cardsOf order playerId w.cards), w) = _
  rw [hcards]

theorem step_player (hplayer : PlayerRepository.rowOf w.players playerId = some player1) (s : ℕ) :
    ((player s : PlayStage rest.length).task order playerId player1 taken).step w =
      ((turn s : PlayStage rest.length).task order playerId player1 taken, w) := by
  have hfind : PlayerRepository.findById playerId w = (.ok (some player1), w) := by
    rw [← hplayer]
    rfl
  exact Task.step_ok hfind

theorem step_turn_refused (hturn : w.player1Turn = false) (s : ℕ) :
    ((turn s : PlayStage rest.length).task order playerId player1 taken).step w =
      ((refused : PlayStage rest.length).task order playerId player1 taken, w) := by
  refine (Task.step_ok (Handler.get_apply w)).trans ?_
  simp only [hturn]
  rfl

theorem step_turn_save (hturn : w.player1Turn = true) (s : Fin rest.length)
    (hunplayed : (rest.get s).isPlayed = false) :
    ((turn s : PlayStage rest.length).task order playerId player1 taken).step w =
      ((save s : PlayStage rest.length).task order playerId player1 taken, w) := by
  have hfirst := playFirst_taken (taken ++ rest.take s) (rest.drop (s + 1)) hunplayed
  rw [List.get_eq_getElem, List.cons_getElem_drop_succ] at hfirst
  refine (Task.step_ok (Handler.get_apply w)).trans ?_
  simp only [hturn, if_true, readHand, hfirst]
  rfl

theorem step_turn_empty (hturn : w.player1Turn = true) {s : ℕ} (hs : rest.length ≤ s) :
    ((turn s : PlayStage rest.length).task order playerId player1 taken).step w =
      ((empty : PlayStage rest.length).task order playerId player1 taken, w) := by
  have hnone := playFirst_taken_nil (taken ++ rest.take s)
  refine (Task.step_ok (Handler.get_apply w)).trans ?_
  simp only [hturn, if_true, readHand, List.drop_eq_nil_of_le hs, hnone]
  rfl

end Calls

end PlayStage

/-- How many cards of a hand are still held can be read off the table. -/
theorem Holding.held_length {playerId : ℤ} {taken rest cards : List CardsEntity}
    (h : Holding playerId taken rest cards) :
    (cards.filter fun c => c.players = some playerId).countP (fun c => !c.isPlayed) =
      rest.length := by
  rw [h.rows.countP_eq, List.countP_append]
  have htaken : (taken.map CardsEntity.setPlayed).countP (fun c => !c.isPlayed) = 0 := by
    simp [List.countP_eq_zero, CardsEntity.setPlayed]
  have hrest : rest.countP (fun c => !c.isPlayed) = rest.length := by
    refine List.countP_eq_length.2 fun c hc => ?_
    rw [h.unplayed c (List.mem_append_right _ hc)]
    rfl
  omega

/-! ## The plays together -/

section Pool

variable {ι : Type} [DecidableEq ι]

/-- The calls made before the first call of `i`, which reads the hand. -/
def callsBefore (calls : List ι) (i : ι) : List ι := calls.takeWhile fun j => j ≠ i

theorem callsBefore_first {calls : List ι} {i : ι} (h : calls.count i = 0) (after : List ι) :
    callsBefore (calls ++ i :: after) i = calls := by
  have hne : ∀ j ∈ calls, decide (j ≠ i) = true := by
    intro j hj
    refine decide_eq_true ?_
    rintro rfl
    exact List.count_eq_zero.1 h hj
  rw [callsBefore, List.takeWhile_append_of_pos hne, List.takeWhile_cons_of_neg (by simp),
    List.append_nil]

theorem callsBefore_append {calls : List ι} {i : ι} (h : 1 ≤ calls.count i) (more : List ι) :
    callsBefore (calls ++ more) i = callsBefore calls i := by
  induction calls with
  | nil => simp at h
  | cons j calls ih =>
      by_cases hj : j = i
      · simp [callsBefore, hj]
      · rw [List.count_cons_of_ne hj] at h
        simpa [callsBefore, hj] using ih h

/-- **What holds along any interleaving.**  `calls` are the calls made so far, by the
play that made them. -/
structure Playing (w : World) (playerId : ℤ) (player1 : PlayersEntity)
    (taken rest : List CardsEntity) (order : ι → CardOrder) (calls : List ι)
    (P : Pool ι World Failure (Option PlayCardResponse)) (stage : ι → PlayStage rest.length)
    (x : Writes rest.length) : Prop where
  tasks : ∀ i, P.tasks i = (stage i).task (order i) playerId player1 taken
  state : P.state = x.world w
  hand : Holding playerId (taken ++ rest.take x.cards) (rest.drop x.cards) P.state.cards
  cards : x.cards ≤ rest.length
  fits : ∀ i, (stage i).Fits (calls.count i) x
  reads : ∀ i s, (stage i).seen = some s →
    (1 ≤ s ↔ ∃ j, 4 ≤ (callsBefore calls i).count j)
  writer : 1 ≤ x.cards → ∃ j s, (stage j).written = some s ∧ s.val + 1 = x.cards
  tabled : ∀ s, x.table = some s → ∃ j, (stage j).written = some s
  clearer : x.cleared = true → ∃ j, (stage j).hasCleared = true

/-- The plays as they start. -/
def plays (w : World) (playerId : ℤ) (order : ι → CardOrder) :
    Pool ι World Failure (Option PlayCardResponse) :=
  ⟨w, fun i => playCard1Task (order i) playerId⟩

variable {w : World} {playerId : ℤ} {player1 : PlayersEntity} {taken rest : List CardsEntity}
  {order : ι → CardOrder}

omit [DecidableEq ι] in
theorem Writes.world_none (hturn : w.player1Turn = true) :
    (⟨0, none, false, false⟩ : Writes rest.length).world w = w := by
  obtain ⟨⟩ := w
  simp only at hturn
  subst hturn
  rfl

theorem Playing.start (hhand : Holding playerId taken rest w.cards) (hturn : w.player1Turn = true) :
    Playing w playerId player1 taken rest order [] (plays w playerId order) (fun _ => .hand)
      ⟨0, none, false, false⟩ where
  tasks := fun _ => rfl
  state := (Writes.world_none hturn).symm
  hand := by simpa [plays] using hhand
  cards := Nat.zero_le _
  fits := fun _ => List.count_nil
  reads := by simp
  writer := by simp
  tabled := by simp
  clearer := by simp

variable {calls : List ι} {P : Pool ι World Failure (Option PlayCardResponse)}
  {stage : ι → PlayStage rest.length} {x : Writes rest.length}

namespace Playing

/-- A play that reads the hand has made a call. -/
theorem one_le (h : Playing w playerId player1 taken rest order calls P stage x) {i : ι} {s : ℕ}
    (hs : (stage i).seen = some s) : 1 ≤ calls.count i := by
  have hfits := h.fits i
  cases hstage : stage i with
  | player t =>
      rw [hstage] at hfits
      exact hfits.1.ge
  | turn t =>
      rw [hstage] at hfits
      have := hfits.1
      omega
  | _ =>
      rw [hstage] at hs
      cases hs

/-- The cards still held at the start were not put down before. -/
theorem unplayed (h : Playing w playerId player1 taken rest order calls P stage x)
    (s : Fin rest.length) : (rest.get s).isPlayed = false := by
  refine h.hand.unplayed _ ?_
  rw [List.append_assoc, List.take_append_drop]
  exact List.mem_append_right _ (List.get_mem rest s)

/-- A play that has made two calls looks at the turn next. -/
theorem turn_of_two (h : Playing w playerId player1 taken rest order calls P stage x) {i : ι}
    (htwo : calls.count i = 2) : ∃ s, stage i = .turn s := by
  have hfits := h.fits i
  rw [htwo] at hfits
  cases hstage : stage i with
  | turn s => exact ⟨s, rfl⟩
  | _ =>
      rw [hstage] at hfits
      simp [PlayStage.Fits] at hfits

/-- A card was written exactly when some play has made its fourth call. -/
theorem cards_iff (h : Playing w playerId player1 taken rest order calls P stage x)
    (hrest : rest ≠ []) : 1 ≤ x.cards ↔ ∃ j, 4 ≤ calls.count j := by
  constructor
  · intro hcards
    obtain ⟨j, s, hj, -⟩ := h.writer hcards
    exact ⟨j, ((h.fits j).of_written hj).1⟩
  · rintro ⟨j, hj⟩
    have hfits := h.fits j
    have hlength := List.length_pos_iff.2 hrest
    cases hstage : stage j <;> rw [hstage] at hfits
    case hand => rw [show calls.count j = 0 from hfits] at hj; omega
    case player s => have := hfits.1; omega
    case turn s => have := hfits.1; omega
    case save s => have := hfits.1; omega
    case table s => have := hfits.2; omega
    case clear s => have := hfits.2.1; omega
    case give s => have := hfits.2.1; omega
    case played s => have := hfits.2.1; omega
    case refused =>
      obtain ⟨k, hk⟩ := h.clearer hfits.2
      exact ((h.fits k).of_hasCleared hk).2
    case empty => have := hfits.2; omega

/-- A play that has made its sixth call has seen the flag cleared, or found no card. -/
theorem cleared_of_six (h : Playing w playerId player1 taken rest order calls P stage x) {j : ι}
    (hj : 6 ≤ calls.count j) : x.cleared = true ∨ rest.length ≤ x.cards := by
  have hfits := h.fits j
  cases hstage : stage j <;> rw [hstage] at hfits
  case hand => rw [show calls.count j = 0 from hfits] at hj; omega
  case player s => have := hfits.1; omega
  case turn s => have := hfits.1; omega
  case save s => have := hfits.1; omega
  case table s => have := hfits.1; omega
  case clear s => have := hfits.1; omega
  case give s => exact Or.inl hfits.2.2.2
  case played s => exact Or.inl hfits.2.2.2.1
  case refused => exact Or.inl hfits.2
  case empty => exact Or.inr hfits.2

/-- A call of one play, from what it does to that play. -/
theorem update (h : Playing w playerId player1 taken rest order calls P stage x) {i : ι}
    {stage' : PlayStage rest.length} {x' : Writes rest.length}
    (hstep : (P.tasks i).step P.state =
      (stage'.task (order i) playerId player1 taken, x'.world w))
    (hhand : Holding playerId (taken ++ rest.take x'.cards) (rest.drop x'.cards) (x'.world w).cards)
    (hcards : x'.cards ≤ rest.length) (hle : x.Le x')
    (hfits : stage'.Fits (calls.count i + 1) x')
    (hreads : ∀ s, stage'.seen = some s →
      (1 ≤ s ↔ ∃ j, 4 ≤ (callsBefore (calls ++ [i]) i).count j))
    (hwritten : ∀ s, (stage i).written = some s → stage'.written = some s)
    (hcleared : (stage i).hasCleared = true → stage'.hasCleared = true)
    (hwriter : x'.cards = x.cards ∨ ∃ s, stage'.written = some s ∧ s.val + 1 = x'.cards)
    (htabled : x'.table = x.table ∨ stage'.written = x'.table)
    (hclearer : x'.cleared = x.cleared ∨ stage'.hasCleared = true) :
    Playing w playerId player1 taken rest order (calls ++ [i]) (pool.next P i)
      (Function.update stage i stage') x' := by
  -- what `i` has written or cleared, it still has
  have hkeeps : ∀ j s, (stage j).written = some s →
      (Function.update stage i stage' j).written = some s := by
    intro j s hj
    by_cases hji : j = i
    · subst hji
      rw [Function.update_self]
      exact hwritten s hj
    · rw [Function.update_of_ne hji]
      exact hj
  have hstate : (pool.next P i).state = x'.world w := by rw [Pool.next_state, hstep]
  refine ⟨?_, hstate, by rw [hstate]; exact hhand, hcards, ?_, ?_, ?_, ?_, ?_⟩
  · intro j
    by_cases hj : j = i
    · subst hj
      rw [Pool.next_tasks_self, Function.update_self, hstep]
    · rw [Pool.next_tasks_ne P i hj, Function.update_of_ne hj, h.tasks j]
  · intro j
    by_cases hj : j = i
    · subst hj
      rw [Function.update_self, List.count_append, List.count_singleton_self]
      exact hfits
    · rw [Function.update_of_ne hj, List.count_append, List.count_singleton,
        if_neg (by simpa using Ne.symm hj)]
      exact (h.fits j).mono hle
  · intro j s hs
    by_cases hj : j = i
    · subst hj
      rw [Function.update_self] at hs
      exact hreads s hs
    · rw [Function.update_of_ne hj] at hs
      rw [callsBefore_append (h.one_le hs)]
      exact h.reads j s hs
  · intro hone
    rcases hwriter with hsame | ⟨s, hs, hlast⟩
    · rw [hsame] at hone
      obtain ⟨j, s, hj, hlast⟩ := h.writer hone
      exact ⟨j, s, hkeeps j s hj, hlast.trans hsame.symm⟩
    · exact ⟨i, s, by rw [Function.update_self]; exact hs, hlast⟩
  · intro s hs
    rcases htabled with hsame | hnew
    · obtain ⟨j, hj⟩ := h.tabled s (hsame ▸ hs)
      exact ⟨j, hkeeps j s hj⟩
    · exact ⟨i, by rw [Function.update_self, hnew]; exact hs⟩
  · intro htrue
    rcases hclearer with hsame | hnew
    · obtain ⟨j, hj⟩ := h.clearer (hsame ▸ htrue)
      refine ⟨j, ?_⟩
      by_cases hji : j = i
      · subst hji
        rw [Function.update_self]
        exact hcleared hj
      · rw [Function.update_of_ne hji]
        exact hj
    · exact ⟨i, by rw [Function.update_self]; exact hnew⟩

/-- A call that writes nothing. -/
theorem read (h : Playing w playerId player1 taken rest order calls P stage x) {i : ι}
    {stage' : PlayStage rest.length}
    (hstep : (P.tasks i).step P.state = (stage'.task (order i) playerId player1 taken, P.state))
    (hfits : stage'.Fits (calls.count i + 1) x)
    (hreads : ∀ s, stage'.seen = some s →
      (1 ≤ s ↔ ∃ j, 4 ≤ (callsBefore (calls ++ [i]) i).count j))
    (hwritten : ∀ s, (stage i).written = some s → stage'.written = some s)
    (hcleared : (stage i).hasCleared = true → stage'.hasCleared = true) :
    Playing w playerId player1 taken rest order (calls ++ [i]) (pool.next P i)
      (Function.update stage i stage') x := by
  refine h.update (by rw [hstep, h.state]) (by rw [← h.state]; exact h.hand) h.cards
    (Writes.Le.refl x) hfits hreads hwritten hcleared (Or.inl rfl) (Or.inl rfl) (Or.inl rfl)

/-- The keys of the card table stay as they were. -/
theorem keys (h : Playing w playerId player1 taken rest order calls P stage x)
    (hkeys : (w.cards.map CardsEntity.cardId).Nodup) :
    (P.state.cards.map CardsEntity.cardId).Nodup := by
  rw [h.state]
  show ((Rows.saveAll CardsEntity.cardId _ w.cards).map CardsEntity.cardId).Nodup
  rw [Rows.map_key_saveAll]
  exact hkeys

/-- A play saves the card it found: a new one, or one that was saved before. -/
theorem save (h : Playing w playerId player1 taken rest order calls P stage x)
    (hkeys : (w.cards.map CardsEntity.cardId).Nodup) {i : ι} {s : Fin rest.length}
    (hstage : stage i = .save s) :
    ∃ x', Playing w playerId player1 taken rest order (calls ++ [i]) (pool.next P i)
      (Function.update stage i (.table s)) x' := by
  have hfits := h.fits i
  rw [hstage] at hfits
  obtain ⟨hcount, hle⟩ := hfits
  have hstep : (P.tasks i).step P.state =
      ((PlayStage.table s).task (order i) playerId player1 taken,
        P.state.saveCard (rest.get s).setPlayed) := by
    rw [h.tasks i, hstage]
    rfl
  rcases hle.lt_or_eq with hlt | heq
  · -- the row is already what is saved
    have hmem : (rest.get s).setPlayed ∈ P.state.cards := by
      have htake : rest.get s ∈ rest.take x.cards := by
        rw [List.mem_take_iff_getElem]
        exact ⟨s, by have := s.isLt; omega, rfl⟩
      have hrow := h.hand.rows.mem_iff.2 (List.mem_append_left _ (List.mem_map_of_mem
        (List.mem_append_right taken htake)))
      exact (List.mem_filter.1 hrow).1
    have hsame : P.state.saveCard (rest.get s).setPlayed = P.state := by
      show ({ P.state with cards := _ } : World) = _
      rw [Rows.save_self CardsEntity.cardId (h.keys hkeys) hmem]
    rw [hsame] at hstep
    exact ⟨x, h.read hstep ⟨by rw [hcount], hlt⟩ (by simp)
      (by simp [hstage]) (by simp [hstage])⟩
  · -- the next card of the hand
    have htake : rest.take (x.cards + 1) = rest.take x.cards ++ [rest.get s] := by
      rw [← heq]
      exact List.take_succ_eq_append_getElem s.isLt
    have hdrop : rest.drop x.cards = rest.get s :: rest.drop (x.cards + 1) := by
      rw [← heq]
      exact List.drop_eq_getElem_cons s.isLt
    have hcards : ({ x with cards := x.cards + 1 } : Writes rest.length).world w =
        P.state.saveCard (rest.get s).setPlayed := by
      rw [h.state]
      simp only [Writes.world, World.saveCard, htake, List.map_append, List.map_singleton,
        Rows.saveAll_append]
      rfl
    have hhand := h.hand
    rw [hdrop] at hhand
    refine ⟨{ x with cards := x.cards + 1 }, h.update (by rw [hstep, hcards]) ?_ ?_ ?_ ?_ ?_ ?_ ?_
      (Or.inr ⟨s, rfl, ?_⟩) (Or.inl rfl) (Or.inl rfl)⟩
    · rw [hcards, htake, ← List.append_assoc]
      exact hhand.put (h.keys hkeys)
    · show x.cards + 1 ≤ rest.length
      have := s.isLt
      omega
    · exact ⟨Nat.le_succ _, id, id, id⟩
    · refine ⟨by rw [hcount], ?_⟩
      show s.val < x.cards + 1
      omega
    · simp
    · simp [hstage]
    · simp [hstage]
    · show s.val + 1 = x.cards + 1
      omega

/-- **A call of one of the plays.**  A play that goes for a second card goes on doing
so, and one begins to only if it read the hand after the first card was written and
finds the flag not yet cleared. -/
theorem next (hplayer : PlayerRepository.rowOf w.players playerId = some player1)
    (hkeys : (w.cards.map CardsEntity.cardId).Nodup) (hrest : rest ≠ [])
    (h : Playing w playerId player1 taken rest order calls P stage x) (i : ι) :
    ∃ stage' x', Playing w playerId player1 taken rest order (calls ++ [i]) (pool.next P i)
        (Function.update stage i stage') x' ∧
      (stage'.second = true ↔ (stage i).second = true ∨
        (calls.count i = 2 ∧ x.cleared = false ∧ ∃ s, (stage i).seen = some s ∧ 1 ≤ s)) := by
  have htask := h.tasks i
  have hfits := h.fits i
  have hplayer' : PlayerRepository.rowOf P.state.players playerId = some player1 := by
    rw [h.state]
    exact hplayer
  have hflag : P.state.player1Turn = !x.cleared := by rw [h.state]; rfl
  cases hstage : stage i with
  | hand =>
      rw [hstage] at htask hfits
      have hcount : calls.count i = 0 := hfits
      refine ⟨.player x.cards, x, h.read ?_ ⟨by rw [hcount], le_rfl⟩ ?_ ?_ ?_, ?_⟩
      · rw [htask, PlayStage.step_hand h.hand]
      · intro s hs
        cases hs
        rw [callsBefore_first hcount]
        exact h.cards_iff hrest
      · simp [hstage]
      · simp [hstage]
      · simp
  | player s =>
      rw [hstage] at htask hfits
      refine ⟨.turn s, x, h.read ?_ ⟨by rw [hfits.1], hfits.2⟩ ?_ ?_ ?_, ?_⟩
      · rw [htask, PlayStage.step_player hplayer']
      · intro t ht
        cases ht
        rw [callsBefore_append (by rw [hfits.1])]
        exact h.reads i s (by rw [hstage]; rfl)
      · simp [hstage]
      · simp [hstage]
      · simp [hfits.1]
  | turn s =>
      rw [hstage] at htask hfits
      obtain ⟨hcount, hle⟩ := hfits
      cases hcleared : x.cleared with
      | true =>
          refine ⟨.refused, x, h.read ?_ ⟨by rw [hcount], hcleared⟩ (by simp)
            (by simp [hstage]) (by simp [hstage]), ?_⟩
          · rw [htask, PlayStage.step_turn_refused (by rw [hflag, hcleared]; rfl)]
          · simp
      | false =>
          have hturn : P.state.player1Turn = true := by rw [hflag, hcleared]; rfl
          rcases Nat.lt_or_ge s rest.length with hlt | hge
          · have hunplayed := h.unplayed ⟨s, hlt⟩
            refine ⟨.save ⟨s, hlt⟩, x, h.read ?_ ⟨by rw [hcount], hle⟩ (by simp)
              (by simp [hstage]) (by simp [hstage]), ?_⟩
            · rw [htask, ← PlayStage.step_turn_save hturn ⟨s, hlt⟩ hunplayed]
            · simp [hcount]
          · have hpos := List.length_pos_iff.2 hrest
            refine ⟨.empty, x, h.read ?_ ⟨by rw [hcount], hge.trans hle⟩ (by simp)
              (by simp [hstage]) (by simp [hstage]), ?_⟩
            · rw [htask, PlayStage.step_turn_empty hturn hge]
            · have hone : 1 ≤ s := by omega
              simp [hcount, hone]
  | save s =>
      obtain ⟨x', h'⟩ := h.save hkeys hstage
      exact ⟨.table s, x', h', by simp⟩
  | table s =>
      rw [hstage] at htask hfits
      refine ⟨.clear s, { x with table := some s }, h.update ?_ ?_ h.cards ?_ ?_ ?_ ?_ ?_
        (Or.inl rfl) (Or.inr rfl) (Or.inl rfl), ?_⟩
      · rw [htask, h.state]
        rfl
      · have hhand := h.hand
        rw [h.state] at hhand
        exact hhand
      · exact ⟨le_rfl, fun _ => rfl, id, id⟩
      · exact ⟨by rw [hfits.1], hfits.2, rfl⟩
      · simp
      · simp [hstage]
      · simp [hstage]
      · simp
  | clear s =>
      rw [hstage] at htask hfits
      refine ⟨.give s, { x with cleared := true }, h.update ?_ ?_ h.cards ?_ ?_ ?_ ?_ ?_
        (Or.inl rfl) (Or.inl rfl) (Or.inr rfl), ?_⟩
      · rw [htask, h.state]
        rfl
      · have hhand := h.hand
        rw [h.state] at hhand
        exact hhand
      · exact ⟨le_rfl, id, fun _ => rfl, id⟩
      · exact ⟨by rw [hfits.1], hfits.2.1, hfits.2.2, rfl⟩
      · simp
      · simp [hstage]
      · simp [hstage]
      · simp
  | give s =>
      rw [hstage] at htask hfits
      refine ⟨.played s, { x with given := true }, h.update ?_ ?_ h.cards ?_ ?_ ?_ ?_ ?_
        (Or.inl rfl) (Or.inl rfl) (Or.inl rfl), ?_⟩
      · rw [htask, h.state]
        rfl
      · have hhand := h.hand
        rw [h.state] at hhand
        exact hhand
      · exact ⟨le_rfl, id, id, fun _ => rfl⟩
      · exact ⟨by rw [hfits.1], hfits.2.1, hfits.2.2.1, hfits.2.2.2, rfl⟩
      · simp
      · simp [hstage]
      · simp [hstage]
      · simp
  | played s =>
      rw [hstage] at htask hfits
      refine ⟨.played s, x, h.read (by rw [htask]; rfl) ⟨?_, hfits.2⟩ (by simp)
        (by simp [hstage]) (by simp),
        by simp⟩
      have := hfits.1
      omega
  | refused =>
      rw [hstage] at htask hfits
      refine ⟨.refused, x, h.read (by rw [htask]; rfl) ⟨?_, hfits.2⟩ (by simp)
        (by simp [hstage]) (by simp [hstage]),
        by simp⟩
      have := hfits.1
      omega
  | empty =>
      rw [hstage] at htask hfits
      refine ⟨.empty, x, h.read (by rw [htask]; rfl) ⟨?_, hfits.2⟩ (by simp)
        (by simp [hstage]) (by simp [hstage]),
        by simp⟩
      have := hfits.1
      omega

end Playing

/-! ## Any interleaving -/

/-- A play that reads the hand after a card was written does not look at the turn
before it was given away.  The hand is read with the first call and the turn with the
third; the card is written with the fourth call and the flag cleared with the sixth. -/
def PlaysOrderly (schedule : List ι) : Prop :=
  ∀ pre i, pre ++ [i] <+: schedule → pre.count i = 2 →
    (∃ j, 4 ≤ (callsBefore pre i).count j) → ∃ j, 6 ≤ pre.count j

theorem playsOrderly_snoc (calls : List ι) (i : ι) :
    PlaysOrderly (calls ++ [i]) ↔ PlaysOrderly calls ∧
      (calls.count i = 2 → (∃ j, 4 ≤ (callsBefore calls i).count j) → ∃ j, 6 ≤ calls.count j) := by
  constructor
  · intro h
    exact ⟨fun pre j hpre => h pre j (hpre.trans (List.prefix_append ..)),
      h calls i (List.prefix_refl _)⟩
  · rintro ⟨hcalls, hlast⟩ pre j hpre
    rcases List.prefix_concat_iff.1 hpre with heq | hold
    · obtain ⟨rfl, hj⟩ := List.append_inj' heq rfl
      cases hj
      exact hlast
    · exact hcalls pre j hold

/-- Along any interleaving a play goes for a second card exactly if the calls were not
orderly. -/
theorem playing_run (hplayer : PlayerRepository.rowOf w.players playerId = some player1)
    (hkeys : (w.cards.map CardsEntity.cardId).Nodup)
    (hhand : Holding playerId taken rest w.cards) (hlength : 2 ≤ rest.length)
    (hturn : w.player1Turn = true) (order : ι → CardOrder) (schedule : List ι) :
    ∃ stage x, Playing w playerId player1 taken rest order schedule
        (pool.run (plays w playerId order) schedule) stage x ∧
      ((∃ i, (stage i).second = true) ↔ ¬ PlaysOrderly schedule) := by
  have hrest : rest ≠ [] := List.ne_nil_of_length_pos (by omega)
  refine Machine.run_traced (M := pool)
    (I := fun calls P => ∃ stage x, Playing w playerId player1 taken rest order calls P stage x ∧
      ((∃ i, (stage i).second = true) ↔ ¬ PlaysOrderly calls))
    ⟨_, _, Playing.start hhand hturn, ?_⟩ ?_ schedule
  · have horderly : PlaysOrderly ([] : List ι) := by
      intro pre i hpre
      simp at hpre
    simp [horderly]
  rintro calls P i ⟨stage, x, h, hsecond⟩
  obtain ⟨stage', x', h', hlater⟩ := h.next hplayer hkeys hrest i
  refine ⟨_, x', h', ?_⟩
  rw [playsOrderly_snoc, not_and_or, ← hsecond]
  -- the only play that can begin to is `i`
  have hsplit : (∃ j, (Function.update stage i stage' j).second = true) ↔
      (∃ j, (stage j).second = true) ∨ (calls.count i = 2 ∧ x.cleared = false ∧
        ∃ s, (stage i).seen = some s ∧ 1 ≤ s) := by
    constructor
    · rintro ⟨j, hj⟩
      by_cases hji : j = i
      · subst hji
        rw [Function.update_self] at hj
        exact (hlater.1 hj).imp_left fun hold => ⟨j, hold⟩
      · rw [Function.update_of_ne hji] at hj
        exact Or.inl ⟨j, hj⟩
    · rintro (⟨j, hj⟩ | hnew)
      · by_cases hji : j = i
        · subst hji
          exact ⟨j, by rw [Function.update_self]; exact hlater.2 (Or.inl hj)⟩
        · exact ⟨j, by rw [Function.update_of_ne hji]; exact hj⟩
      · exact ⟨i, by rw [Function.update_self]; exact hlater.2 (Or.inr hnew)⟩
  rw [hsplit]
  by_cases hold : ∃ j, (stage j).second = true
  · exact iff_of_true (Or.inl hold) (Or.inl hold)
  refine or_congr_right ?_
  simp only [Classical.not_imp]
  refine and_congr_right fun htwo => ?_
  obtain ⟨s, hs⟩ := h.turn_of_two htwo
  have hseen : (stage i).seen = some s := by rw [hs]; rfl
  have hcleared : x.cleared = false ↔ ¬ ∃ j, 6 ≤ calls.count j := by
    constructor
    · rintro hfalse ⟨j, hj⟩
      rcases h.cleared_of_six hj with htrue | hempty
      · rw [htrue] at hfalse
        cases hfalse
      · -- more than one card was written
        obtain ⟨k, t, hk, ht⟩ := h.writer (by omega)
        exact hold ⟨k, PlayStage.second_of_written hk (by omega)⟩
    · intro hsix
      by_contra htrue
      obtain ⟨k, hk⟩ := h.clearer (by simpa using htrue)
      exact hsix ⟨k, ((h.fits k).of_hasCleared hk).1⟩
  have hlate : (∃ t, (stage i).seen = some t ∧ 1 ≤ t) ↔
      ∃ j, 4 ≤ (callsBefore calls i).count j := by
    rw [← h.reads i s hseen]
    constructor
    · rintro ⟨t, ht, hone⟩
      cases hseen.symm.trans ht
      exact hone
    · exact fun hone => ⟨s, hseen, hone⟩
  rw [hcleared, hlate, and_comm]

/-- A play that is done has played a card, or was refused, or found no card. -/
theorem Playing.done (h : Playing w playerId player1 taken rest order calls P stage x) {i : ι}
    (hdone : (P.tasks i).result?.isSome = true) :
    (∃ s, stage i = .played s) ∨ stage i = .refused ∨ stage i = .empty := by
  rw [h.tasks i] at hdone
  cases hstage : stage i with
  | played s => exact Or.inl ⟨s, rfl⟩
  | refused => exact Or.inr (Or.inl rfl)
  | empty => exact Or.inr (Or.inr rfl)
  | _ =>
      rw [hstage] at hdone
      cases hdone

/-- When all plays are done, one of them has played a card. -/
theorem Playing.exists_played [Nonempty ι]
    (h : Playing w playerId player1 taken rest order calls P stage x) (hrest : rest ≠ [])
    (hdone : ∀ i, (P.tasks i).result?.isSome = true) : ∃ i s, stage i = .played s := by
  obtain ⟨i⟩ := ‹Nonempty ι›
  rcases h.done (hdone i) with ⟨s, hs⟩ | hrefused | hempty
  · exact ⟨i, s, hs⟩
  · have hfits := h.fits i
    rw [hrefused] at hfits
    obtain ⟨j, hj⟩ := h.clearer hfits.2
    rcases h.done (hdone j) with ⟨s, hs⟩ | hno | hno
    · exact ⟨j, s, hs⟩
    · rw [hno] at hj
      cases hj
    · rw [hno] at hj
      cases hj
  · have hfits := h.fits i
    rw [hempty] at hfits
    have hlength := List.length_pos_iff.2 hrest
    obtain ⟨j, s, hj, -⟩ := h.writer (by have := hfits.2; omega)
    rcases h.done (hdone j) with ⟨s, hs⟩ | hno | hno
    · exact ⟨j, s, hs⟩
    · rw [hno] at hj
      cases hj
    · rw [hno] at hj
      cases hj

/-- A play that went for a second card and is done: two cards were written. -/
theorem Playing.two_le (h : Playing w playerId player1 taken rest order calls P stage x)
    (hlength : 2 ≤ rest.length) {i : ι} (hdone : (P.tasks i).result?.isSome = true)
    (hsecond : (stage i).second = true) : 2 ≤ x.cards := by
  have hfits := h.fits i
  rcases h.done hdone with ⟨s, hs⟩ | hs | hs <;> rw [hs] at hfits hsecond
  · have hone : 1 ≤ s.val := of_decide_eq_true hsecond
    have hlt := hfits.2.1
    omega
  · cases hsecond
  · exact hlength.trans hfits.2

/-- A single play. -/
theorem playCard1_putDown {c : CardsEntity}
    (hplayer : PlayerRepository.rowOf w.players playerId = some player1)
    (hturn : w.player1Turn = true) (hhand : Holding playerId taken (c :: rest) w.cards)
    (rows : CardOrder) : (playCard1 rows playerId w).2 = w.putDown1 c.setPlayed := by
  have hunplayed : c.isPlayed = false := hhand.unplayed c (by simp)
  rw [playCard1_apply, hplayer]
  simp only [hturn, if_true]
  rw [hhand.cardsOf, playFirst_taken taken rest hunplayed]

end Pool

/-! ## Two clicks -/

/-- Player 1 holds two cards. -/
def twoCards : World := (Match.ofRanks [10, 9] [8, 7]).world

/-- Two plays that take turns with their calls. -/
def alternating : List (Fin 2) := [0, 1, 0, 1, 0, 1, 0, 1, 0, 1, 0, 1, 0, 1]

/-- The second play reads the hand after the first card was saved, and looks at the turn
before it is given away: both cards are gone from the hand, and one is on the table. -/
example :
    let w := (pool.run (plays twoCards 1 fun _ : Fin 2 => .same)
      [0, 0, 0, 0, 1, 1, 1, 0, 0, 0, 1, 1, 1, 1]).state
    w.playedCard1.map CardsEntity.rank = some 9 ∧
      (w.cards.filter fun c => c.isPlayed).map CardsEntity.rank = [10, 9] := by
  decide +kernel

end WarCardGame
