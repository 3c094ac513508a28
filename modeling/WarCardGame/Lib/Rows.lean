import Mathlib

/-!
# Tables of keyed rows

A table is a list of rows, each with a key.  `save` overwrites the row that has
the key of the one given, which is what writing back a detached copy of a row
does; `saveAll` does it for one copy after another.  A query lists its rows in
some order of the database's choosing: `Reordering` is such a choice, and
`sorted_eq_of_perm` says when an `ORDER BY` leaves it no choice at all.

* `mem_save`, `mem_of_mem_saveAll` — what is in the table afterwards.
* `map_key_save`, `map_key_saveAll` — the keys stay as they were, in order.
* `saveAll_eq_of_perm`, `saveAll_perm` — writes of different rows can be made in
  any order, and the table then holds them and the rows that were not written.
* `filter_save_of_pos`, `filter_save_of_not` — how a selection of the rows sees a
  row being written.
* `find?_save` — how a lookup sees it.
* `find?_selection`, `filter_selection`, `any_selection` — a query of some rows of
  a selection is a query of the table.
-/

namespace Lib

/-- A way of putting rows into some order: what a database does with the rows a
query does not order, and what a shuffle does. -/
structure Reordering (α : Type) where
  /-- The rows in their new order. -/
  apply : List α → List α
  /-- None is lost and none is added. -/
  perm : ∀ l, (apply l).Perm l

namespace Reordering

variable {α : Type}

/-- The rows in the order in which they are stored. -/
def same : Reordering α := ⟨fun l => l, fun _ => List.Perm.refl _⟩

@[simp] theorem same_apply (l : List α) : (same : Reordering α).apply l = l := rfl

@[simp] theorem mem_apply (r : Reordering α) {a : α} {l : List α} : a ∈ r.apply l ↔ a ∈ l :=
  (r.perm l).mem_iff

@[simp] theorem length_apply (r : Reordering α) (l : List α) : (r.apply l).length = l.length :=
  (r.perm l).length_eq

/-- The new order depends on the keys of the rows only. -/
def Uniform {κ : Type} (key : α → κ) (r : Reordering α) : Prop :=
  ∀ f : α → α, (∀ a, key (f a) = key a) → ∀ l, r.apply (l.map f) = (r.apply l).map f

theorem same_uniform {κ : Type} (key : α → κ) : (same : Reordering α).Uniform key :=
  fun _ _ _ => rfl

end Reordering

/-- A query result that is ordered strictly by some attribute does not depend on
the order the rows were found in. -/
theorem sorted_eq_of_perm {α : Type} (f : α → ℤ) {l l' : List α} (hperm : l.Perm l')
    (hl' : l'.Pairwise fun a b => f a < f b) :
    l.insertionSort (fun a b => f a ≤ f b) = l' := by
  have : IsTrans α fun a b => f a ≤ f b := ⟨fun _ _ _ => le_trans⟩
  have : Std.Total fun a b : α => f a ≤ f b := ⟨fun a b => le_total (f a) (f b)⟩
  have hnd : (l'.map f).Nodup := List.pairwise_map.2 (hl'.imp fun h => ne_of_lt h)
  have hsort := List.perm_insertionSort (fun a b => f a ≤ f b) l
  refine List.Perm.eq_of_pairwise ?_ (List.pairwise_insertionSort _ l)
    (hl'.imp fun h => le_of_lt h) (hsort.trans hperm)
  intro a b ha hb hab hba
  exact List.inj_on_of_nodup_map hnd ((hsort.trans hperm).mem_iff.1 ha) hb (le_antisymm hab hba)

namespace Rows

/-! ## Queries of a selection -/

section Selections

variable {α : Type} {p q : α → Bool} (h : ∀ x, p x = true → q x = true) (rows : List α)

include h

theorem find?_selection : (rows.filter q).find? p = rows.find? p := by
  rw [List.find?_filter]
  refine congrFun (congrArg _ (funext fun x => ?_)) rows
  cases hx : p x with
  | true => simp [h x hx]
  | false => simp

theorem filter_selection : (rows.filter q).filter p = rows.filter p := by
  rw [List.filter_filter]
  refine List.filter_congr fun x _ => ?_
  cases hx : p x with
  | true => simp [h x hx]
  | false => simp

theorem any_selection : (rows.filter q).any p = rows.any p := by
  rw [Bool.eq_iff_iff, List.any_eq_true, List.any_eq_true]
  constructor
  · rintro ⟨x, hx, hp⟩
    exact ⟨x, (List.mem_filter.1 hx).1, hp⟩
  · rintro ⟨x, hx, hp⟩
    exact ⟨x, List.mem_filter.2 ⟨hx, h x hp⟩, hp⟩

end Selections

/-! ## Writing rows back -/

variable {α κ : Type} [DecidableEq κ] (key : α → κ)

/-- Overwrite the row that has `r`'s key. -/
def save (r : α) (rows : List α) : List α := rows.map fun x => if key x = key r then r else x

/-- Overwrite one row after another. -/
def saveAll (rs : List α) (rows : List α) : List α := rs.foldl (fun l r => save key r l) rows

theorem save_cons (r x : α) (rows : List α) :
    save key r (x :: rows) = (if key x = key r then r else x) :: save key r rows := rfl

@[simp] theorem saveAll_nil (rows : List α) : saveAll key [] rows = rows := rfl

@[simp] theorem saveAll_cons (r : α) (rs rows : List α) :
    saveAll key (r :: rs) rows = saveAll key rs (save key r rows) := rfl

@[simp] theorem map_key_save (r : α) (rows : List α) :
    (save key r rows).map key = rows.map key := by
  rw [save, List.map_map]
  refine List.map_congr_left fun x _ => ?_
  by_cases h : key x = key r
  · simp [h]
  · simp [h]

@[simp] theorem map_key_saveAll (rs rows : List α) :
    (saveAll key rs rows).map key = rows.map key := by
  induction rs generalizing rows with
  | nil => rfl
  | cons r rs ih => rw [saveAll_cons, ih, map_key_save]

/-- What the table holds after a row has been written back. -/
theorem mem_save {r x : α} {rows : List α} :
    x ∈ save key r rows ↔ (x ∈ rows ∧ key x ≠ key r) ∨ (x = r ∧ key r ∈ rows.map key) := by
  simp only [save, List.mem_map]
  constructor
  · rintro ⟨y, hy, hxy⟩
    by_cases h : key y = key r
    · rw [if_pos h] at hxy
      exact Or.inr ⟨hxy.symm, y, hy, h⟩
    · rw [if_neg h] at hxy
      subst hxy
      exact Or.inl ⟨hy, h⟩
  · rintro (⟨hx, h⟩ | ⟨rfl, y, hy, h⟩)
    · exact ⟨x, hx, if_neg h⟩
    · exact ⟨y, hy, if_pos h⟩

/-- A selection of the rows with `r`'s key sees `r` being written. -/
theorem filter_save_of_pos {p : α → Bool} {r : α} {rows : List α} (hr : p r = true)
    (hrows : ∀ x ∈ rows, key x = key r → p x = true) :
    (save key r rows).filter p = save key r (rows.filter p) := by
  induction rows with
  | nil => rfl
  | cons x xs ih =>
      have hxs := ih fun y hy => hrows y (List.mem_cons_of_mem _ hy)
      rw [save_cons]
      by_cases hx : key x = key r
      · rw [if_pos hx, List.filter_cons_of_pos hr, hxs,
          List.filter_cons_of_pos (hrows x (List.mem_cons_self ..) hx), save_cons, if_pos hx]
      · rw [if_neg hx]
        cases hpx : p x with
        | true => rw [List.filter_cons_of_pos hpx, List.filter_cons_of_pos hpx, save_cons,
            if_neg hx, hxs]
        | false => rw [List.filter_cons_of_neg (by simp [hpx]),
            List.filter_cons_of_neg (by simp [hpx]), hxs]

/-- Rows that a selection leaves out before and after do not show in it. -/
theorem filter_save_of_not {p : α → Bool} {r : α} {rows : List α} (hr : p r = false)
    (hrows : ∀ x ∈ rows, key x = key r → p x = false) :
    (save key r rows).filter p = rows.filter p := by
  induction rows with
  | nil => rfl
  | cons x xs ih =>
      have hxs := ih fun y hy => hrows y (List.mem_cons_of_mem _ hy)
      rw [save_cons, List.filter_cons, List.filter_cons, hxs]
      by_cases hx : key x = key r
      · rw [if_pos hx, hr, hrows x (List.mem_cons_self ..) hx, if_neg Bool.false_ne_true,
          if_neg Bool.false_ne_true]
      · rw [if_neg hx]

/-- Overwriting a row by one that a count leaves out never raises the count. -/
theorem countP_save_le {p : α → Bool} {r : α} (hr : p r = false) (rows : List α) :
    (save key r rows).countP p ≤ rows.countP p := by
  induction rows with
  | nil => exact le_rfl
  | cons x xs ih =>
      rw [save_cons, List.countP_cons, List.countP_cons]
      by_cases hx : key x = key r
      · rw [if_pos hx, hr, if_neg Bool.false_ne_true]
        omega
      · rw [if_neg hx]
        omega

/-- It lowers the count if the row it replaces was counted. -/
theorem countP_save_lt {p : α → Bool} {r x : α} {rows : List α} (hr : p r = false)
    (hx : x ∈ rows) (hkey : key x = key r) (hp : p x = true) :
    (save key r rows).countP p < rows.countP p := by
  induction rows with
  | nil => exact absurd hx List.not_mem_nil
  | cons y ys ih =>
      rw [save_cons, List.countP_cons, List.countP_cons]
      rcases List.mem_cons.1 hx with rfl | hys
      · have hle := countP_save_le key hr ys
        rw [if_pos hkey, hr, hp, if_neg Bool.false_ne_true, if_pos rfl]
        omega
      · have hlt := ih hys
        by_cases hy : key y = key r
        · rw [if_pos hy, hr, if_neg Bool.false_ne_true]
          omega
        · rw [if_neg hy]
          omega

/-- A stored row splits the table; saving or deleting acts at the split. -/
theorem exists_split {rows : List α} (hnd : (rows.map key).Nodup) {x : α} (hx : x ∈ rows) :
    ∃ before after, rows = before ++ x :: after ∧
      (∀ r, key r = key x → save key r rows = before ++ r :: after) ∧
      rows.filter (fun y => key y ≠ key x) = before ++ after := by
  obtain ⟨before, after, rfl⟩ := List.append_of_mem hx
  simp only [List.map_append, List.map_cons] at hnd
  obtain ⟨-, hnd2, hdisj⟩ := List.nodup_append.1 hnd
  have hbefore : ∀ y ∈ before, key y ≠ key x := fun y hy =>
    hdisj (key y) (List.mem_map_of_mem hy) (key x) (List.mem_cons_self ..)
  have hafter : ∀ y ∈ after, key y ≠ key x := by
    intro y hy hyx
    exact (List.nodup_cons.1 hnd2).1 (hyx ▸ List.mem_map_of_mem hy)
  have hsame : ∀ (r : α) (l : List α), key r = key x → (∀ y ∈ l, key y ≠ key x) →
      save key r l = l := by
    intro r l hr hl
    refine (List.map_congr_left fun y hy => ?_).trans (List.map_id l)
    exact if_neg (hr ▸ hl y hy)
  refine ⟨before, after, rfl, fun r hr => ?_, ?_⟩
  · have hb := hsame r before hr hbefore
    have ha := hsame r after hr hafter
    simp only [save, List.map_append, List.map_cons] at hb ha ⊢
    rw [hb, ha, if_pos hr.symm]
  · rw [List.filter_append, List.filter_cons_of_neg (by simp)]
    rw [List.filter_eq_self.2 fun y hy => by simpa using hbefore y hy,
      List.filter_eq_self.2 fun y hy => by simpa using hafter y hy]

/-- Writing back a row as it is changes nothing. -/
theorem save_self {rows : List α} (hnd : (rows.map key).Nodup) {x : α} (hx : x ∈ rows) :
    save key x rows = rows := by
  obtain ⟨before, after, hrows, hsave, -⟩ := exists_split key hnd hx
  rw [hsave x rfl, ← hrows]

/-- What the table holds after several rows have been written back: those rows,
and the ones whose keys are not among theirs. -/
theorem mem_of_mem_saveAll {rs rows : List α} {x : α} (hx : x ∈ saveAll key rs rows) :
    x ∈ rs ∨ (x ∈ rows ∧ key x ∉ rs.map key) := by
  induction rs generalizing rows with
  | nil => exact Or.inr ⟨hx, by simp⟩
  | cons r rs ih =>
      rw [saveAll_cons] at hx
      rcases ih hx with hrs | ⟨hsave, hnot⟩
      · exact Or.inl (List.mem_cons_of_mem _ hrs)
      · rcases (mem_save key).1 hsave with ⟨hrows, hne⟩ | ⟨rfl, -⟩
        · refine Or.inr ⟨hrows, ?_⟩
          rw [List.map_cons, List.mem_cons, not_or]
          exact ⟨hne, hnot⟩
        · exact Or.inl (List.mem_cons_self ..)

/-! ## Writing rows back in any order -/

theorem saveAll_append (rs rs' rows : List α) :
    saveAll key (rs ++ rs') rows = saveAll key rs' (saveAll key rs rows) :=
  List.foldl_append ..

/-- Writes of rows with different keys do not see each other. -/
theorem save_comm {a b : α} (h : key a ≠ key b) (rows : List α) :
    save key a (save key b rows) = save key b (save key a rows) := by
  simp only [save, List.map_map]
  refine List.map_congr_left fun x _ => ?_
  simp only [Function.comp_apply]
  by_cases ha : key x = key a
  · have hb : key x ≠ key b := ha ▸ h
    rw [if_neg hb, if_pos ha, if_neg h]
  · rw [if_neg ha]
    by_cases hb : key x = key b
    · rw [if_pos hb, if_neg h.symm]
    · rw [if_neg hb, if_neg ha]

/-- So they can be made in any order. -/
theorem saveAll_eq_of_perm {rs rs' : List α} (h : rs.Perm rs') (hnd : (rs.map key).Nodup)
    (rows : List α) : saveAll key rs rows = saveAll key rs' rows := by
  induction h generalizing rows with
  | nil => rfl
  | cons a _ ih =>
      rw [List.map_cons, List.nodup_cons] at hnd
      exact ih hnd.2 (save key a rows)
  | swap a b rs =>
      have hab : key a ≠ key b := by
        rw [List.map_cons, List.map_cons, List.nodup_cons] at hnd
        exact fun hab => hnd.1 (by simp [hab])
      simp only [saveAll_cons]
      rw [save_comm key hab]
  | trans h _ ih ih' =>
      rw [ih hnd, ih' ((h.map key).nodup_iff.1 hnd)]

omit [DecidableEq κ] in
/-- Rows with the same key are the same row. -/
theorem eq_of_key_eq {rows : List α} (hnd : (rows.map key).Nodup) {a b : α} (ha : a ∈ rows)
    (hb : b ∈ rows) (hab : key a = key b) : a = b :=
  List.inj_on_of_nodup_map hnd ha hb hab

omit [DecidableEq κ] in
/-- Rows with the keys they had, each of which looks like one that was there before,
look as they did. -/
theorem map_eq_of_origin {β : Type} {f : α → β} {rows rows' : List α}
    (hnd : (rows.map key).Nodup) (hkeys : rows'.map key = rows.map key)
    (horigin : ∀ x ∈ rows', ∃ y ∈ rows, key y = key x ∧ f y = f x) :
    rows'.map f = rows.map f := by
  have hlength : rows'.length = rows.length := by
    simpa only [List.length_map] using congrArg List.length hkeys
  refine List.ext_getElem (by simpa only [List.length_map] using hlength) fun i hi' hi => ?_
  rw [List.length_map] at hi' hi
  rw [List.getElem_map, List.getElem_map]
  obtain ⟨y, hy, hkey, hf⟩ := horigin rows'[i] (List.getElem_mem hi')
  have hkeyi : key rows'[i] = key rows[i] := by
    have hget : (rows'.map key)[i]? = (rows.map key)[i]? := by rw [hkeys]
    simpa [List.getElem?_map, List.getElem?_eq_getElem hi', List.getElem?_eq_getElem hi] using hget
  rw [← hf, eq_of_key_eq key hnd hy (List.getElem_mem hi) (hkey.trans hkeyi)]

/-- With unique keys, a lookup finds the row that has the key. -/
theorem find?_key_eq_some {rows : List α} (hnd : (rows.map key).Nodup) {k : κ} {x : α} :
    rows.find? (fun y => key y = k) = some x ↔ x ∈ rows ∧ key x = k := by
  constructor
  · intro h
    exact ⟨List.mem_of_find?_eq_some h, by simpa using List.find?_some h⟩
  · rintro ⟨hx, rfl⟩
    have hsome : (rows.find? fun y => key y = key x).isSome := by
      rw [List.find?_isSome]
      exact ⟨x, hx, by simp⟩
    obtain ⟨y, hy⟩ := Option.isSome_iff_exists.1 hsome
    have hkey : key y = key x := by simpa using List.find?_some hy
    rw [hy, eq_of_key_eq key hnd (List.mem_of_find?_eq_some hy) hx hkey]

/-- **What a table holds** after copies of some of its rows have been written
back: the copies, and the rows that were not written. -/
theorem saveAll_perm {rs rows : List α} (hnd : (rows.map key).Nodup) (hrs : (rs.map key).Nodup)
    (hsub : rs.map key ⊆ rows.map key) :
    (saveAll key rs rows).Perm (rs ++ rows.filter fun x => key x ∉ rs.map key) := by
  have hkeys := map_key_saveAll key rs rows
  have hnodup : (saveAll key rs rows).Nodup := List.Nodup.of_map key (hkeys ▸ hnd)
  -- there is a row for every key of the table, and it was written or it was not
  have hrow : ∀ k ∈ rows.map key, ∃ y ∈ saveAll key rs rows, key y = k ∧
      (y ∈ rs ∨ (y ∈ rows ∧ key y ∉ rs.map key)) := by
    intro k hk
    rw [← hkeys] at hk
    obtain ⟨y, hy, rfl⟩ := List.mem_map.1 hk
    exact ⟨y, hy, rfl, mem_of_mem_saveAll key hy⟩
  refine (List.perm_ext_iff_of_nodup hnodup ?_).2 fun x => ?_
  · refine List.nodup_append.2 ⟨hrs.of_map key, (hnd.of_map key).filter _, ?_⟩
    intro a ha b hb hab
    rw [List.mem_filter, decide_eq_true_eq] at hb
    exact hb.2 (hab ▸ List.mem_map_of_mem ha)
  · rw [List.mem_append, List.mem_filter, decide_eq_true_eq]
    constructor
    · exact mem_of_mem_saveAll key
    · rintro (hx | ⟨hx, hnot⟩)
      · obtain ⟨y, hy, hkey, hcases⟩ := hrow (key x) (hsub (List.mem_map_of_mem hx))
        rcases hcases with hyrs | ⟨-, hynot⟩
        · rwa [← eq_of_key_eq key hrs hyrs hx hkey]
        · exact absurd (hkey ▸ List.mem_map_of_mem hx) hynot
      · obtain ⟨y, hy, hkey, hcases⟩ := hrow (key x) (List.mem_map_of_mem hx)
        rcases hcases with hyrs | ⟨hyrows, -⟩
        · exact absurd (hkey ▸ List.mem_map_of_mem hyrs) hnot
        · rwa [← eq_of_key_eq key hnd hyrows hx hkey]

/-- With unique keys, the rows with a row's key are that row. -/
theorem filter_key_eq {rows : List α} (hnd : (rows.map key).Nodup) {x : α} (hx : x ∈ rows) :
    rows.filter (fun y => key y = key x) = [x] := by
  have hnodup : (rows.filter fun y => key y = key x).Nodup := (List.Nodup.of_map key hnd).filter _
  refine List.perm_singleton.1 ((List.perm_ext_iff_of_nodup hnodup (List.nodup_singleton x)).2 ?_)
  intro y
  rw [List.mem_filter, List.mem_singleton, decide_eq_true_eq]
  constructor
  · rintro ⟨hy, hkey⟩
    exact eq_of_key_eq key hnd hy hx hkey
  · rintro rfl
    exact ⟨hx, rfl⟩

/-- A lookup finds the row that was written back. -/
theorem find?_save {r : α} {rows : List α} (h : key r ∈ rows.map key) :
    (save key r rows).find? (fun x => key x = key r) = some r := by
  induction rows with
  | nil => exact absurd h List.not_mem_nil
  | cons x rows ih =>
      rw [save_cons]
      by_cases hx : key x = key r
      · rw [if_pos hx, List.find?_cons_of_pos (by simp)]
      · rw [if_neg hx, List.find?_cons_of_neg (by simpa using hx)]
        rw [List.map_cons, List.mem_cons] at h
        exact ih (h.resolve_left (Ne.symm hx))

/-- A lookup of another key does not see it. -/
theorem find?_save_of_ne {r : α} {k : κ} (hne : key r ≠ k) (rows : List α) :
    (save key r rows).find? (fun x => key x = k) = rows.find? fun x => key x = k := by
  induction rows with
  | nil => rfl
  | cons x rows ih =>
      rw [save_cons]
      by_cases hx : key x = key r
      · have hxk : key x ≠ k := hx ▸ hne
        rw [if_pos hx, List.find?_cons_of_neg (by simpa using hne),
          List.find?_cons_of_neg (by simpa using hxk), ih]
      · rw [if_neg hx, List.find?_cons, List.find?_cons, ih]

end Rows

end Lib
