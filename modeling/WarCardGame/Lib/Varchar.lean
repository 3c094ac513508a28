import Mathlib

/-!
# Texts in a database

A column `VARCHAR(n)` of PostgreSQL holds texts of at most `n` characters.  A longer text is
stored only if what is too much are blanks, which are cut off.  A text with the character
U+0000 cannot be sent to the database at all, be it to store it or to look for it.

* `sendable`, `store` — what can be sent, and what a column holds then.
* `store_isSome_iff` — **the texts that a column takes**.
* `store_store` — what a column holds it takes again, as it is.
-/

namespace Lib

namespace Varchar

/-- The text can be sent to the database. -/
def sendable (text : String) : Bool := text.toList.all fun c => c.toNat ≠ 0

/-- What a column `VARCHAR(n)` holds after the text was stored in it. -/
def store (n : ℕ) (text : String) : Option String :=
  if sendable text then
    if text.length ≤ n then some text
    else if (text.toList.drop n).all (· = ' ') then some (String.ofList (text.toList.take n))
    else none
  else none

/-- A text that is short enough is stored as it is. -/
theorem store_of_length_le {n : ℕ} {text : String} (hsendable : sendable text = true)
    (hlength : text.length ≤ n) : store n text = some text := by
  rw [store, if_pos hsendable, if_pos hlength]

/-- **The texts that a column takes**: after the first `n` characters there are only
blanks. -/
theorem store_isSome_iff {n : ℕ} {text : String} :
    (store n text).isSome = true ↔
      sendable text = true ∧ ∀ c ∈ text.toList.drop n, c = ' ' := by
  unfold store
  split_ifs with hsendable hlength hblank
  · have hdrop : text.toList.drop n = [] :=
      List.drop_eq_nil_of_le (by rw [String.length_toList]; exact hlength)
    simp [hsendable, hdrop]
  · have hall : ∀ c ∈ text.toList.drop n, c = ' ' := by simpa using hblank
    exact iff_of_true rfl ⟨hsendable, hall⟩
  · refine iff_of_false (by simp) fun h => hblank ?_
    simpa using h.2
  · exact iff_of_false (by simp) fun h => hsendable h.1

/-- What a column holds can be sent, and is short enough. -/
theorem fits_of_store {n : ℕ} {text stored : String} (h : store n text = some stored) :
    sendable stored = true ∧ stored.length ≤ n := by
  unfold store at h
  split_ifs at h with hsendable hlength hblank
  · cases h
    exact ⟨hsendable, hlength⟩
  · cases h
    refine ⟨?_, ?_⟩
    · rw [sendable, String.toList_ofList, List.all_eq_true]
      exact fun c hc => List.all_eq_true.1 hsendable c (List.take_subset _ _ hc)
    · rw [String.length_ofList]
      exact List.length_take_le _ _

/-- What a column holds it takes again, as it is. -/
theorem store_store {n : ℕ} {text stored : String} (h : store n text = some stored) :
    store n stored = some stored :=
  store_of_length_le (fits_of_store h).1 (fits_of_store h).2

end Varchar

end Lib
