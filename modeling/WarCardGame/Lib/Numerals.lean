import Mathlib

/-!
# Numbers in texts

A number travels as a text: it is written in decimal, put into a longer text, cut
out again and read.  The functions here read what ECMAScript and Java read.

* `trim`, `word` — the ends of a text without blanks, and the words between blanks.
* `readInt` — the number a whole text is, as `Long.parseLong` reads it.
* `parseInt` — the number a text starts with, as the function of that name in
  ECMAScript reads it; there a text may start with blanks and go on with anything.
* `readInt_toString`, `parseInt_toString`, `trim_append_toString` — **round trips**: a number that
  was written in decimal is read again, by either of them.
-/

namespace Lib

namespace Numerals

/-! ## Reading -/

/-- A white space or a line terminator of ECMAScript. -/
def isBlank (c : Char) : Bool :=
  c.toNat ∈ [0x9, 0xA, 0xB, 0xC, 0xD, 0x20, 0xA0, 0x1680, 0x2028, 0x2029, 0x202F, 0x205F, 0x3000,
    0xFEFF] || (0x2000 ≤ c.toNat && c.toNat ≤ 0x200A)

/-- `String.prototype.trim`. -/
def trim (text : String) : String :=
  String.ofList (((text.toList.dropWhile isBlank).reverse.dropWhile isBlank).reverse)

/-- `text.split(' ')[i]`. -/
def word (i : ℕ) (text : String) : Option String :=
  (text.toList.splitOn ' ')[i]?.map String.ofList

/-- The number with the given decimal digits; there has to be one. -/
def ofDigits (digits : List Char) : Option ℕ :=
  if digits = [] then none else some (Nat.ofDigitChars 10 digits 0)

/-- The value of a hexadecimal digit. -/
def hexValue (c : Char) : Option ℕ :=
  if c.isDigit then some (c.toNat - '0'.toNat)
  else if 'a' ≤ c ∧ c ≤ 'f' then some (c.toNat - 'a'.toNat + 10)
  else if 'A' ≤ c ∧ c ≤ 'F' then some (c.toNat - 'A'.toNat + 10)
  else none

/-- The number that the hexadecimal digits at the start of a text make. -/
def leadingHex (cs : List Char) : Option ℕ :=
  let values := (cs.takeWhile fun c => (hexValue c).isSome).filterMap hexValue
  if values = [] then none else some (values.foldl (fun n v => 16 * n + v) 0)

/-- The number that the digits at the start of a text make. -/
def leadingNat : List Char → Option ℕ
  | '0' :: 'x' :: cs => leadingHex cs
  | '0' :: 'X' :: cs => leadingHex cs
  | cs => ofDigits (cs.takeWhile Char.isDigit)

/-- A sign, if there is one, and a number. -/
def signed (read : List Char → Option ℕ) : List Char → Option ℤ
  | '-' :: cs => (read cs).map fun n : ℕ => -(n : ℤ)
  | '+' :: cs => (read cs).map fun n : ℕ => (n : ℤ)
  | cs => (read cs).map fun n : ℕ => (n : ℤ)

/-- `parseInt`; `NaN` is `none`, and no number is rounded. -/
def parseInt (text : String) : Option ℤ :=
  signed leadingNat (text.toList.dropWhile isBlank)

/-- `Long.parseLong`, of a number of any size. -/
def readInt (text : String) : Option ℤ :=
  signed (fun cs => if cs.all Char.isDigit then ofDigits cs else none) text.toList

/-! ## Written numbers -/

theorem isDigit_of_mem {n : ℕ} {c : Char} (hc : c ∈ Nat.toDigits 10 n) : c.isDigit = true :=
  Nat.isDigit_of_mem_toDigits (by omega) le_rfl hc

theorem isBlank_of_isDigit {c : Char} (hc : c.isDigit = true) : isBlank c = false := by
  simp only [Char.isDigit, Bool.and_eq_true, decide_eq_true_eq, UInt32.le_iff_toNat_le] at hc
  have hlow : 48 ≤ c.toNat := hc.1
  have hhigh : c.toNat ≤ 57 := hc.2
  simp [isBlank]
  omega

theorem ofDigits_toDigits (n : ℕ) : ofDigits (Nat.toDigits 10 n) = some n := by
  rw [ofDigits, if_neg Nat.toDigits_ne_nil, Nat.ofDigitChars_ten_toDigits]

/-- Digits only, so no `x` that would make it hexadecimal. -/
theorem leadingNat_toDigits (n : ℕ) : leadingNat (Nat.toDigits 10 n) = some n := by
  have hdigits : ∀ c ∈ Nat.toDigits 10 n, c.isDigit = true := fun c hc => isDigit_of_mem hc
  have hall : (Nat.toDigits 10 n).takeWhile Char.isDigit = Nat.toDigits 10 n :=
    List.takeWhile_eq_self_iff.2 hdigits
  have hread : leadingNat (Nat.toDigits 10 n) =
      ofDigits ((Nat.toDigits 10 n).takeWhile Char.isDigit) := by
    unfold leadingNat
    split
    · rename_i heq
      exact absurd (hdigits 'x' (by simp [heq])) (by decide)
    · rename_i heq
      exact absurd (hdigits 'X' (by simp [heq])) (by decide)
    · rfl
  rw [hread, hall, ofDigits_toDigits]

/-- A number without a sign. -/
theorem signed_toDigits (read : List Char → Option ℕ) (n : ℕ) :
    signed read (Nat.toDigits 10 n) = (read (Nat.toDigits 10 n)).map fun n : ℕ => (n : ℤ) := by
  have hdigits : ∀ c ∈ Nat.toDigits 10 n, c.isDigit = true := fun c hc => isDigit_of_mem hc
  unfold signed
  split
  · rename_i heq
    exact absurd (hdigits '-' (by simp [heq])) (by decide)
  · rename_i heq
    exact absurd (hdigits '+' (by simp [heq])) (by decide)
  · rfl

/-- What a written number looks like. -/
theorem toList_toString (n : ℤ) :
    (∃ m : ℕ, n = m ∧ (toString n).toList = Nat.toDigits 10 m) ∨
      ∃ m : ℕ, n = -(m : ℤ) ∧ (toString n).toList = '-' :: Nat.toDigits 10 m := by
  cases n with
  | ofNat m =>
      refine Or.inl ⟨m, rfl, ?_⟩
      show (toString m).toList = _
      rw [Nat.toString_eq_ofList_toDigits, String.toList_ofList]
  | negSucc m =>
      refine Or.inr ⟨m + 1, rfl, ?_⟩
      show ("-" ++ toString (m + 1)).toList = _
      rw [Nat.toString_eq_ofList_toDigits, String.toList_append, String.toList_ofList]
      simp

/-- What reads the digits of a number reads the number. -/
theorem signed_toString {read : List Char → Option ℕ}
    (hread : ∀ m, read (Nat.toDigits 10 m) = some m) (n : ℤ) :
    signed read (toString n).toList = some n := by
  rcases toList_toString n with ⟨m, rfl, h⟩ | ⟨m, rfl, h⟩
  · rw [h, signed_toDigits, hread, Option.map_some]
  · rw [h]
    show (read (Nat.toDigits 10 m)).map (fun n : ℕ => -(n : ℤ)) = _
    rw [hread, Option.map_some]

/-- No blank is in a written number. -/
theorem isBlank_of_mem_toString {n : ℤ} {c : Char} (hc : c ∈ (toString n).toList) :
    isBlank c = false := by
  rcases toList_toString n with ⟨m, -, h⟩ | ⟨m, -, h⟩ <;> rw [h] at hc
  · exact isBlank_of_isDigit (isDigit_of_mem hc)
  · rcases List.mem_cons.1 hc with rfl | hdigit
    · decide
    · exact isBlank_of_isDigit (isDigit_of_mem hdigit)

theorem toList_toString_ne_nil (n : ℤ) : (toString n).toList ≠ [] := by
  rcases toList_toString n with ⟨m, -, h⟩ | ⟨m, -, h⟩ <;> rw [h]
  · exact Nat.toDigits_ne_nil
  · exact List.cons_ne_nil _ _

/-! ## Round trips -/

theorem dropWhile_isBlank_of_not {cs : List Char} (h : ∀ c ∈ cs, isBlank c = false) :
    cs.dropWhile isBlank = cs := by
  cases cs with
  | nil => rfl
  | cons c cs => rw [List.dropWhile_cons_of_neg (by simp [h c])]

theorem readInt_toString (n : ℤ) : readInt (toString n) = some n := by
  refine signed_toString (fun m => ?_) n
  rw [if_pos (List.all_eq_true.2 fun c hc => isDigit_of_mem hc), ofDigits_toDigits]

theorem parseInt_toString (n : ℤ) : parseInt (toString n) = some n := by
  rw [parseInt, dropWhile_isBlank_of_not fun c hc => isBlank_of_mem_toString hc]
  exact signed_toString leadingNat_toDigits n

/-- A text that starts with a letter and ends with a number has no blanks at its
ends. -/
theorem trim_append_toString {label : String} {c : Char} {cs : List Char}
    (hlabel : label.toList = c :: cs) (hc : isBlank c = false) (n : ℤ) :
    trim (label ++ toString n) = label ++ toString n := by
  have hfront : (label ++ toString n).toList.dropWhile isBlank = (label ++ toString n).toList := by
    rw [String.toList_append, hlabel, List.cons_append, List.dropWhile_cons_of_neg (by simp [hc])]
  have hlast : (label ++ toString n).toList.reverse.dropWhile isBlank =
      (label ++ toString n).toList.reverse := by
    rw [String.toList_append, List.reverse_append, List.dropWhile_append,
      dropWhile_isBlank_of_not fun d hd => isBlank_of_mem_toString (List.mem_reverse.1 hd),
      if_neg (by simpa using toList_toString_ne_nil n)]
  rw [trim, hfront, hlast, List.reverse_reverse, String.ofList_toList]

theorem trim_toString (n : ℤ) : trim (toString n) = toString n := by
  have hnot : ∀ c ∈ (toString n).toList, isBlank c = false := fun c hc => isBlank_of_mem_toString hc
  rw [trim, dropWhile_isBlank_of_not hnot,
    dropWhile_isBlank_of_not fun c hc => hnot c (List.mem_reverse.1 hc), List.reverse_reverse,
    String.ofList_toList]

/-- The word after a label that ends with a blank is the number written there. -/
theorem word_append_toString {label : String} {front : List Char}
    (hlabel : label.toList = front ++ [' ']) (n : ℤ) :
    word (front.splitOn ' ').length (label ++ toString n) = some (toString n) := by
  have hblank : ' ' ∉ (toString n).toList := by
    intro hmem
    exact absurd (isBlank_of_mem_toString hmem) (by decide)
  rw [word, String.toList_append, hlabel, List.append_assoc, List.singleton_append,
    List.splitOn_append_cons_self, List.splitOn_eq_singleton hblank]
  simp

end Numerals

end Lib
