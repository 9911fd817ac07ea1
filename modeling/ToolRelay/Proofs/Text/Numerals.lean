import Mathlib.Data.Nat.Digits.Defs
import ToolRelay.Decimal.Shortest
import ToolRelay.Proofs.Text.Trimmed

/-!
# Words and numerals

A word of characters of one class is cut off where a character of another class follows. Decimal
digits read back as the number they were written for, and hexadecimal digits of both cases as their
value. A decimal numeral has no zero in front.

## Main results

* `Text.takeWhile_word`, `Text.dropWhile_word`: a word is cut off.
* `Text.natOfDigits_digitChars`, `Text.hexValue?_hexDigit`: digits are read as they were written.
* `Text.readUInt64?_digitChars`: the numeral of a word is read as that word.
* `Text.head?_digitChars`: only zero starts with a zero.
-/

namespace ToolRelay.Text

open Decimal (digitChars)

/-! ## Words -/

section Words

variable {p : Char → Bool} {word rest : List Char}

/-- A character of a class is none outside it. -/
theorem ne_of_class {c x : Char} (hc : p c = true) (hx : p x = false) : c ≠ x :=
  ne_of_apply_ne p (by rw [hc, hx]; decide)

theorem takeWhile_word (hword : ∀ c ∈ word, p c = true) (hrest : ∀ c ∈ rest.head?, p c = false) :
    (word ++ rest).takeWhile p = word := by
  rw [List.takeWhile_append_of_pos hword]
  cases rest with
  | nil => simp
  | cons c rest => rw [List.takeWhile_cons_of_neg (by simp [hrest c rfl]), List.append_nil]

theorem dropWhile_word (hword : ∀ c ∈ word, p c = true) (hrest : ∀ c ∈ rest.head?, p c = false) :
    (word ++ rest).dropWhile p = rest := by
  rw [List.dropWhile_append_of_pos hword]
  cases rest with
  | nil => rfl
  | cons c rest => rw [List.dropWhile_cons_of_neg (by simp [hrest c rfl])]

end Words

/-! ## Numerals -/

theorem isDigit_of_mem_digitChars {n : Nat} {c : Char} (h : c ∈ digitChars n) :
    isDigit c = true := by
  have hdigit : c.isDigit = true := Nat.isDigit_of_mem_toDigits (b := 10) (by decide) (by decide) h
  simpa [isDigit, Char.isDigit, Char.le_def, and_comm] using hdigit

theorem digitChars_ne_nil (n : Nat) : digitChars n ≠ [] := Nat.toDigits_ne_nil

/-- A numeral starts with a digit. -/
theorem digitChars_eq_cons (n : Nat) : ∃ d ds, digitChars n = d :: ds ∧ isDigit d = true := by
  obtain ⟨d, ds, hds⟩ := List.exists_cons_of_ne_nil (digitChars_ne_nil n)
  exact ⟨d, ds, hds, isDigit_of_mem_digitChars (n := n) (by rw [hds]; exact List.mem_cons_self)⟩

theorem natOfDigits_digitChars (n : Nat) : natOfDigits (digitChars n) = n := by
  have h : Nat.ofDigitChars 10 (digitChars n) 0 = n := Nat.ofDigitChars_ten_toDigits
  rw [Nat.ofDigitChars_eq_foldl] at h
  exact h

/-- A numeral starts with a zero only if it is the numeral of zero. -/
theorem head?_digitChars {n : Nat} (h : (digitChars n).head? = some '0') :
    digitChars n = ['0'] := by
  induction n using Nat.strongRecOn with
  | _ n ih =>
    rw [digitChars, Nat.toDigits_eq_if (by decide)] at h ⊢
    by_cases hn : n < 10
    · -- one digit, which is the digit of zero
      rw [if_pos hn] at h ⊢
      exact congrArg (· :: []) (Option.some.inj h)
    · rw [if_neg hn] at h
      change (digitChars (n / 10) ++ [(n % 10).digitChar]).head? = some '0' at h
      rw [List.head?_append, Option.or_of_isSome (List.isSome_head?.2 (digitChars_ne_nil _))] at h
      have hzero := ih (n / 10) (by omega) h
      have hten : n / 10 = 0 := by rw [← natOfDigits_digitChars (n / 10), hzero]; rfl
      omega

/-- The numeral of a word is read as that word. -/
theorem readUInt64?_digitChars (n : UInt64) : readUInt64? (digitChars n.toNat) = some n := by
  obtain ⟨d, ds, hds, hd⟩ := digitChars_eq_cons n.toNat
  have hplus (rest : List Char) : d :: ds ≠ '+' :: rest := fun h =>
    ne_of_class hd rfl (List.head_eq_of_cons_eq h)
  have hall : (digitChars n.toNat).all isDigit = true :=
    List.all_eq_true.2 fun c hc => isDigit_of_mem_digitChars hc
  have hvalue := natOfDigits_digitChars n.toNat
  have hlt : n.toNat < UInt64.size := n.toNat_lt
  rw [hds] at hall hvalue ⊢
  unfold readUInt64?
  split
  · next rest h => exact absurd h (hplus rest)
  · simp [hall, hvalue, hlt]

theorem isBlank_of_isDigit {c : Char} (h : isDigit c = true) : isBlank c = false := by
  simp only [isDigit, Bool.and_eq_true, decide_eq_true_eq, Char.le_def,
    UInt32.le_iff_toNat_le] at h
  obtain ⟨hlow, hhigh⟩ := h
  change 48 ≤ c.toNat at hlow
  change c.toNat ≤ 57 at hhigh
  simp [isBlank]
  omega

/-- Nothing of a numeral is trimmed. -/
theorem trimChars_digitChars (n : Nat) : trimChars (digitChars n) = digitChars n := by
  have hall : ∀ c ∈ digitChars n, isBlank c = false := fun c hc =>
    isBlank_of_isDigit (isDigit_of_mem_digitChars hc)
  have hback : trimEnd (digitChars n) = digitChars n := by
    rcases List.eq_nil_or_concat' (digitChars n) with hnil | ⟨front, last, hcs⟩
    · exact absurd hnil (digitChars_ne_nil n)
    · have hlast : isBlank last = false := hall last (by simp [hcs])
      rw [hcs]
      exact trimEnd_append_cons hlast front []
  rw [trimChars, trimStart_of_head fun c hc => hall c (List.mem_of_mem_head? hc), hback]

theorem hexValue?_hexDigit {n : Nat} (h : n < 16) : hexValue? (hexDigit n) = some n := by
  have hall : ∀ k : Fin 16, hexValue? (hexDigit k) = some k.val := by decide
  exact hall ⟨n, h⟩

theorem hexValue?_toUpper_hexDigit {n : Nat} (h : n < 16) :
    hexValue? (hexDigit n).toUpper = some n := by
  have hall : ∀ k : Fin 16, hexValue? (hexDigit k).toUpper = some k.val := by decide
  exact hall ⟨n, h⟩

end ToolRelay.Text
