/-
  FlowProcessor.Proofs.Numerals — WRITTEN NUMBERS READ BACK.

  A number is written with its digits in a base, the last digit being the remainder and the others
  those of the quotient.  Reading adds them up again in the same order.

    • `Base.value_toDigits` — the digits of a number have its value
    • `Base.value_leftpad`  — zeros in front do not count
    • `head?_toDigits`      — and are not written either
-/
import FlowProcessor.Numeral

namespace FlowProcessor.Numeral

/-! ## §1. Values. -/

theorem Base.one_lt_radix (b : Base) : 1 < b.radix := by
  cases b with
  | decimal => decide
  | hexadecimal => decide

/-- A digit reads as the number it is written for. -/
theorem Base.digit?_digitChar {b : Base} {d : Nat} (h : d < b.radix) :
    b.digit? d.digitChar = some d := by
  have hhex : ∀ d < 16, hexDigit? (Nat.digitChar d) = some d := by decide
  have hlt : d < 16 := by
    cases b with
    | decimal => exact Nat.lt_trans h (by decide)
    | hexadecimal => exact h
  unfold Base.digit?
  rw [hhex d hlt]
  simp [h]

/-- A digit at the end adds itself to the others, which move up one place. -/
theorem Base.value_concat (b : Base) (digits : List Char) (c : Char) :
    b.value (digits ++ [c])
      = (b.value digits).bind fun n => (b.digit? c).map (n * b.radix + ·) := by
  unfold Base.value
  rw [List.foldlM_append]
  cases List.foldlM (fun n c => (b.digit? c).map (n * b.radix + ·)) 0 digits with
  | none => rfl
  | some n => simp

theorem Base.value_digitChar {b : Base} {d : Nat} (h : d < b.radix) :
    b.value [d.digitChar] = some d := by
  have hconcat := b.value_concat [] d.digitChar
  rw [digit?_digitChar h] at hconcat
  simpa [Base.value] using hconcat

/-- The digits of a number have its value. -/
theorem Base.value_toDigits (b : Base) (n : Nat) : b.value (Nat.toDigits b.radix n) = some n := by
  -- all digits but the last are those of the quotient
  induction n using Nat.strongRecOn with
  | ind n ih =>
      rw [Nat.toDigits_eq_if b.one_lt_radix]
      split
      · rename_i hlt
        exact value_digitChar hlt
      · rename_i hge
        have hquotient : n / b.radix < n :=
          Nat.div_lt_self (by have := b.one_lt_radix; omega) b.one_lt_radix
        have hlast : n % b.radix < b.radix := Nat.mod_lt _ (by have := b.one_lt_radix; omega)
        rw [value_concat, ih _ hquotient, digit?_digitChar hlast]
        simp [Nat.div_add_mod']

/-- Zeros in front do not count. -/
theorem Base.value_leftpad (b : Base) (width : Nat) (digits : List Char) :
    b.value (digits.leftpad width '0') = b.value digits := by
  have hzero : ∀ k, b.value (List.replicate k '0' ++ digits) = b.value digits := by
    intro k
    have hdigit : b.digit? '0' = some 0 := by
      cases b with
      | decimal => decide
      | hexadecimal => decide
    induction k with
    | zero => rfl
    | succ k ih =>
        rw [← ih, List.replicate_succ]
        unfold Base.value
        simp [hdigit]
  exact hzero _

/-! ## §2. Decimal digits. -/

theorem isDigit_of_mem_toDigits {n : Nat} {c : Char} (h : c ∈ Nat.toDigits 10 n) :
    c.isDigit = true :=
  Nat.isDigit_of_mem_toDigits (by decide) (by decide) h

/-- A digit is no other character. -/
theorem ne_of_isDigit {c d : Char} (hc : c.isDigit = true) (hd : d.isDigit = false) : c ≠ d := by
  rintro rfl
  rw [hd] at hc
  cases hc

/-- Only the number zero is written with a zero in front. -/
theorem head?_toDigits {n : Nat} (h : (Nat.toDigits 10 n).head? = some '0') : n = 0 := by
  induction n using Nat.strongRecOn with
  | ind n ih =>
      rw [Nat.toDigits_eq_if (by decide)] at h
      split at h
      · rename_i hlt
        have hdigit : ∀ d < 10, Nat.digitChar d = '0' → d = 0 := by decide
        exact hdigit n hlt (by simpa using h)
      · rename_i hge
        -- the first digit is that of the quotient, which is not zero here
        cases hdigits : Nat.toDigits 10 (n / 10) with
        | nil => exact absurd hdigits Nat.toDigits_ne_nil
        | cons c cs =>
            rw [hdigits] at h
            have hquotient : n / 10 = 0 := ih _ (by omega) (by rw [hdigits]; exact h)
            omega

end FlowProcessor.Numeral
