/-
  FlowProcessor.Proofs.Reading.Numbers — HOW NUMBERS MAY BE WRITTEN.

  A number is written as a run of digits in one of two bases.  What a text denotes is told by the
  digits and their places, without reading it.  The reader finds exactly this number; a text that
  denotes none is refused for its form, and one that denotes too large a number for its range.

    • `Base.Digit`     — a character is a digit, in lower or upper case
    • `Base.Spells`    — a run of digits has a value, by their places
    • `Denotes`        — a text denotes a number
    • `flaw`           — what is wrong with the form of a text that denotes none
    • `read_eq_ok_iff`, `read_of_denotes_large`, `read_of_not_denotes`
                       — what reading a text comes to
    • `denotes_repr`   — a number written in decimal is denoted
    • `read_bounded`   — identifiers are read by their numbers
-/
import FlowProcessor.Destinations
import FlowProcessor.Proofs.Numerals
import Mathlib.Data.List.Forall2
import Mathlib.Data.List.Induction
import Mathlib.Data.Nat.Digits.Defs

namespace FlowProcessor

namespace Numeral

/-! ## §1. Digits. -/

/-- A character is a digit of a base, in lower or upper case, and stands for that number. -/
def Base.Digit (b : Base) (c : Char) (d : Nat) : Prop :=
  d < b.radix ∧ (c = d.digitChar ∨ c = d.digitChar.toUpper)

instance (b : Base) (c : Char) (d : Nat) : Decidable (b.Digit c d) :=
  inferInstanceAs (Decidable (_ ∧ _))

/-- What holds of the first characters is shown by looking at them. -/
theorem forall_char_of_lt {P : Char → Prop} {bound : Nat}
    (h : ∀ code < bound, P (Char.ofNat code)) {c : Char} (hc : c.toNat < bound) : P c := by
  have hcode := h c.toNat hc
  rwa [Char.ofNat_toNat] at hcode

/-- Digits are among the first characters. -/
theorem toNat_lt_of_hexDigit? {c : Char} {d : Nat} (h : hexDigit? c = some d) :
    c.toNat < 128 := by
  unfold hexDigit? at h
  split at h
  · rename_i hrange
    have hle : c.toNat ≤ 57 := hrange.2
    omega
  · split at h
    · rename_i hrange
      have hle : c.toNat ≤ 102 := hrange.2
      omega
    · split at h
      · rename_i hrange
        have hle : c.toNat ≤ 70 := hrange.2
        omega
      · cases h

/-- The value of a hexadecimal digit is the number it stands for. -/
theorem hexDigit?_eq_some_iff {c : Char} {d : Nat} :
    hexDigit? c = some d ↔ Base.hexadecimal.Digit c d := by
  constructor
  · intro h
    have hall : ∀ code < 128, ∀ d ∈ hexDigit? (Char.ofNat code),
        Base.hexadecimal.Digit (Char.ofNat code) d := by decide +kernel
    exact forall_char_of_lt (P := fun c => ∀ d ∈ hexDigit? c, Base.hexadecimal.Digit c d) hall
      (toNat_lt_of_hexDigit? h) d h
  · rintro ⟨hd, hc⟩
    have hdigits : ∀ d < 16, hexDigit? d.digitChar = some d
        ∧ hexDigit? d.digitChar.toUpper = some d := by decide
    rcases hc with rfl | rfl
    · exact (hdigits d hd).1
    · exact (hdigits d hd).2

theorem Base.digit?_eq_some_iff {b : Base} {c : Char} {d : Nat} :
    b.digit? c = some d ↔ b.Digit c d := by
  have hradix : b.radix ≤ 16 := by cases b <;> decide
  rw [Base.digit?, Option.filter_eq_some_iff, hexDigit?_eq_some_iff]
  constructor
  · rintro ⟨⟨-, hc⟩, hd⟩
    exact ⟨of_decide_eq_true hd, hc⟩
  · rintro ⟨hd, hc⟩
    exact ⟨⟨Nat.lt_of_lt_of_le hd hradix, hc⟩, decide_eq_true hd⟩

/-! ## §2. Runs of digits. -/

/-- A run of digits has that value: the last digit counts ones, and every other one counts the
radix times as much as the digit after it. -/
def Base.Spells (b : Base) (digits : List Char) (n : Nat) : Prop :=
  ∃ values, List.Forall₂ b.Digit digits.reverse values ∧ Nat.ofDigits b.radix values = n

theorem Base.value_eq_some_iff {b : Base} {digits : List Char} {n : Nat} :
    b.value digits = some n ↔ b.Spells digits n := by
  -- the value grows with each digit at the end
  induction digits using List.reverseRecOn generalizing n with
  | nil =>
      constructor
      · intro h
        exact ⟨[], .nil, Option.some.inj h⟩
      · rintro ⟨values, hvalues, rfl⟩
        cases hvalues
        rfl
  | append_singleton digits c ih =>
      rw [value_concat, Option.bind_eq_some_iff]
      constructor
      · rintro ⟨m, hm, hlast⟩
        obtain ⟨d, hd, rfl⟩ := Option.map_eq_some_iff.mp hlast
        obtain ⟨values, hvalues, rfl⟩ := ih.mp hm
        refine ⟨d :: values, ?_, ?_⟩
        · rw [List.reverse_append]
          exact .cons (digit?_eq_some_iff.mp hd) hvalues
        · rw [Nat.ofDigits_cons, Nat.mul_comm, Nat.add_comm]
      · rintro ⟨values, hvalues, rfl⟩
        rw [List.reverse_append] at hvalues
        obtain ⟨d, rest, hd, hrest, rfl⟩ := List.forall₂_cons_left_iff.mp hvalues
        refine ⟨Nat.ofDigits b.radix rest, ih.mpr ⟨rest, hrest, rfl⟩, ?_⟩
        rw [digit?_eq_some_iff.mpr hd, Nat.ofDigits_cons, Nat.mul_comm, Nat.add_comm]
        rfl

/-! ## §3. What a text denotes. -/

/-- A text denotes a number: decimal digits, or hexadecimal digits after `0x`. -/
inductive Denotes : List Char → Nat → Prop
  | decimal {digits : List Char} {n : Nat} :
      digits ≠ [] → Base.decimal.Spells digits n → Denotes digits n
  | hexadecimal {digits : List Char} {n : Nat} :
      digits ≠ [] → Base.hexadecimal.Spells digits n → Denotes ('0' :: 'x' :: digits) n

/-- A text denotes what the digits after the mark of its base have as their value. -/
theorem denotes_iff {text : List Char} {n : Nat} :
    Denotes text n ↔ (split text).2 ≠ [] ∧ (split text).1.value (split text).2 = some n := by
  constructor
  · rintro (⟨hdigits, hspells⟩ | ⟨hdigits, hspells⟩)
    · rw [← Base.value_eq_some_iff] at hspells
      unfold split
      split
      · -- the mark of the other base is no run of decimal digits
        exact absurd hspells (by simp [Base.value, Base.digit?, hexDigit?, Base.radix])
      · exact ⟨hdigits, hspells⟩
    · exact ⟨hdigits, Base.value_eq_some_iff.mpr hspells⟩
  · unfold split
    split
    · rintro ⟨hdigits, hvalue⟩
      exact .hexadecimal hdigits (Base.value_eq_some_iff.mp hvalue)
    · rintro ⟨hdigits, hvalue⟩
      exact .decimal hdigits (Base.value_eq_some_iff.mp hvalue)

instance (text : List Char) (n : Nat) : Decidable (Denotes text n) :=
  decidable_of_iff _ denotes_iff.symm

/-- A text denotes one number at most. -/
theorem Denotes.unique {text : List Char} {m n : Nat} (hm : Denotes text m)
    (hn : Denotes text n) : m = n :=
  Option.some.inj ((denotes_iff.mp hm).2.symm.trans (denotes_iff.mp hn).2)

/-- A number written in decimal is denoted. -/
theorem denotes_repr (n : Nat) : Denotes n.repr.toList n := by
  rw [Nat.repr_eq_ofList_toDigits, String.toList_ofList]
  exact .decimal Nat.toDigits_ne_nil
    (Base.value_eq_some_iff.mp (Base.value_toDigits .decimal n))

/-- Nothing is denoted by nothing. -/
theorem Denotes.ne_nil {text : List Char} {n : Nat} (h : Denotes text n) : text ≠ [] := by
  rintro rfl
  exact (denotes_iff.mp h).1 rfl

/-- A digit is a character of numbers. -/
theorem Base.Digit.isNumberChar {b : Base} {c : Char} {d : Nat} (h : b.Digit c d) :
    isNumberChar c = true := by
  have hdigit := digit?_eq_some_iff.mpr h
  rw [digit?, Option.filter_eq_some_iff] at hdigit
  unfold FlowProcessor.isNumberChar
  rw [hdigit.1]
  rfl

theorem Base.Spells.isNumberChar {b : Base} {digits : List Char} {n : Nat}
    (h : b.Spells digits n) : ∀ c ∈ digits, isNumberChar c = true := by
  obtain ⟨values, hvalues, -⟩ := h
  have hboth := hvalues.imp fun c d (hd : b.Digit c d) => And.intro hd.isNumberChar hd
  intro c hc
  exact (List.forall₂_and_left _ _).mp hboth |>.1 c (List.mem_reverse.mpr hc)

/-- A text that denotes a number has only the characters of numbers. -/
theorem Denotes.isNumberChar {text : List Char} {n : Nat} (h : Denotes text n) :
    ∀ c ∈ text, isNumberChar c = true := by
  obtain ⟨-, hspells⟩ | ⟨-, hspells⟩ := h
  · exact hspells.isNumberChar
  · exact List.forall_mem_cons.mpr ⟨by decide, List.forall_mem_cons.mpr
      ⟨by decide, hspells.isNumberChar⟩⟩

/-- So no other character is in it, such as a separator. -/
theorem Denotes.not_mem {text : List Char} {n : Nat} {c : Char} (h : Denotes text n)
    (hc : FlowProcessor.isNumberChar c = false) : c ∉ text := by
  intro hmem
  rw [h.isNumberChar c hmem] at hc
  cases hc

/-! ## §4. Reading. -/

/-- What is wrong with the form of a text that denotes no number. -/
def flaw : List Char → Defect
  | [] | ['0', 'x'] => .notANumber
  | '0' :: 'x' :: _ => .notHexadecimal
  | _ => .notDecimal

/-- It is told by the mark of the base and by the digits after it. -/
theorem flaw_eq (text : List Char) :
    flaw text = if (split text).2 = [] then .notANumber else (split text).1.defect := by
  unfold split
  split
  · rename_i digits
    cases digits with
    | nil => rfl
    | cons c cs => rfl
  · rename_i hmark
    unfold flaw
    split
    · rfl
    · exact absurd rfl (hmark [])
    · rename_i digits _
      exact absurd rfl (hmark digits)
    · rename_i hempty _ _
      exact (if_neg hempty).symm

section Reading

variable {text : String} {n : Nat}

/-- A number in the range of words is read. -/
theorem read_of_denotes (h : Denotes text.toList n) (hn : n < UInt32.size) :
    read text = .ok (UInt32.ofNatLT n hn) := by
  obtain ⟨hdigits, hvalue⟩ := denotes_iff.mp h
  unfold read
  simp only [hdigits, hvalue, if_false, dif_pos hn]

/-- A number beyond the range of words is refused for its size. -/
theorem read_of_denotes_large (h : Denotes text.toList n) (hn : UInt32.size ≤ n) :
    read text = .error (.outOfRange .number text) := by
  obtain ⟨hdigits, hvalue⟩ := denotes_iff.mp h
  unfold read
  simp only [hdigits, hvalue, if_false, dif_neg (Nat.not_lt.mpr hn)]

/-- A text that denotes no number is refused for its form. -/
theorem read_of_not_denotes (h : ∀ n, ¬ Denotes text.toList n) :
    read text = .error (.malformed text (flaw text.toList)) := by
  rw [flaw_eq]
  unfold read
  by_cases hdigits : (split text.toList).2 = []
  · simp only [hdigits, if_true]
  · cases hvalue : (split text.toList).1.value (split text.toList).2 with
    | none => simp only [hdigits, hvalue, if_false]
    | some n => exact absurd (denotes_iff.mpr ⟨hdigits, hvalue⟩) (h n)

/-- The word that is read is the number denoted. -/
theorem read_eq_ok_iff {word : UInt32} :
    read text = .ok word ↔ Denotes text.toList word.toNat := by
  constructor
  · intro h
    by_cases hdenotes : ∃ n, Denotes text.toList n
    · obtain ⟨n, hn⟩ := hdenotes
      by_cases hsize : n < UInt32.size
      · rw [read_of_denotes hn hsize] at h
        obtain rfl := Except.ok.inj h
        exact hn
      · rw [read_of_denotes_large hn (Nat.not_lt.mp hsize)] at h
        cases h
    · rw [read_of_not_denotes (not_exists.mp hdenotes)] at h
      cases h
  · intro h
    rw [read_of_denotes h word.toNat_lt]
    rfl

end Reading

end Numeral

/-! ## §5. Identifiers. -/

section Bounded

variable {quantity : Quantity} {n : Nat} {word : UInt32} {text : String}

theorem bounded_of_eq {i : Fin n} (h : word.toNat = i.val) : bounded quantity n word = .ok i := by
  unfold bounded
  rw [dif_pos (h ▸ i.isLt)]
  exact congrArg _ (Fin.ext h)

theorem bounded_of_le (h : n ≤ word.toNat) :
    bounded quantity n word = .error (.outOfRange quantity (Numeral.decimal word)) := by
  unfold bounded
  exact dif_neg (Nat.not_lt.mpr h)

/-- A number in the range of its identifiers is read as the identifier. -/
theorem read_bounded {i : Fin n} (hn : n ≤ UInt32.size) (h : Numeral.Denotes text.toList i) :
    (Numeral.read text >>= bounded quantity n) = .ok i := by
  rw [Numeral.read_of_denotes h (Nat.lt_of_lt_of_le i.isLt hn)]
  exact bounded_of_eq (by rw [UInt32.toNat_ofNatLT])

end Bounded

end FlowProcessor
