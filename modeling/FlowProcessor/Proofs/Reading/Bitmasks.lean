/-
  FlowProcessor.Proofs.Reading.Bitmasks — WHICH NUMBERS AND BITMASKS ARE READ.

  A number is read exactly if the text denotes one that fits in a word, and it is the number
  denoted.  A text that denotes a larger one is refused for its size, and every other text for its
  form.  A bitmask is looked through for characters of no number before it is read as one.  Such a
  character denotes nothing anyway, so that looking for it changes what is said of the text, but
  neither which texts are read nor what kind of refusal the others meet.

    • `InputError.kind`        — form or size
    • `NumberFault`            — why a number is refused
    • `BitmaskFault`           — why a bitmask is refused
    • `readBitmask_alike`      — a bitmask fares as the number does
    • `numbers_read_exactly`   — what both readers come to, for every text
-/
import FlowProcessor.Proofs.Reading.Lists

namespace FlowProcessor

open Numeral (Denotes flaw)

/-! ## §1. Refusals. -/

/-- The kinds of input errors. -/
inductive InputErrorKind
  | malformed
  | outOfRange
  deriving DecidableEq, Repr

/-- Whether the form of a text is at fault, or the size of its number. -/
def InputError.kind : InputError → InputErrorKind
  | .malformed _ _ => .malformed
  | .outOfRange _ _ => .outOfRange

/-- Why a number is refused. -/
inductive NumberFault (text : String) : InputError → Prop
  /-- The text denotes no number. -/
  | malformed : (∀ n, ¬ Denotes text.toList n) →
      NumberFault text (.malformed text (flaw text.toList))
  /-- The number does not fit in a word. -/
  | tooLarge {n : Nat} : Denotes text.toList n → 2 ^ 32 ≤ n →
      NumberFault text (.outOfRange .number text)

/-- The characters of numbers. -/
def numberAlphabet : String := "0123456789abcdefABCDEFx"

/-- Why a bitmask is refused. -/
inductive BitmaskFault (text : String) : InputError → Prop
  /-- A character occurs in no number, wherever it stands. -/
  | foreign {c : Char} : c ∈ text.toList → c ∉ numberAlphabet.toList →
      BitmaskFault text (.malformed text .foreignCharacter)
  /-- All characters occur in numbers, and the text is refused as a number. -/
  | number {error : InputError} : (∀ c ∈ text.toList, c ∈ numberAlphabet.toList) →
      NumberFault text error → BitmaskFault text error

/-! ## §2. Characters. -/

/-- The separator is the one character of lists that occurs in no number. -/
theorem isNumberChar_iff {c : Char} : isNumberChar c = true ↔ c ∈ numberAlphabet.toList := by
  have halphabet : listAlphabet.toList = numberAlphabet.toList ++ [','] := by decide
  have hnumber : isNumberChar c = true ↔ isListChar c = true ∧ c ≠ ',' := by
    unfold isListChar
    rw [Bool.or_eq_true, beq_iff_eq]
    constructor
    · intro h
      refine ⟨.inl h, ?_⟩
      rintro rfl
      cases h
    · rintro ⟨h | rfl, hne⟩
      · exact h
      · exact absurd rfl hne
  rw [hnumber, isListChar_iff, halphabet, List.mem_append, List.mem_singleton]
  constructor
  · rintro ⟨h | rfl, hne⟩
    · exact h
    · exact absurd rfl hne
  · intro h
    refine ⟨.inl h, ?_⟩
    rintro rfl
    exact absurd h (by decide)

/-- A text with a character of no number denotes none. -/
theorem not_denotes_of_foreign {text : List Char} {c : Char} (hc : c ∈ text)
    (hforeign : c ∉ numberAlphabet.toList) (n : Nat) : ¬ Denotes text n :=
  fun h => hforeign (isNumberChar_iff.mp (h.isNumberChar c hc))

/-! ## §3. Numbers. -/

section Numbers

variable {text : String} {error : InputError}

theorem read_of_fault (h : NumberFault text error) : Numeral.read text = .error error := by
  cases h with
  | malformed hno => exact Numeral.read_of_not_denotes hno
  | tooLarge hn hlarge => exact Numeral.read_of_denotes_large hn hlarge

/-- A text denotes a word, or there is something wrong with it. -/
theorem word_or_fault (text : String) :
    (∃ word : UInt32, Denotes text.toList word.toNat) ∨ ∃ error, NumberFault text error := by
  by_cases hdenotes : ∃ n, Denotes text.toList n
  · obtain ⟨n, hn⟩ := hdenotes
    by_cases hsmall : n < 2 ^ 32
    · refine .inl ⟨UInt32.ofNatLT n hsmall, ?_⟩
      rwa [UInt32.toNat_ofNatLT]
    · exact .inr ⟨_, .tooLarge hn (Nat.not_lt.mp hsmall)⟩
  · exact .inr ⟨_, .malformed (not_exists.mp hdenotes)⟩

/-- What a number is read as, and why it is refused. -/
theorem read_exactly (text : String) :
    (∀ word, Numeral.read text = .ok word ↔ Denotes text.toList word.toNat)
      ∧ ∀ error, Numeral.read text = .error error ↔ NumberFault text error :=
  exactly_of_cases (fun _ => Numeral.read_eq_ok_iff.mpr) (fun _ => read_of_fault)
    (word_or_fault text)

end Numbers

/-! ## §4. Bitmasks. -/

namespace DestSet

variable {text : String}

theorem readBitmask_of_foreign {c : Char} (hc : c ∈ text.toList)
    (hforeign : c ∉ numberAlphabet.toList) :
    readBitmask text = .error (.malformed text .foreignCharacter) := by
  unfold readBitmask
  refine if_neg fun hall => hforeign ?_
  exact isNumberChar_iff.mp (List.all_eq_true.mp hall c hc)

theorem readBitmask_of_chars (hchars : ∀ c ∈ text.toList, c ∈ numberAlphabet.toList) :
    readBitmask text = (Numeral.read text).map IdSet.mk := by
  unfold readBitmask
  exact if_pos (List.all_eq_true.mpr fun c hc => isNumberChar_iff.mpr (hchars c hc))

/-- What is read as a number is read as a bitmask. -/
theorem readBitmask_of_read {dests : DestSet} (h : Numeral.read text = .ok dests.bits) :
    readBitmask text = .ok dests := by
  have hdenotes := Numeral.read_eq_ok_iff.mp h
  rw [readBitmask_of_chars fun c hc => isNumberChar_iff.mp (hdenotes.isNumberChar c hc), h]
  rfl

theorem readBitmask_of_fault {error : InputError} (h : BitmaskFault text error) :
    readBitmask text = .error error := by
  cases h with
  | foreign hc hforeign => exact readBitmask_of_foreign hc hforeign
  | number hchars hfault =>
      rw [readBitmask_of_chars hchars, read_of_fault hfault]
      rfl

/-- A text is read as a number, or there is something wrong with it as a bitmask. -/
theorem read_or_fault (text : String) :
    (∃ dests : DestSet, Numeral.read text = .ok dests.bits)
      ∨ ∃ error, BitmaskFault text error := by
  by_cases hchars : ∀ c ∈ text.toList, c ∈ numberAlphabet.toList
  · rcases word_or_fault text with ⟨word, hword⟩ | ⟨error, hfault⟩
    · exact .inl ⟨⟨word⟩, Numeral.read_eq_ok_iff.mpr hword⟩
    · exact .inr ⟨error, .number hchars hfault⟩
  · simp only [not_forall] at hchars
    obtain ⟨c, hc, hforeign⟩ := hchars
    exact .inr ⟨_, .foreign hc hforeign⟩

/-- What a bitmask is read as, and why it is refused. -/
theorem readBitmask_exactly (text : String) :
    (∀ dests, readBitmask text = .ok dests ↔ Numeral.read text = .ok dests.bits)
      ∧ ∀ error, readBitmask text = .error error ↔ BitmaskFault text error :=
  exactly_of_cases (fun _ => readBitmask_of_read) (fun _ => readBitmask_of_fault)
    (read_or_fault text)

/-- **Looking for characters of no number first makes no difference to the decision.** -/
theorem readBitmask_alike (text : String) :
    (readBitmask text).mapError InputError.kind
      = ((Numeral.read text).map IdSet.mk).mapError InputError.kind := by
  rcases read_or_fault text with ⟨dests, hread⟩ | ⟨error, hfault⟩
  · rw [readBitmask_of_read hread, hread]
    rfl
  · rw [readBitmask_of_fault hfault]
    cases hfault with
    | foreign hc hforeign =>
        -- the number is refused for its form as well
        rw [Numeral.read_of_not_denotes (not_denotes_of_foreign hc hforeign)]
        rfl
    | number hchars hfault =>
        rw [read_of_fault hfault]
        rfl

end DestSet

/-- **A text is read as the number that it denotes, if this fits in a word; it is refused for its
size if it denotes a larger one, and for its form if it denotes none.  As a bitmask it is read
exactly if it is as a number, with the bits of the number for flags, and else refused for the same
kind of reason, with the character named that occurs in no number if there is one.** -/
theorem numbers_read_exactly (text : String) :
    (∀ n, (Numeral.read text).map UInt32.toNat = .ok n
        ↔ Denotes text.toList n ∧ n ≤ 4294967295)
      ∧ (∀ error, Numeral.read text = .error error ↔ NumberFault text error)
      ∧ (∀ dests, DestSet.readBitmask text = .ok dests ↔ Numeral.read text = .ok dests.bits)
      ∧ (∀ error, DestSet.readBitmask text = .error error ↔ BitmaskFault text error)
      ∧ (DestSet.readBitmask text).mapError InputError.kind
        = ((Numeral.read text).map IdSet.mk).mapError InputError.kind := by
  obtain ⟨hread, hrefused⟩ := DestSet.readBitmask_exactly text
  refine ⟨fun n => ⟨fun h => ?_, fun ⟨hdenotes, hn⟩ => ?_⟩, (read_exactly text).2, hread,
    hrefused, DestSet.readBitmask_alike text⟩
  · cases hnumber : Numeral.read text with
    | error error => rw [hnumber] at h; cases h
    | ok word =>
        rw [hnumber] at h
        obtain rfl := Except.ok.inj h
        exact ⟨Numeral.read_eq_ok_iff.mp hnumber, Nat.le_of_lt_succ word.toNat_lt⟩
  · rw [Numeral.read_of_denotes hdenotes (Nat.lt_succ_of_le hn)]
    exact congrArg Except.ok (UInt32.toNat_ofNatLT ..)

example : DestSet.readBitmask "0x00Ff" = .ok ⟨255⟩ := by decide +kernel

-- the mark of the base is written with a lower case letter
example : Numeral.read "0X3f" = .error (.malformed "0X3f" .notDecimal) := by decide +kernel

end FlowProcessor
