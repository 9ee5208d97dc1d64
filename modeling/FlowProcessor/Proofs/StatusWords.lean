/-
  FlowProcessor.Proofs.StatusWords — STATUS WORDS AND ERRORS STAND FOR EACH OTHER.

  The word of an error has its status code as the high half and its subcode as the low half.  Read
  back, the word has lost which kind of error it was, but neither status nor subcode.  A word in
  turn survives being read if its code is a defined one; all other codes become a general failure.
  Success is no error, so that the subcode of a success is lost.

    • `StatusCode.ofCode_code`, `StatusCode.code_ofCode` — codes and statuses
    • `PlatformError.toNat_word`                         — the halves of the word of an error
    • `PlatformError.ofWord_word`                        — an error, written and read
    • `PlatformError.word_of_ofWord`                     — a word, read and written
    • `status_words_round_trip`                          — all of this, and reading twice
-/
import FlowProcessor.Status

namespace FlowProcessor

/-! ## §1. Codes. -/

namespace StatusCode

variable {code : UInt16}

/-- The status of its own code. -/
theorem ofCode_code (status : StatusCode) : ofCode status.code = status := by
  cases status <;> rfl

theorem code_le (status : StatusCode) : status.code.toNat ≤ 13 := by
  cases status <;> decide

/-- The codes up to 13 are defined. -/
theorem code_ofCode (h : code.toNat ≤ 13) : (ofCode code).code = code := by
  have hall : ∀ n < 14, (ofCode (UInt16.ofNat n)).code = UInt16.ofNat n := by decide
  have hcode := hall code.toNat (Nat.lt_succ_of_le h)
  rwa [UInt16.ofNat_toNat] at hcode

/-- No others are. -/
theorem ofCode_of_undefined (h : 13 < code.toNat) : ofCode code = .failure := by
  unfold ofCode
  split
  case h_14 => rfl
  all_goals omega

theorem ofCode_eq_success_iff : ofCode code = .success ↔ code.toNat = 0 := by
  constructor
  · intro hsuccess
    by_cases hdefined : code.toNat ≤ 13
    · have hcode := code_ofCode hdefined
      rw [hsuccess] at hcode
      rw [← hcode]
      rfl
    · rw [ofCode_of_undefined (Nat.not_le.mp hdefined)] at hsuccess
      cases hsuccess
  · intro hzero
    obtain rfl : code = 0 := UInt16.toNat_inj.mp hzero
    rfl

end StatusCode

/-! ## §2. Words. -/

namespace PlatformError

open StatusCode (ofCode)

variable {word : UInt32} {e : PlatformError}

/-- The code of a word is its high half. -/
theorem toNat_high (word : UInt32) : (word >>> 16).toUInt16.toNat = word.toNat / 65536 := by
  have hlt : word.toNat / 65536 < 2 ^ 16 := by
    have := word.toNat_lt
    omega
  rw [UInt32.toNat_toUInt16, UInt32.toNat_shiftRight, Nat.shiftRight_eq_div_pow]
  exact Nat.mod_eq_of_lt hlt

/-- The word of an error has its code and its subcode for halves. -/
theorem toNat_word (e : PlatformError) :
    e.word.toNat = 65536 * e.statusCode.code.toNat + e.subcode.toNat := by
  have hcode := e.statusCode.code_le
  have hsubcode : e.subcode.toNat < 2 ^ 16 := e.subcode.toNat_lt
  have hshift : (e.statusCode.code.toUInt32 <<< 16).toNat = e.statusCode.code.toNat <<< 16 := by
    rw [UInt32.toNat_shiftLeft, UInt16.toNat_toUInt32]
    refine Nat.mod_eq_of_lt ?_
    rw [Nat.shiftLeft_eq]
    show e.statusCode.code.toNat * 65536 < 4294967296
    omega
  unfold word
  rw [UInt32.toNat_or, hshift, UInt16.toNat_toUInt32, ← Nat.shiftLeft_add_eq_or_of_lt hsubcode,
    Nat.shiftLeft_eq, Nat.mul_comm]

/-- An error is told from its word by the halves. -/
theorem ofWord_eq (word : UInt32) :
    ofWord word = if word.toNat / 65536 = 0 then none
      else some (.reported (ofCode (word >>> 16).toUInt16) word.toUInt16) := by
  have hsuccess : ofCode (word >>> 16).toUInt16 = .success ↔ word.toNat / 65536 = 0 := by
    rw [StatusCode.ofCode_eq_success_iff, toNat_high]
  unfold ofWord
  split
  · rename_i h
    rw [if_pos (hsuccess.mp h)]
  · rename_i h
    rw [if_neg fun hzero => h (hsuccess.mpr hzero)]

theorem ofWord_eq_none_iff : ofWord word = none ↔ word.toNat / 65536 = 0 := by
  rw [ofWord_eq]
  split <;> simp_all

/-- The halves of the word of an error are taken apart again. -/
theorem halves_word (e : PlatformError) :
    (e.word >>> 16).toUInt16 = e.statusCode.code ∧ e.word.toUInt16 = e.subcode := by
  have hword := e.toNat_word
  have hsubcode : e.subcode.toNat < 65536 := e.subcode.toNat_lt
  constructor
  · refine UInt16.toNat_inj.mp ?_
    rw [toNat_high]
    omega
  · refine UInt16.toNat_inj.mp ?_
    rw [UInt32.toNat_toUInt16]
    omega

/-- **An error read back from its word keeps its status and its subcode; a success is none.** -/
theorem ofWord_word (e : PlatformError) :
    ofWord e.word
      = if e.statusCode = .success then none else some (.reported e.statusCode e.subcode) := by
  obtain ⟨hhigh, hlow⟩ := e.halves_word
  unfold ofWord
  rw [hhigh, hlow, StatusCode.ofCode_code]
  split <;> simp_all

/-- What a word is read as has its code, or that of a general failure if this is not defined, and
its subcode. -/
theorem word_of_ofWord (h : ofWord word = some e) :
    e.subcode.toNat = word.toNat % 65536
      ∧ e.word = if word.toNat / 65536 ≤ 13 then word
        else UInt32.ofNat (0x10000 + word.toNat % 65536) := by
  rw [ofWord_eq] at h
  split at h
  · cases h
  · obtain rfl := Option.some.inj h
    have hlow : word.toUInt16.toNat = word.toNat % 65536 := UInt32.toNat_toUInt16 word
    refine ⟨hlow, UInt32.toNat_inj.mp ?_⟩
    rw [toNat_word]
    show 65536 * (ofCode (word >>> 16).toUInt16).code.toNat + word.toUInt16.toNat = _
    rw [hlow]
    split
    · rename_i hdefined
      rw [StatusCode.code_ofCode (by rwa [toNat_high]), toNat_high]
      exact Nat.div_add_mod ..
    · rename_i hundefined
      rw [StatusCode.ofCode_of_undefined (by rw [toNat_high]; omega), UInt32.toNat_ofNat']
      show 65536 * 1 + word.toNat % 65536 = (65536 + word.toNat % 65536) % 4294967296
      omega

/-- Reading what was read again changes nothing. -/
theorem ofWord_ofWord (word : UInt32) :
    (ofWord word).bind (fun e => ofWord e.word) = ofWord word := by
  rw [ofWord_eq]
  split
  · rfl
  · rename_i hhigh
    have hstatus : ofCode (word >>> 16).toUInt16 ≠ .success := by
      rw [Ne, StatusCode.ofCode_eq_success_iff, toNat_high]
      exact hhigh
    rw [Option.bind_some, ofWord_word]
    exact if_neg hstatus

end PlatformError

/-- **Of an error, what is read from its word is nothing if it stands for success, and else the
same status with the same subcode.  Of a word, nothing is read exactly if its high half is zero;
otherwise what is read keeps the low half as its subcode, and is written as the same word if the
code is one of those defined, and with the code of a general failure if it is not.  Reading a word
is therefore the same as reading, writing and reading it.** -/
theorem status_words_round_trip (e : PlatformError) (word : UInt32) :
    (PlatformError.ofWord e.word = none ↔ e.statusCode = .success)
      ∧ (e.statusCode ≠ .success →
        PlatformError.ofWord e.word = some (.reported e.statusCode e.subcode))
      ∧ (PlatformError.ofWord word = none ↔ word.toNat / 65536 = 0)
      ∧ (∀ read, PlatformError.ofWord word = some read →
        read.subcode.toNat = word.toNat % 65536
          ∧ (word.toNat / 65536 ≤ 13 → read.word = word)
          ∧ (13 < word.toNat / 65536 → read.word.toNat = 0x00010000 + word.toNat % 65536))
      ∧ (PlatformError.ofWord word).bind (fun read => PlatformError.ofWord read.word)
        = PlatformError.ofWord word := by
  refine ⟨?none, ?some, PlatformError.ofWord_eq_none_iff, fun read hread => ?words,
    PlatformError.ofWord_ofWord word⟩
  case none =>
    rw [PlatformError.ofWord_word]
    split <;> simp_all
  case some =>
    intro hstatus
    rw [PlatformError.ofWord_word, if_neg hstatus]
  case words =>
    obtain ⟨hsubcode, hword⟩ := PlatformError.word_of_ofWord hread
    refine ⟨hsubcode, fun hdefined => ?_, fun hundefined => ?_⟩
    · rw [hword, if_pos hdefined]
    · rw [hword, if_neg (Nat.not_le.mpr hundefined), UInt32.toNat_ofNat']
      show (65536 + word.toNat % 65536) % 4294967296 = 65536 + word.toNat % 65536
      omega

/-- A missing device has the word of its status, although it is not read back as such; the code
0xFFFF is not defined, so that its word becomes that of a general failure with the same subcode. -/
theorem status_words_round_trip_of_undefined :
    PlatformError.ofWord (PlatformError.noDevice 2).word = some (.reported .noDevice 0)
      ∧ PlatformError.ofWord 0xFFFF0007 = some (.reported .failure 7)
      ∧ (PlatformError.reported .failure 7).word.toNat = 0x00010007 := by
  have hread : PlatformError.ofWord 0xFFFF0007 = some (.reported .failure 7) := by decide
  obtain ⟨-, hwritten, -, hwords, -⟩ := status_words_round_trip (.noDevice 2) 0xFFFF0007
  exact ⟨hwritten (by decide), hread, (hwords _ hread).2.2 (by decide)⟩

end FlowProcessor
