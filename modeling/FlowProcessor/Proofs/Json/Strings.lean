/-
  FlowProcessor.Proofs.Json.Strings — A TEXT READS BACK FROM ITS STRING.

  A piece of a string is proper if it can stand between quotes: a character that needs no escape, a
  known short escape, or a code unit of at most four digits.  Proper pieces are scanned one by one
  as they were written, and a text is written with proper pieces that denote it.

    • `Piece.scan_pieces`    — proper pieces are scanned as they were written
    • `Piece.decode_encode`  — what is written for a text denotes it
    • `Piece.proper_ofChar`  — and it is proper
-/
import FlowProcessor.Json.Text
import FlowProcessor.Proofs.Numerals

namespace FlowProcessor.Json.Piece

/-! ## §1. Scanning. -/

/-- A piece that can stand between quotes. -/
def Proper : Piece → Prop
  | .plain c => c ≠ '"' ∧ c ≠ '\\' ∧ ¬ c < ' '
  | .short letter => (shortValue? letter).isSome
  | .unit value => value < 0x10000

/-- The digits of a code unit are four, and they have its value. -/
theorem chars_unit {value : Nat} (h : value < 0x10000) :
    ∃ a b c d, (Piece.unit value).chars = ['\\', 'u', a, b, c, d]
      ∧ unitValue? a b c d = some value := by
  obtain ⟨digits, hdigits⟩ : ∃ digits, (Numeral.hexDigits value).leftpad 4 '0' = digits := ⟨_, rfl⟩
  have hvalue : Numeral.Base.hexadecimal.value digits = some value := by
    rw [← hdigits, Numeral.Base.value_leftpad]
    exact Numeral.Base.value_toDigits .hexadecimal value
  have hlength : digits.length = 4 := by
    have hfit : (Numeral.hexDigits value).length ≤ 4 :=
      (Nat.length_toDigits_le_iff (by decide) (by decide)).mpr h
    rw [← hdigits, List.length_leftpad]
    exact Nat.max_eq_left hfit
  match digits, hlength with
  | [a, b, c, d], _ => exact ⟨a, b, c, d, by rw [chars, hdigits], hvalue⟩

/-- A proper piece is scanned as it was written. -/
theorem scan_cons {p : Piece} (h : p.Proper) (cs : List Char) :
    scan (p.chars ++ cs) = (scan cs).map fun (pieces, rest) => (p :: pieces, rest) := by
  cases p with
  | plain c =>
      obtain ⟨hquote, hbackslash, hcontrol⟩ := h
      show scan (c :: cs) = _
      rw [scan.eq_5 c cs hquote (fun _ _ _ _ _ hc _ => hbackslash hc)
        (fun _ _ hc _ => hbackslash hc), if_neg hcontrol]
      cases scan cs with
      | none => rfl
      | some result => rfl
  | short letter =>
      obtain ⟨c, hc⟩ := Option.isSome_iff_exists.mp h
      have hletter : letter ≠ 'u' := by
        rintro rfl
        cases hc
      show scan ('\\' :: letter :: cs) = _
      rw [scan.eq_4 letter cs (fun _ _ _ _ _ hu _ => hletter hu), hc]
      cases scan cs with
      | none => rfl
      | some result => rfl
  | unit value =>
      obtain ⟨a, b, c, d, hchars, hvalue⟩ := chars_unit h
      rw [hchars]
      show scan ('\\' :: 'u' :: a :: b :: c :: d :: cs) = _
      rw [scan, hvalue]
      cases scan cs with
      | none => rfl
      | some result => rfl

/-- Proper pieces are scanned as they were written, up to the closing quote. -/
theorem scan_pieces {pieces : List Piece} (h : ∀ p ∈ pieces, p.Proper) (rest : List Char) :
    scan (pieces.flatMap chars ++ '"' :: rest) = some (pieces, rest) := by
  induction pieces with
  | nil => rfl
  | cons p pieces ih =>
      obtain ⟨hp, hpieces⟩ := List.forall_mem_cons.mp h
      rw [List.flatMap_cons, List.append_assoc, scan_cons hp, ih hpieces]
      rfl

/-! ## §2. Texts. -/

/-- A code unit below the surrogates stands for itself, whatever follows. -/
theorem decode_unit_cons {u : Nat} (h : u < 0xD800) (pieces : List Piece) :
    decode (.unit u :: pieces) = (decode pieces).map (Char.ofNat u :: ·) := by
  have hhigh : isHigh u = false := by simp [isHigh]; omega
  have hlow : isLow u = false := by simp [isLow]; omega
  cases pieces with
  | nil => simp [decode, hhigh, hlow]
  | cons p pieces =>
      cases p with
      | unit low => simp [decode, hhigh, hlow]
      | plain c | short letter => simp [decode, hhigh, hlow]

/-- How a character is written: with a short escape of its own, as a code unit below the blank, or
as it is. -/
theorem ofChar_cases (c : Char) :
    (∃ letter, ofChar c = .short letter ∧ shortValue? letter = some c)
      ∨ (ofChar c = .unit c.toNat ∧ c.toNat < 32)
      ∨ (ofChar c = .plain c ∧ c ≠ '"' ∧ c ≠ '\\' ∧ ¬ c < ' ') := by
  unfold ofChar
  -- seven characters have a short escape
  iterate 7
    split
    · rename_i hc
      subst hc
      exact .inl ⟨_, rfl, rfl⟩
  rename_i hquote hbackslash _ _ _ _ _
  split
  · rename_i hcontrol
    exact .inr (.inl ⟨rfl, hcontrol⟩)
  · rename_i hcontrol
    exact .inr (.inr ⟨rfl, hquote, hbackslash, hcontrol⟩)

theorem proper_ofChar (c : Char) : (ofChar c).Proper := by
  rcases ofChar_cases c with ⟨letter, hshort, hvalue⟩ | ⟨hunit, hlt⟩ | ⟨hplain, hproper⟩
  · rw [hshort]
    show (shortValue? letter).isSome
    rw [hvalue]
    rfl
  · rw [hunit]
    show c.toNat < 0x10000
    omega
  · rw [hplain]
    exact hproper

theorem decode_ofChar_cons (c : Char) (pieces : List Piece) :
    decode (ofChar c :: pieces) = (decode pieces).map (c :: ·) := by
  rcases ofChar_cases c with ⟨letter, hshort, hvalue⟩ | ⟨hunit, hlt⟩ | ⟨hplain, -⟩
  · rw [hshort, decode, hvalue]
    rfl
  · rw [hunit, decode_unit_cons (by omega), Char.ofNat_toNat]
  · rw [hplain, decode]

theorem proper_of_mem_encode {cs : List Char} {p : Piece} (h : p ∈ encode cs) : p.Proper := by
  obtain ⟨c, -, rfl⟩ := List.mem_map.mp h
  exact proper_ofChar c

/-- What is written for a text denotes it. -/
theorem decode_encode (cs : List Char) : decode (encode cs) = some cs := by
  induction cs with
  | nil => rfl
  | cons c cs ih =>
      show decode (ofChar c :: encode cs) = _
      rw [decode_ofChar_cons, ih]
      rfl

end FlowProcessor.Json.Piece
