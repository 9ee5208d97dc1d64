/-
  FlowProcessor.Proofs.Json.Tokens — TOKENS READ BACK AS THEY WERE WRITTEN.

  Every token but a number ends by itself.  A number ends where the next character cannot go on
  with it, so tokens read back one by one if no two numbers stand next to each other.  Blanks and
  line ends may stand between any two tokens.

    • `Token.next?_chars`  — one token, whatever follows that does not go on with it
    • `lex_layout`         — any layout of tokens reads back as the tokens
-/
import FlowProcessor.Json.Basic
import FlowProcessor.Proofs.Json.Strings
import Mathlib.Data.List.Chain

namespace FlowProcessor.Json

namespace Token

/-! ## §1. Numbers. -/

/-- The text does not go on with a number. -/
def EndsNumber (cs : List Char) : Prop :=
  ∀ c, cs.head? = some c → c.isDigit = false ∧ c ≠ '.' ∧ c ≠ 'e' ∧ c ≠ 'E'

variable {rest : List Char}

theorem EndsNumber.dropTail? (h : EndsNumber rest) : dropTail? rest = some (false, rest) := by
  cases rest with
  | nil => rfl
  | cons c cs =>
      obtain ⟨-, hpoint, hlower, hupper⟩ := h c rfl
      rw [dropTail?.eq_2 _ fun _ heq => hpoint (List.cons.inj heq).1]
      exact dropExponent?.eq_3 _ (fun _ heq => hlower (List.cons.inj heq).1)
        fun _ heq => hupper (List.cons.inj heq).1

theorem EndsNumber.takeWhile_eq_nil (h : EndsNumber rest) : rest.takeWhile Char.isDigit = [] := by
  cases rest with
  | nil => rfl
  | cons c cs => rw [List.takeWhile_cons, (h c rfl).1]; rfl

theorem EndsNumber.dropWhile_eq_self (h : EndsNumber rest) :
    rest.dropWhile Char.isDigit = rest := by
  cases rest with
  | nil => rfl
  | cons c cs => rw [List.dropWhile_cons, (h c rfl).1]; rfl

/-- The digits of a number are split off as a whole. -/
theorem integer?_toDigits (h : EndsNumber rest) (n : Nat) :
    integer? (Nat.toDigits 10 n ++ rest) = some (Nat.toDigits 10 n, rest) := by
  by_cases hzero : n = 0
  · subst hzero
    rfl
  · -- no other number starts with a zero, so that all its digits are taken
    cases hdigits : Nat.toDigits 10 n with
    | nil => exact absurd hdigits Nat.toDigits_ne_nil
    | cons c cs =>
        have hall : ∀ d ∈ c :: cs, d.isDigit = true := by
          rw [← hdigits]
          exact fun d => Numeral.isDigit_of_mem_toDigits
        obtain ⟨hfirst, hothers⟩ := List.forall_mem_cons.mp hall
        have hc : c ≠ '0' := by
          rintro rfl
          exact hzero (Numeral.head?_toDigits (by rw [hdigits]; rfl))
        show integer? (c :: (cs ++ rest)) = _
        rw [integer?.eq_2 _ _ hc, if_pos hfirst, List.takeWhile_append_of_pos hothers,
          List.dropWhile_append_of_pos hothers, h.takeWhile_eq_nil, h.dropWhile_eq_self,
          List.append_nil]

theorem unsigned?_toDigits (h : EndsNumber rest) (n : Nat) :
    unsigned? (Nat.toDigits 10 n ++ rest) = some (.natural n, rest) := by
  have hvalue : Numeral.Base.decimal.value (Nat.toDigits 10 n) = some n :=
    Numeral.Base.value_toDigits .decimal n
  unfold unsigned?
  rw [integer?_toDigits h]
  simp [h.dropTail?, hvalue]

/-! ## §2. One token. -/

/-- Tokens that have to be kept apart. -/
def IsNumber : Token → Prop
  | .natural _ | .otherNumber => True
  | _ => False

/-- A token that can be written: the pieces of a string can stand between quotes. -/
def Proper : Token → Prop
  | .string pieces => ∀ p ∈ pieces, p.Proper
  | _ => True

/-- A token that starts with a digit is read as a number. -/
theorem next?_of_isDigit {c : Char} (h : c.isDigit = true) (cs : List Char) :
    next? (c :: cs) = unsigned? (c :: cs) := by
  have hne : ∀ d : Char, d.isDigit = false → c ≠ d := fun d => Numeral.ne_of_isDigit h
  have hnext : next? (c :: cs) = number? (c :: cs) := by
    refine next?.eq_11 _ ?_ ?_ ?_ ?_ ?_ ?_ ?_ ?_ ?_ ?_
    all_goals
      intro _ heq
      exact hne _ (by decide) (List.cons.inj heq).1
  rw [hnext]
  exact number?.eq_2 _ fun _ heq => hne '-' (by decide) (List.cons.inj heq).1

/-- A token is read back, with whatever follows it, if this does not go on with a number. -/
theorem next?_chars {t : Token} (h : t.Proper) (hrest : t.IsNumber → EndsNumber rest) :
    next? (t.chars ++ rest) = some (t, rest) := by
  cases t with
  | openBrace | closeBrace | openBracket | closeBracket | colon | comma | null => rfl
  | bool value => cases value <;> rfl
  | natural n =>
      have hunsigned := unsigned?_toDigits (hrest trivial) n
      show next? (Nat.toDigits 10 n ++ rest) = _
      cases hdigits : Nat.toDigits 10 n with
      | nil => exact absurd hdigits Nat.toDigits_ne_nil
      | cons c cs =>
          rw [hdigits] at hunsigned
          have hdigit : c.isDigit = true :=
            Numeral.isDigit_of_mem_toDigits (by rw [hdigits]; exact List.mem_cons_self)
          exact (next?_of_isDigit hdigit _).trans hunsigned
  | otherNumber =>
      -- it is written as -1, of which the sign comes off first
      have hone := unsigned?_toDigits (hrest trivial) 1
      show (unsigned? ('1' :: rest)).map _ = _
      have hdigits : '1' :: rest = Nat.toDigits 10 1 ++ rest := rfl
      rw [hdigits, hone]
      rfl
  | string pieces =>
      show next? ('"' :: (pieces.flatMap Piece.chars ++ ['"'] ++ rest)) = _
      rw [next?, List.append_assoc, List.singleton_append, Piece.scan_pieces h]
      rfl

/-- No token starts with a blank, and none but a number with what could go on with one. -/
theorem chars_eq_cons (t : Token) :
    ∃ c cs, t.chars = c :: cs ∧ isBlank c = false
      ∧ (¬ t.IsNumber → c.isDigit = false ∧ c ≠ '.' ∧ c ≠ 'e' ∧ c ≠ 'E') := by
  cases t with
  | openBrace | closeBrace | openBracket | closeBracket | colon | comma | null | string =>
      exact ⟨_, _, rfl, by decide, fun _ => by decide⟩
  | bool value =>
      cases value with
      | true => exact ⟨_, _, rfl, by decide, fun _ => by decide⟩
      | false => exact ⟨_, _, rfl, by decide, fun _ => by decide⟩
  | otherNumber => exact ⟨_, _, rfl, by decide, fun hnot => absurd trivial hnot⟩
  | natural n =>
      show ∃ c cs, Nat.toDigits 10 n = c :: cs ∧ _
      cases hdigits : Nat.toDigits 10 n with
      | nil => exact absurd hdigits Nat.toDigits_ne_nil
      | cons c cs =>
          have hdigit : c.isDigit = true :=
            Numeral.isDigit_of_mem_toDigits (by rw [hdigits]; exact List.mem_cons_self)
          have hblank : isBlank c = false := by
            have hne : ∀ d : Char, d.isDigit = false → c ≠ d :=
              fun d => Numeral.ne_of_isDigit hdigit
            simp [isBlank, hne ' ' (by decide), hne '\t' (by decide), hne '\n' (by decide),
              hne '\r' (by decide)]
          exact ⟨c, cs, rfl, hblank, fun hnot => absurd trivial hnot⟩

/-! ## §3. Texts. -/

/-- More fuel does no harm. -/
theorem lexWith_mono {n m : Nat} {cs : List Char} {ts : List Token}
    (h : lexWith n cs = some ts) (hle : n ≤ m) : lexWith m cs = some ts := by
  induction n generalizing m cs ts with
  | zero =>
      cases cs with
      | nil => rw [lexWith] at h ⊢; exact h
      | cons c cs => cases h
  | succ n ih =>
      cases cs with
      | nil => rw [lexWith] at h ⊢; exact h
      | cons c cs =>
          obtain ⟨m, rfl⟩ : ∃ k, m = k + 1 := ⟨m - 1, by omega⟩
          have hle' : n ≤ m := Nat.le_of_succ_le_succ hle
          rw [lexWith] at h ⊢
          -- a blank or a token is taken off, and the induction takes the rest
          split at h
          · rename_i hblank
            rw [if_pos hblank]
            exact ih h hle'
          · rename_i hblank
            rw [if_neg hblank]
            cases hnext : next? (c :: cs) with
            | none => rw [hnext] at h; cases h
            | some result =>
                obtain ⟨t, rest⟩ := result
                rw [hnext] at h
                obtain ⟨ts', hts', rfl⟩ := Option.map_eq_some_iff.mp h
                show (lexWith m rest).map _ = _
                rw [ih hts' hle']
                rfl

/-- Blanks in front are skipped. -/
theorem lex_blanks {blanks : List Char} (h : ∀ c ∈ blanks, isBlank c = true) (cs : List Char) :
    lex (blanks ++ cs) = lex cs := by
  induction blanks with
  | nil => rfl
  | cons c blanks ih =>
      obtain ⟨hc, hblanks⟩ := List.forall_mem_cons.mp h
      show lexWith ((blanks ++ cs).length + 1) (c :: (blanks ++ cs)) = _
      rw [lexWith, if_pos hc]
      exact ih hblanks

/-- A token in front is read first. -/
theorem lex_cons {t : Token} {ts : List Token} (h : t.Proper) (hrest : t.IsNumber → EndsNumber rest)
    (hlex : lex rest = some ts) : lex (t.chars ++ rest) = some (t :: ts) := by
  obtain ⟨c, cs, hchars, hblank, -⟩ := t.chars_eq_cons
  have hnext := next?_chars h hrest
  rw [hchars, List.cons_append] at hnext ⊢
  show lexWith ((cs ++ rest).length + 1) (c :: (cs ++ rest)) = _
  -- the token has a character at least, so there is fuel for the rest of the text
  have hlex' : lexWith (cs ++ rest).length rest = some ts :=
    lexWith_mono hlex (by rw [List.length_append]; omega)
  rw [lexWith, hblank, hnext]
  show (lexWith (cs ++ rest).length rest).map _ = _
  rw [hlex']
  rfl

end Token

/-! ## §4. Layouts. -/

/-- The token of a layout element, if it is not a blank. -/
def Layout.token? : Layout → Option Token
  | .token t => some t
  | _ => none

/-- Neighbours of which at most one is a number. -/
def Token.Apart (t u : Token) : Prop := t.IsNumber → ¬ u.IsNumber

/-- A layout whose first token is no number does not go on with one. -/
theorem endsNumber_layout {ls : List Layout}
    (h : ∀ t, (ls.filterMap Layout.token?).head? = some t → ¬ t.IsNumber) :
    Token.EndsNumber (ls.flatMap Layout.chars) := by
  intro c hc
  cases ls with
  | nil => cases hc
  | cons l ls =>
      cases l with
      | token t =>
          obtain ⟨first, others, hchars, -, hends⟩ := t.chars_eq_cons
          rw [List.flatMap_cons, Layout.chars, hchars] at hc
          obtain rfl := Option.some.inj hc
          exact hends (h t rfl)
      | blank =>
          obtain rfl := Option.some.inj hc
          decide
      | line depth =>
          obtain rfl := Option.some.inj hc
          decide

/-- **A layout reads back as its tokens.** -/
theorem lex_layout {ls : List Layout} (hproper : ∀ t ∈ ls.filterMap Layout.token?, t.Proper)
    (hapart : (ls.filterMap Layout.token?).IsChain Token.Apart) :
    Token.lex (ls.flatMap Layout.chars) = some (ls.filterMap Layout.token?) := by
  induction ls with
  | nil => rfl
  | cons l ls ih =>
      rw [List.flatMap_cons]
      cases l with
      | token t =>
          have htokens : (Layout.token t :: ls).filterMap Layout.token?
              = t :: ls.filterMap Layout.token? := rfl
          rw [htokens] at hproper hapart ⊢
          obtain ⟨ht, hothers⟩ := List.forall_mem_cons.mp hproper
          obtain ⟨hnext, hchain⟩ := List.isChain_cons.mp hapart
          refine Token.lex_cons ht (fun hnumber => ?_) (ih hothers hchain)
          exact endsNumber_layout fun u hu => hnext u hu hnumber
      | blank =>
          have hblank : ∀ c ∈ Layout.blank.chars, Token.isBlank c = true := by
            intro c hc
            rw [List.mem_singleton.mp hc]
            decide
          exact (Token.lex_blanks hblank _).trans (ih hproper hapart)
      | line depth =>
          have hline : ∀ c ∈ (Layout.line depth).chars, Token.isBlank c = true := by
            intro c hc
            rcases List.mem_cons.mp hc with rfl | hc
            · decide
            · rw [List.eq_of_mem_replicate hc]
              decide
          exact (Token.lex_blanks hline _).trans (ih hproper hapart)

end FlowProcessor.Json
