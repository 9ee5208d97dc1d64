/-
  FlowProcessor.Proofs.Settings — A STATE FILE IS NO SETTINGS FILE.

  A document that describes a platform opens with a brace or a bracket, after blanks and line ends.
  Settings are read line by line, and none of their lines opens that way.  So the file that a tool
  saves is never the one it has its settings from.

    • `Opens`                       — a text that opens with a brace or a bracket
    • `PlatformState.opens_of_read` — the text of a platform does
    • `Opens.read_eq_none`          — such a text gives no settings
-/
import FlowProcessor.Platform.StateText
import FlowProcessor.Settings

namespace FlowProcessor

/-! ## §1. The head of a document. -/

/-- The characters open with a brace or a bracket, after blanks and line ends. -/
inductive Opens : List Char → Prop
  | here {c : Char} {rest : List Char} (opening : c = '\x7b' ∨ c = '[') : Opens (c :: rest)
  | blank {c : Char} {rest : List Char} (blank : Json.Token.isBlank c = true) (h : Opens rest) :
      Opens (c :: rest)

namespace Json

/-- The brackets that a record can open with. -/
def Token.IsOpening : Token → Prop
  | .openBrace | .openBracket => True
  | _ => False

theorem Token.not_isOpening_of_unsigned? {cs rest : List Char} {t : Token}
    (h : unsigned? cs = some (t, rest)) : ¬ t.IsOpening := by
  unfold unsigned? at h
  obtain ⟨split, hsplit, h⟩ := Option.bind_eq_some_iff.mp h
  obtain ⟨tail, htail, h⟩ := Option.bind_eq_some_iff.mp h
  obtain ⟨value, hvalue, h⟩ := Option.bind_eq_some_iff.mp h
  obtain ⟨rfl, -⟩ := Prod.mk.inj (Option.some.inj h)
  split <;> exact id

theorem Token.not_isOpening_of_number? {cs rest : List Char} {t : Token}
    (h : number? cs = some (t, rest)) : ¬ t.IsOpening := by
  unfold number? at h
  split at h
  · obtain ⟨read, hread, h⟩ := Option.map_eq_some_iff.mp h
    obtain ⟨rfl, -⟩ := Prod.mk.inj h
    exact id
  · exact not_isOpening_of_unsigned? h

/-- A token that opens a record is written as a brace or a bracket. -/
theorem Token.opening_of_next? {c : Char} {cs rest : List Char} {t : Token}
    (h : next? (c :: cs) = some (t, rest)) (ht : t.IsOpening) : c = '\x7b' ∨ c = '[' := by
  unfold next? at h
  split at h
  case h_1 heq => exact .inl (List.cons.inj heq).1
  case h_3 heq => exact .inr (List.cons.inj heq).1
  case h_10 =>
    obtain ⟨read, hread, h⟩ := Option.map_eq_some_iff.mp h
    obtain ⟨rfl, -⟩ := Prod.mk.inj h
    exact ht.elim
  case h_11 => exact absurd ht (not_isOpening_of_number? h)
  all_goals
    obtain ⟨rfl, -⟩ := Prod.mk.inj (Option.some.inj h)
    exact ht.elim

theorem opens_of_lexWith {fuel : Nat} {cs : List Char} {t : Token} {ts : List Token}
    (h : Token.lexWith fuel cs = some (t :: ts)) (ht : t.IsOpening) : Opens cs := by
  induction fuel generalizing cs with
  | zero => cases cs <;> cases h
  | succ fuel ih =>
      cases cs with
      | nil => cases h
      | cons c cs =>
          rw [Token.lexWith] at h
          split at h
          · rename_i hblank
            exact .blank hblank (ih h)
          · cases hnext : Token.next? (c :: cs) with
            | none => rw [hnext] at h; cases h
            | some read =>
                obtain ⟨first, rest⟩ := read
                rw [hnext] at h
                obtain ⟨tokens, -, htokens⟩ := Option.map_eq_some_iff.mp h
                obtain ⟨rfl, -⟩ := List.cons.inj htokens
                exact .here (Token.opening_of_next? hnext ht)

/-- Only such a token starts a record. -/
theorem isOpening_of_valueOf? {fuel : Nat} {t : Token} {ts rest : List Token} {document : Json}
    (h : valueOf? (fuel + 1) (t :: ts) = some (document, rest)) {fields : List String}
    (hrecord : (document.record? fields).isSome) : t.IsOpening := by
  cases t with
  | openBrace | openBracket => trivial
  | null | bool value | natural value | otherNumber | string pieces =>
      obtain ⟨rfl, -⟩ := Prod.mk.inj (Option.some.inj h)
      cases hrecord
  | closeBrace | closeBracket | colon | comma => cases h

/-- A document that is a record opens with a brace or a bracket. -/
theorem opens_of_read {text : String} {document : Json} (h : Json.read text = some document)
    {fields : List String} (hrecord : (document.record? fields).isSome) : Opens text.toList := by
  unfold Json.read at h
  cases hlex : Token.lex text.toList with
  | none => rw [hlex] at h; cases h
  | some tokens =>
      rw [hlex] at h
      dsimp only at h
      split at h
      · rename_i found hvalue
        obtain rfl := Option.some.inj h
        cases tokens with
        | nil => cases hvalue
        | cons t ts => exact opens_of_lexWith hlex (isOpening_of_valueOf? hvalue hrecord)
      · cases h

end Json

/-- **The text of a platform opens with a brace or a bracket.** -/
theorem PlatformState.opens_of_read {text : String} {s : PlatformState}
    (h : PlatformState.read text = some s) : Opens text.toList := by
  unfold read at h
  obtain ⟨document, hdocument, h⟩ := Option.bind_eq_some_iff.mp h
  unfold ofJson? at h
  obtain ⟨slots, hslots, -⟩ := Option.bind_eq_some_iff.mp h
  exact Json.opens_of_read hdocument (Option.isSome_of_eq_some hslots)

/-! ## §2. The lines of a settings file. -/

namespace Opens

variable {cs : List Char}

theorem dropBlanks (h : Opens cs) : Opens (Toml.dropBlanks cs) := by
  induction h with
  | here opening =>
      rename_i c rest
      have hblank : Toml.isBlank c = false := by
        rcases opening with rfl | rfl <;> rfl
      rw [Toml.dropBlanks, List.dropWhile_cons, hblank]
      exact .here opening
  | blank blank h ih =>
      rename_i c rest
      rw [Toml.dropBlanks, List.dropWhile_cons]
      split
      · exact ih
      · exact .blank blank h

/-- No comment starts here. -/
theorem dropComment (h : Opens cs) : Toml.dropComment cs = cs := by
  unfold Toml.dropComment
  split
  · cases h with
    | here opening => rcases opening with h | h <;> cases h
    | blank blank h => cases blank
  · rfl

theorem afterNewline? {rest : List Char} (h : Opens cs)
    (hnewline : Toml.afterNewline? cs = some rest) :
    Opens rest := by
  unfold Toml.afterNewline? at hnewline
  split at hnewline
  · obtain rfl := Option.some.inj hnewline
    cases h with
    | here opening => rcases opening with h | h <;> cases h
    | blank blank h => exact h
  · obtain rfl := Option.some.inj hnewline
    cases h with
    | here opening => rcases opening with h | h <;> cases h
    | blank blank h =>
        cases h with
        | here opening => rcases opening with h | h <;> cases h
        | blank blank h => exact h
  · cases hnewline

theorem dropLines (h : Opens cs) (fuel : Nat) : Opens (Toml.dropLines fuel cs) := by
  induction fuel generalizing cs with
  | zero => exact h
  | succ fuel ih =>
      have hrest := h.dropBlanks
      rw [Toml.dropLines, hrest.dropComment]
      split
      · rename_i hnewline
        exact ih (hrest.afterNewline? hnewline)
      · exact hrest

/-- No key starts with a brace, a bracket or a blank. -/
theorem key?_eq_none (h : Opens cs) : Toml.key? cs = none := by
  obtain ⟨c, rest, rfl, hc⟩ : ∃ c rest, cs = c :: rest
      ∧ (c = '\x7b' ∨ c = '[' ∨ c = ' ' ∨ c = '\t' ∨ c = '\n' ∨ c = '\r') := by
    cases h with
    | here opening => exact ⟨_, _, rfl, opening.elim .inl fun h => .inr (.inl h)⟩
    | blank blank h =>
        simp only [Json.Token.isBlank, Bool.or_eq_true, beq_iff_eq] at blank
        rcases blank with ((rfl | rfl) | rfl) | rfl <;> exact ⟨_, _, rfl, by simp⟩
  rcases hc with rfl | rfl | rfl | rfl | rfl | rfl <;> rfl

/-- **A text that opens like a platform gives no settings.** -/
theorem read_eq_none {text : String} (h : Opens text.toList) : Settings.read text = none := by
  have hmark : Toml.dropMark text.toList = text.toList := by
    unfold Toml.dropMark
    split
    · rename_i heq
      rw [heq] at h
      cases h with
      | here opening => rcases opening with h | h <;> cases h
      | blank blank h => cases blank
    · rfl
  have hentries : Toml.entries? (text.toList.length + 1) text.toList = none := by
    have hlines := h.dropLines text.toList.length
    rw [Toml.entries?]
    split
    · rename_i heq
      rw [heq] at hlines
      cases hlines
    · rw [Toml.entry?, hlines.key?_eq_none]
      rfl
  have hread : Toml.read text = none := by
    simp only [Toml.read, hmark, hentries]
    rfl
  unfold Settings.read
  rw [hread]
  rfl

end Opens

end FlowProcessor
