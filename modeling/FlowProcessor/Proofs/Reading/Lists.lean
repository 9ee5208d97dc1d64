/-
  FlowProcessor.Proofs.Reading.Lists — WHICH DESTINATION LISTS ARE READ.

  A list is made of tokens between commas.  It is read when every token denotes a destination, and
  the set then has the destinations denoted and no other: their order, repetitions, leading zeros
  and bases leave no trace.  A list that is refused is so for a character that occurs in no list,
  or else for its leftmost token that denotes no destination.

    • `TokenFault`         — why one token is refused
    • `ListFault`          — why a list is refused
    • `list_reads_exactly` — the sets that lists are read as, and the errors of the others
-/
import FlowProcessor.Proofs.IdSets
import FlowProcessor.Proofs.Reading.Numbers
import FlowProcessor.Proofs.Reading.Pieces

namespace FlowProcessor

open Numeral (Denotes flaw)

/-! ## §1. Tokens. -/

/-- Why a token of the list `text` is refused. -/
inductive TokenFault (text : String) : List Char → InputError → Prop
  /-- There is nothing between two commas. -/
  | empty : TokenFault text [] (.malformed text .emptyDestination)
  /-- The token denotes no number. -/
  | malformed {token : List Char} : token ≠ [] → (∀ n, ¬ Denotes token n) →
      TokenFault text token (.malformed (String.ofList token) (flaw token))
  /-- The number is beyond the destinations. -/
  | noDestination {token : List Char} {n : Nat} : Denotes token n → 31 < n → n < 2 ^ 32 →
      TokenFault text token (.outOfRange .destination n.repr)
  /-- The number does not fit in a word. -/
  | noWord {token : List Char} {n : Nat} : Denotes token n → 2 ^ 32 ≤ n →
      TokenFault text token (.outOfRange .number (String.ofList token))

namespace DestSet

variable {text : String} {token : List Char}

theorem readEntry_of_ne_nil (h : token ≠ []) :
    readEntry text token = DestId.read (String.ofList token) := by
  unfold readEntry
  exact if_neg h

theorem readEntry_of_fault {error : InputError} (h : TokenFault text token error) :
    readEntry text token = .error error := by
  cases h with
  | empty => rfl
  | malformed hne hno =>
      rw [readEntry_of_ne_nil hne]
      unfold DestId.read
      rw [Numeral.read_of_not_denotes (by rwa [String.toList_ofList]), String.toList_ofList]
      rfl
  | noDestination hn hlarge hword =>
      rw [readEntry_of_ne_nil hn.ne_nil]
      have htoNat := UInt32.toNat_ofNatLT (h := hword)
      unfold DestId.read
      rw [Numeral.read_of_denotes (by rwa [String.toList_ofList]) hword]
      refine (bounded_of_le (by rw [htoNat]; exact hlarge)).trans ?_
      rw [Numeral.decimal, htoNat]
  | noWord hn hword =>
      rw [readEntry_of_ne_nil hn.ne_nil]
      unfold DestId.read
      rw [Numeral.read_of_denotes_large (by rwa [String.toList_ofList]) hword]
      rfl

theorem readEntry_of_denotes {i : DestId} (h : Denotes token i) :
    readEntry text token = .ok i := by
  rw [readEntry_of_ne_nil h.ne_nil]
  exact read_bounded (by decide) (by rwa [String.toList_ofList])

/-- A token denotes a destination, or there is something wrong with it. -/
theorem denotes_or_fault (text : String) (token : List Char) :
    (∃ i : DestId, Denotes token i) ∨ ∃ error, TokenFault text token error := by
  by_cases hne : token = []
  · subst hne
    exact .inr ⟨_, .empty⟩
  · by_cases hdenotes : ∃ n, Denotes token n
    · obtain ⟨n, hn⟩ := hdenotes
      by_cases hsmall : n < 32
      · exact .inl ⟨⟨n, hsmall⟩, hn⟩
      · by_cases hword : n < 2 ^ 32
        · exact .inr ⟨_, .noDestination hn (by omega) hword⟩
        · exact .inr ⟨_, .noWord hn (Nat.not_lt.mp hword)⟩
    · exact .inr ⟨_, .malformed hne (not_exists.mp hdenotes)⟩

/-- What a token is read as, and why it is refused. -/
theorem readEntry_exactly (text : String) (token : List Char) :
    (∀ i : DestId, readEntry text token = .ok i ↔ Denotes token i)
      ∧ ∀ error, readEntry text token = .error error ↔ TokenFault text token error :=
  exactly_of_cases (fun _ => readEntry_of_denotes) (fun _ => readEntry_of_fault)
    (denotes_or_fault text token)

theorem readEntry_eq_ok_iff {i : DestId} : readEntry text token = .ok i ↔ Denotes token i :=
  (readEntry_exactly text token).1 i

end DestSet

/-! ## §2. Lists. -/

/-- The characters of lists. -/
def listAlphabet : String := "0123456789abcdefABCDEFx,"

theorem isListChar_iff {c : Char} : isListChar c = true ↔ c ∈ listAlphabet.toList := by
  constructor
  · intro h
    have hall : ∀ code < 128, isListChar (Char.ofNat code) = true →
        Char.ofNat code ∈ listAlphabet.toList := by decide +kernel
    have hfirst : c.toNat < 128 := by
      unfold isListChar isNumberChar at h
      rw [Bool.or_eq_true, Bool.or_eq_true, Option.isSome_iff_exists, beq_iff_eq,
        beq_iff_eq] at h
      rcases h with (⟨d, hd⟩ | rfl) | rfl
      · exact Numeral.toNat_lt_of_hexDigit? hd
      · decide
      · decide
    exact Numeral.forall_char_of_lt (P := fun c => isListChar c = true → c ∈ listAlphabet.toList)
      hall hfirst h
  · have hall : listAlphabet.toList.all isListChar = true := by decide
    exact List.all_eq_true.mp hall c

/-- A text lists a set of destinations by its tokens. -/
structure Listed (text : String) (tokens : List (List Char)) (dests : DestSet) : Prop where
  cut : Cut ',' text.toList tokens
  known : ∀ token ∈ tokens, ∃ n ≤ 31, Denotes token n
  flags : ∀ k, dests.bits.toNat.testBit k = true ↔ ∃ token ∈ tokens, Denotes token k

/-- Why a list is refused. -/
inductive ListFault (text : String) : InputError → Prop
  /-- A character occurs in no list, wherever it stands. -/
  | foreign {c : Char} : c ∈ text.toList → c ∉ listAlphabet.toList →
      ListFault text (.malformed text .foreignCharacter)
  /-- All characters occur in lists, and this is the leftmost token that denotes no destination. -/
  | leftmost {before after : List (List Char)} {token : List Char} {error : InputError} :
      (∀ c ∈ text.toList, c ∈ listAlphabet.toList) →
      Cut ',' text.toList (before ++ token :: after) →
      (∀ earlier ∈ before, ∃ n ≤ 31, Denotes earlier n) →
      TokenFault text token error → ListFault text error

namespace DestSet

variable {text : String} {tokens : List (List Char)} {dests : DestSet} {error : InputError}

theorem readList_of_foreign {c : Char} (hc : c ∈ text.toList) (hforeign : c ∉ listAlphabet.toList) :
    readList text = .error (.malformed text .foreignCharacter) := by
  unfold readList
  refine if_neg fun hall => hforeign ?_
  exact isListChar_iff.mp (List.all_eq_true.mp hall c hc)

theorem readList_of_cut (hchars : ∀ c ∈ text.toList, c ∈ listAlphabet.toList)
    (hcut : Cut ',' text.toList tokens) :
    readList text = (tokens.mapM (readEntry text)).map IdSet.ofList := by
  unfold readList
  rw [if_pos (List.all_eq_true.mpr fun c hc => isListChar_iff.mpr (hchars c hc)),
    splitAt_eq_iff.mpr hcut]

/-- The flags of what is read are the numbers denoted. -/
theorem testBit_ofList_of_map {ids : List DestId}
    (h : tokens.map (readEntry text) = ids.map .ok) (k : Nat) :
    (IdSet.ofList ids).bits.toNat.testBit k = true
      ↔ ∃ token ∈ tokens, Denotes token k := by
  rw [IdSet.testBit_ofList (by decide)]
  constructor
  · rintro ⟨i, hi, rfl⟩
    obtain ⟨token, htoken, hread⟩ := exists_of_map_eq h.symm hi
    exact ⟨token, htoken, readEntry_eq_ok_iff.mp hread⟩
  · rintro ⟨token, htoken, hdenotes⟩
    obtain ⟨i, hi, hread⟩ := exists_of_map_eq h htoken
    exact ⟨i, hi, (readEntry_eq_ok_iff.mp hread.symm).unique hdenotes⟩

/-- Tokens that denote destinations are read. -/
theorem exists_map_readEntry (text : String)
    (h : ∀ token ∈ tokens, ∃ n ≤ 31, Denotes token n) :
    ∃ ids : List DestId, tokens.map (readEntry text) = ids.map .ok := by
  refine exists_map_eq_ok fun token htoken => ?_
  obtain ⟨n, hn, hdenotes⟩ := h token htoken
  exact ⟨⟨n, Nat.lt_succ_of_le hn⟩, readEntry_of_denotes hdenotes⟩

/-- Tokens that are read denote destinations. -/
theorem denotes_of_map_readEntry {ids : List DestId}
    (h : tokens.map (readEntry text) = ids.map .ok) :
    ∀ token ∈ tokens, ∃ n ≤ 31, Denotes token n := by
  intro token htoken
  obtain ⟨i, -, hread⟩ := exists_of_map_eq h htoken
  exact ⟨i, Nat.le_of_lt_succ i.isLt, readEntry_eq_ok_iff.mp hread.symm⟩

/-- Tokens that denote destinations list the set of these. -/
theorem exists_listed (hcut : Cut ',' text.toList tokens)
    (hknown : ∀ token ∈ tokens, ∃ n ≤ 31, Denotes token n) :
    ∃ dests, Listed text tokens dests := by
  obtain ⟨ids, hids⟩ := exists_map_readEntry text hknown
  exact ⟨IdSet.ofList ids, hcut, hknown, testBit_ofList_of_map hids⟩

/-- Every character of a list is a separator or in a token. -/
theorem mem_alphabet_of_listed (h : Listed text tokens dests) :
    ∀ c ∈ text.toList, c ∈ listAlphabet.toList := by
  intro c hc
  rw [← h.cut.whole] at hc
  rcases mem_intercalate hc with rfl | ⟨token, htoken, hmem⟩
  · decide
  · obtain ⟨n, -, hdenotes⟩ := h.known token htoken
    refine isListChar_iff.mp ?_
    unfold isListChar
    rw [hdenotes.isNumberChar c hmem]
    rfl

theorem readList_of_listed (h : Listed text tokens dests) : readList text = .ok dests := by
  obtain ⟨ids, hids⟩ := exists_map_readEntry text h.known
  have hdests : IdSet.ofList ids = dests := by
    refine IdSet.ext_testBit fun k => Bool.eq_iff_iff.mpr ?_
    rw [testBit_ofList_of_map hids, h.flags]
  rw [readList_of_cut (mem_alphabet_of_listed h) h.cut, mapM_eq_ok_iff.mpr hids, ← hdests]
  rfl

theorem readList_of_fault (h : ListFault text error) : readList text = .error error := by
  cases h with
  | foreign hc hforeign => exact readList_of_foreign hc hforeign
  | @leftmost before after token error hchars hcut hbefore hfault =>
      obtain ⟨ids, hids⟩ := exists_map_readEntry text hbefore
      have hmap : (before ++ token :: after).map (readEntry text)
          = ids.map .ok ++ .error error :: after.map (readEntry text) := by
        rw [List.map_append, List.map_cons, hids, readEntry_of_fault hfault]
      rw [readList_of_cut hchars hcut, mapM_eq_error_iff.mpr ⟨ids, _, hmap⟩]
      rfl

/-- A text lists a set, or there is something wrong with it. -/
theorem listed_or_fault (text : String) :
    (∃ dests tokens, Listed text tokens dests) ∨ ∃ error, ListFault text error := by
  by_cases hchars : ∀ c ∈ text.toList, c ∈ listAlphabet.toList
  · have hcut := cut_splitAt ',' text.toList
    generalize splitAt ',' text.toList = tokens at hcut
    cases hread : tokens.mapM (readEntry text) with
    | ok ids =>
        have hknown := denotes_of_map_readEntry (mapM_eq_ok_iff.mp hread)
        obtain ⟨dests, hlisted⟩ := exists_listed hcut hknown
        exact .inl ⟨dests, tokens, hlisted⟩
    | error error =>
        -- the token that is the first to be refused
        obtain ⟨done, rest, hmap⟩ := mapM_eq_error_iff.mp hread
        obtain ⟨before, later, rfl, hbefore, hlater⟩ := List.map_eq_append_iff.mp hmap
        obtain ⟨token, after, rfl, htoken, -⟩ := List.map_eq_cons_iff.mp hlater
        exact .inr ⟨error, .leftmost hchars hcut (denotes_of_map_readEntry hbefore)
          ((readEntry_exactly text token).2 error |>.mp htoken)⟩
  · simp only [not_forall] at hchars
    obtain ⟨c, hc, hforeign⟩ := hchars
    exact .inr ⟨_, .foreign hc hforeign⟩

end DestSet

/-- **A list is read exactly when all its tokens denote destinations, as the set of these, and
refused for a character of no list, or else for its leftmost token that denotes none.** -/
theorem list_reads_exactly (text : String) :
    ((∃ dests, DestSet.readList text = .ok dests)
        ↔ ∃ tokens, Cut ',' text.toList tokens ∧ ∀ token ∈ tokens, ∃ n ≤ 31, Denotes token n)
      ∧ (∀ dests, DestSet.readList text = .ok dests ↔ ∃ tokens, Listed text tokens dests)
      ∧ ∀ error, DestSet.readList text = .error error ↔ ListFault text error := by
  obtain ⟨hread, hrefused⟩ := exactly_of_cases
    (fun _ ⟨_, hlisted⟩ => DestSet.readList_of_listed hlisted)
    (fun _ => DestSet.readList_of_fault) (DestSet.listed_or_fault text)
  refine ⟨⟨?_, ?_⟩, hread, hrefused⟩
  · rintro ⟨dests, h⟩
    obtain ⟨tokens, hlisted⟩ := (hread dests).mp h
    exact ⟨tokens, hlisted.cut, hlisted.known⟩
  · rintro ⟨tokens, hcut, hknown⟩
    obtain ⟨dests, hlisted⟩ := DestSet.exists_listed hcut hknown
    exact ⟨dests, DestSet.readList_of_listed hlisted⟩

example : DestSet.readList "5,0x1f,05" = .ok ⟨0x80000020⟩ := by decide +kernel

-- the foreign character counts, although a token before it is bad too
example : DestSet.readList "40,;" = .error (.malformed "40,;" .foreignCharacter) := by
  decide +kernel

end FlowProcessor
