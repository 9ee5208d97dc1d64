/-
  FlowProcessor.Proofs.Json.Documents — A DOCUMENT READS BACK FROM ITS TEXT.

  Reading undoes writing in two steps.  The tokens of a document, with whatever follows them, are
  read as the document; and both ways of writing lay out exactly these tokens.

    • `valueOf?_tokens`        — the tokens of a document are read as the document
    • `apart_tokens`           — no two numbers stand next to each other in it
    • `tokens_of_layout`       — the lines of a document hold its tokens
    • `read_compact`, `read_pretty` — the text of a document is read as the document
-/
import FlowProcessor.Proofs.Json.Tokens

namespace FlowProcessor.Json

/-! ## §1. Reading tokens. -/

/-- A document does not start with a closing bracket or brace. -/
theorem tokens_eq_cons (d : Json) :
    ∃ t ts, d.tokens = t :: ts ∧ t ≠ .closeBracket ∧ t ≠ .closeBrace := by
  cases d with
  | null | bool | natural | otherNumber | string | array | object =>
      rw [tokens]
      exact ⟨_, _, rfl, by simp, by simp⟩

theorem itemTokens_cons_cons (item next : Json) (items : List Json) :
    itemTokens (item :: next :: items) = tokens item ++ .comma :: itemTokens (next :: items) :=
  itemTokens.eq_3 item (next :: items) (by simp)

theorem memberTokens_cons_cons (member next : List Piece × Json)
    (members : List (List Piece × Json)) :
    memberTokens (member :: next :: members)
      = memberToken member ++ .comma :: memberTokens (next :: members) :=
  memberTokens.eq_3 member (next :: members) (by simp)

/-- No closing bracket stands in front of the first element. -/
theorem itemTokens_ne_closing (item : Json) (items : List Json) (rest ts : List Token) :
    itemTokens (item :: items) ++ rest ≠ .closeBracket :: ts := by
  obtain ⟨t, others, htokens, hbracket, -⟩ := item.tokens_eq_cons
  have hhead : (itemTokens (item :: items) ++ rest).head? = some t := by
    cases items with
    | nil => rw [itemTokens, htokens]; rfl
    | cons next items => rw [itemTokens_cons_cons, htokens]; rfl
  intro heq
  rw [heq] at hhead
  exact hbracket (Option.some.inj hhead).symm

/-- No closing brace stands in front of the first member. -/
theorem memberTokens_ne_closing (member : List Piece × Json) (members : List (List Piece × Json))
    (rest ts : List Token) : memberTokens (member :: members) ++ rest ≠ .closeBrace :: ts := by
  have hhead : (memberTokens (member :: members) ++ rest).head? = some (.string member.1) := by
    cases members with
    | nil => rw [memberTokens, memberToken]; rfl
    | cons next members => rw [memberTokens_cons_cons, memberToken]; rfl
  intro heq
  rw [heq] at hhead
  cases hhead

mutual

/-- The tokens of a document, and whatever follows them, are read as the document. -/
theorem valueOf?_tokens (d : Json) (rest : List Token) (fuel : Nat)
    (hfuel : d.tokens.length ≤ fuel) : valueOf? fuel (d.tokens ++ rest) = some (d, rest) := by
  -- a document has a token at least, so there is fuel for the first step
  obtain ⟨fuel, rfl⟩ : ∃ k, fuel = k + 1 := by
    obtain ⟨t, ts, htokens, -⟩ := d.tokens_eq_cons
    rw [htokens, List.length_cons] at hfuel
    exact ⟨fuel - 1, by omega⟩
  match d with
  | .null | .bool _ | .natural _ | .otherNumber | .string _ => rfl
  | .array [] => rfl
  | .object [] => rfl
  | .array (item :: items) =>
      rw [tokens, List.length_append, List.length_cons, List.length_singleton] at hfuel
      have hitems := itemsOf?_tokens item items rest fuel (by omega)
      rw [tokens, List.cons_append, List.cons_append, List.append_assoc, List.singleton_append,
        valueOf?.eq_8 _ _ (itemTokens_ne_closing item items _), hitems]
      rfl
  | .object (member :: members) =>
      rw [tokens, List.length_append, List.length_cons, List.length_singleton] at hfuel
      have hmembers := membersOf?_tokens member members rest fuel (by omega)
      rw [tokens, List.cons_append, List.cons_append, List.append_assoc, List.singleton_append,
        valueOf?.eq_10 _ _ (memberTokens_ne_closing member members _), hmembers]
      rfl
termination_by fuel

/-- The elements of an array are read up to its closing bracket. -/
theorem itemsOf?_tokens (item : Json) (items : List Json) (rest : List Token) (fuel : Nat)
    (hfuel : (itemTokens (item :: items)).length < fuel) :
    itemsOf? fuel (itemTokens (item :: items) ++ .closeBracket :: rest)
      = some (item :: items, rest) := by
  obtain ⟨fuel, rfl⟩ : ∃ k, fuel = k + 1 := ⟨fuel - 1, by omega⟩
  match items with
  | [] =>
      rw [itemTokens] at hfuel ⊢
      rw [itemsOf?, valueOf?_tokens item (.closeBracket :: rest) fuel (by omega)]
  | next :: items =>
      -- the comma behind the first element says that there are others
      rw [itemTokens_cons_cons, List.length_append, List.length_cons] at hfuel
      have hitems := itemsOf?_tokens next items rest fuel (by omega)
      rw [itemTokens_cons_cons, List.append_assoc, List.cons_append, itemsOf?,
        valueOf?_tokens item _ fuel (by omega)]
      show (itemsOf? fuel (itemTokens (next :: items) ++ .closeBracket :: rest)).map _ = _
      rw [hitems]
      rfl
termination_by fuel

/-- The members of an object are read up to its closing brace. -/
theorem membersOf?_tokens (member : List Piece × Json) (members : List (List Piece × Json))
    (rest : List Token) (fuel : Nat)
    (hfuel : (memberTokens (member :: members)).length < fuel) :
    membersOf? fuel (memberTokens (member :: members) ++ .closeBrace :: rest)
      = some (member :: members, rest) := by
  obtain ⟨fuel, rfl⟩ : ∃ k, fuel = k + 1 := ⟨fuel - 1, by omega⟩
  match member, members with
  | (key, item), [] =>
      rw [memberTokens, memberToken] at hfuel ⊢
      rw [List.length_cons, List.length_cons] at hfuel
      rw [List.cons_append, List.cons_append, membersOf?,
        valueOf?_tokens item (.closeBrace :: rest) fuel (by omega)]
  | (key, item), next :: members =>
      rw [memberTokens_cons_cons, memberToken, List.length_append, List.length_cons,
        List.length_cons, List.length_cons] at hfuel
      have hmembers := membersOf?_tokens next members rest fuel (by omega)
      rw [memberTokens_cons_cons, memberToken, List.append_assoc, List.cons_append,
        List.cons_append, List.cons_append, membersOf?,
        valueOf?_tokens item _ fuel (by omega)]
      show (membersOf? fuel (memberTokens (next :: members) ++ .closeBrace :: rest)).map _ = _
      rw [hmembers]
      rfl
termination_by fuel

end

/-! ## §2. Numbers stand apart. -/

/-- A token that is no number may stand anywhere. -/
theorem isChain_cons_mark {mark : Token} {ts : List Token} (hmark : ¬ mark.IsNumber)
    (h : ts.IsChain Token.Apart) : (mark :: ts).IsChain Token.Apart :=
  List.isChain_cons.mpr ⟨fun _ _ hnumber => absurd hnumber hmark, h⟩

theorem isChain_append_mark {mark : Token} {ts us : List Token} (hmark : ¬ mark.IsNumber)
    (h : ts.IsChain Token.Apart) (h' : us.IsChain Token.Apart) :
    (ts ++ mark :: us).IsChain Token.Apart := by
  refine List.isChain_append.mpr ⟨h, isChain_cons_mark hmark h', fun t _ u hu _ => ?_⟩
  obtain rfl := Option.some.inj hu
  exact hmark

mutual

/-- Between any two numbers of a document there is some other token. -/
theorem apart_tokens (d : Json) : d.tokens.IsChain Token.Apart := by
  match d with
  | .null | .bool _ | .natural _ | .otherNumber | .string _ =>
      rw [tokens]
      exact .singleton _
  | .array items =>
      rw [tokens, List.cons_append]
      exact isChain_cons_mark id (isChain_append_mark id (apart_itemTokens items) .nil)
  | .object members =>
      rw [tokens, List.cons_append]
      exact isChain_cons_mark id (isChain_append_mark id (apart_memberTokens members) .nil)

theorem apart_itemTokens (items : List Json) : (itemTokens items).IsChain Token.Apart := by
  match items with
  | [] => exact .nil
  | [item] => exact apart_tokens item
  | item :: next :: items =>
      rw [itemTokens_cons_cons]
      exact isChain_append_mark id (apart_tokens item) (apart_itemTokens (next :: items))

theorem apart_memberTokens (members : List (List Piece × Json)) :
    (memberTokens members).IsChain Token.Apart := by
  match members with
  | [] => exact .nil
  | [(key, item)] =>
      exact isChain_cons_mark id (isChain_cons_mark id (apart_tokens item))
  | (key, item) :: next :: members =>
      rw [memberTokens_cons_cons]
      exact isChain_append_mark id (isChain_cons_mark id (isChain_cons_mark id (apart_tokens item)))
        (apart_memberTokens (next :: members))

end

/-! ## §3. Both ways of writing. -/

mutual

/-- The lines of a document hold its tokens. -/
theorem tokens_of_layout (depth : Nat) (d : Json) :
    (layout depth d).filterMap Layout.token? = d.tokens := by
  match d with
  | .null | .bool _ | .natural _ | .otherNumber | .string _ => rfl
  | .array [] => rfl
  | .object [] => rfl
  | .array (item :: items) =>
      have hitems := tokens_of_itemLayout (depth + 1) (item :: items)
      rw [layout, tokens, List.filterMap_append, List.filterMap_cons, hitems]
      rfl
  | .object (member :: members) =>
      have hmembers := tokens_of_memberLayout (depth + 1) (member :: members)
      rw [layout, tokens, List.filterMap_append, List.filterMap_cons, hmembers]
      rfl

theorem tokens_of_itemLayout (depth : Nat) (items : List Json) :
    (itemLayout depth items).filterMap Layout.token? = itemTokens items := by
  match items with
  | [] => rfl
  | [item] => exact tokens_of_layout depth item
  | item :: next :: items =>
      have hitem := tokens_of_layout depth item
      have hitems := tokens_of_itemLayout depth (next :: items)
      rw [itemLayout.eq_3 depth item (next :: items) (by simp), itemTokens_cons_cons,
        List.filterMap_append]
      show (layout depth item).filterMap Layout.token?
        ++ .comma :: (itemLayout depth (next :: items)).filterMap Layout.token? = _
      rw [hitem, hitems]

theorem tokens_of_memberLayout (depth : Nat) (members : List (List Piece × Json)) :
    (memberLayout depth members).filterMap Layout.token? = memberTokens members := by
  match members with
  | [] => rfl
  | [(key, item)] =>
      have hitem := tokens_of_layout depth item
      show .string key :: .colon :: (layout depth item).filterMap Layout.token? = _
      rw [hitem]
      rfl
  | (key, item) :: next :: members =>
      have hitem := tokens_of_layout depth item
      have hmembers := tokens_of_memberLayout depth (next :: members)
      rw [memberLayout.eq_3 depth (key, item) (next :: members) (by simp), memberTokens_cons_cons,
        List.filterMap_append]
      show .string key :: .colon :: (layout depth item).filterMap Layout.token?
        ++ .comma :: (memberLayout depth (next :: members)).filterMap Layout.token? = _
      rw [hitem, hmembers]
      rfl

end

/-- A document that can be written: its strings can stand between quotes. -/
def Proper (d : Json) : Prop := ∀ t ∈ d.tokens, t.Proper

/-- A text with the tokens of a document, and blanks anywhere between them, reads back as the
document. -/
theorem read_layout {d : Json} (h : d.Proper) {ls : List Layout}
    (hlayout : ls.filterMap Layout.token? = d.tokens) :
    read (String.ofList (ls.flatMap Layout.chars)) = some d := by
  have hlex : Token.lex (ls.flatMap Layout.chars) = some d.tokens := by
    rw [← hlayout]
    -- the tokens are those of a document, which are proper and stand apart
    refine lex_layout ?_ ?_
    · rw [hlayout]
      exact h
    · rw [hlayout]
      exact d.apart_tokens
  have hvalue := valueOf?_tokens d [] (d.tokens.length + 1) (Nat.le_succ _)
  rw [List.append_nil] at hvalue
  unfold read
  rw [String.toList_ofList, hlex]
  simp only [hvalue]

/-- **The text without any blank is read as the document.** -/
theorem read_compact {d : Json} (h : d.Proper) : read d.compact = some d := by
  have hlayout : (d.tokens.map Layout.token).filterMap Layout.token? = d.tokens := by
    rw [List.filterMap_map]
    exact List.filterMap_some
  have hread := read_layout h hlayout
  rw [List.flatMap_map] at hread
  exact hread

/-- **The text with one member or element a line is read as the document.** -/
theorem read_pretty {d : Json} (h : d.Proper) : read d.pretty = some d :=
  read_layout h (tokens_of_layout 0 d)

end FlowProcessor.Json
