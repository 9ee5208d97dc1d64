/-
  FlowProcessor.Proofs.Json.Fields — VALUES AND RECORDS READ BACK.

  A way of writing is faithful to a reader if what is written can stand in a text, and the reader
  gets it back.  That goes for single values, and passes on to optional values, lists and numbered
  tables.  A record reads back because its fields have different names.

    • `Faithful`                                       — writers and readers that fit together
    • `faithful_ofText`, `faithful_ofWord`             — single values
    • `Faithful.option`, `Faithful.list`, `Faithful.entries` — what is made of other values
    • `record?_ofFields`                               — records
-/
import FlowProcessor.Json.Field
import FlowProcessor.Proofs.Json.Documents

namespace FlowProcessor.Json

/-- What is written can be read, and is read back as what it was written for. -/
structure Faithful {α : Type} (write : α → Json) (item? : Json → Option α) : Prop where
  proper : ∀ a, (write a).Proper
  reads : ∀ a, item? (write a) = some a

/-! ## §1. Values. -/

theorem proper_of_tokens {d : Json} {t : Token} (htokens : d.tokens = [t]) (h : t.Proper) :
    d.Proper := by
  intro u hu
  rw [htokens] at hu
  rw [List.mem_singleton.mp hu]
  exact h

theorem faithful_ofText : Faithful ofText text? where
  proper _ := proper_of_tokens rfl fun _ => Piece.proper_of_mem_encode
  reads text := by
    show (Piece.decode (Piece.encode text.toList)).map String.ofList = _
    rw [Piece.decode_encode, Option.map_some, String.ofList_toList]

theorem faithful_bool : Faithful .bool bool? where
  proper _ := proper_of_tokens rfl trivial
  reads _ := rfl

theorem proper_natural (value : Nat) : (Json.natural value).Proper :=
  proper_of_tokens rfl trivial

theorem below?_natural {bound value : Nat} (h : value < bound) :
    (Json.natural value).below? bound = some ⟨value, h⟩ := dif_pos h

theorem faithful_ofWord : Faithful ofWord word? where
  proper _ := proper_natural _
  reads word := by
    have hword : ofWord word = .natural word.toFin.val := rfl
    rw [word?, hword, below?_natural word.toFin.isLt]
    rfl

/-- A value that may be absent, if it is never written as `null`. -/
theorem Faithful.option {α : Type} {write : α → Json} {item? : Json → Option α}
    (h : Faithful write item?) (hnull : ∀ a, write a ≠ .null) :
    Faithful (ofOption write) (option? item?) where
  proper o := by
    cases o with
    | none => exact proper_of_tokens rfl trivial
    | some a => exact h.proper a
  reads o := by
    cases o with
    | none => rfl
    | some a =>
        rw [ofOption, option?.eq_2 item? _ (hnull a), h.reads]
        rfl

/-! ## §2. Lists. -/

section Lists

variable {α β γ : Type} {as : List α}

theorem mapM_map_eq_some {f : β → Option γ} {g : α → β} {result : α → γ}
    (h : ∀ a ∈ as, f (g a) = some (result a)) : (as.map g).mapM f = some (as.map result) := by
  induction as with
  | nil => rfl
  | cons a as ih =>
      obtain ⟨ha, has⟩ := List.forall_mem_cons.mp h
      rw [List.map_cons, List.mapM_cons, ha, ih has]
      rfl

/-- What is read back element by element is read back as a list. -/
theorem mapM_map_eq_self {f : β → Option α} {g : α → β} (h : ∀ a ∈ as, f (g a) = some a) :
    (as.map g).mapM f = some as := by
  have hmap : (as.map g).mapM f = some (as.map id) := mapM_map_eq_some h
  rwa [List.map_id] at hmap

end Lists

/-- The digits of a number stand for themselves. -/
theorem ofChar_of_isDigit {c : Char} (h : c.isDigit = true) : Piece.ofChar c = .plain c := by
  rcases Piece.ofChar_cases c with ⟨letter, -, hvalue⟩ | ⟨-, hlt⟩ | ⟨hplain, -⟩
  · -- no escape stands for a digit
    exfalso
    unfold Piece.shortValue? at hvalue
    split at hvalue
    all_goals cases hvalue
    all_goals exact absurd h (by decide)
  · -- nor is it a control character
    exfalso
    have hge : 48 ≤ c.toNat := by
      simp only [Char.isDigit, Bool.and_eq_true, decide_eq_true_eq] at h
      exact h.1
    omega
  · exact hplain

/-- The key of an entry is its number. -/
theorem key?_toDigits (word : UInt32) :
    key? (Piece.encode (Nat.toDigits 10 word.toNat)) = some word := by
  have hplain : Piece.encode (Nat.toDigits 10 word.toNat)
      = (Nat.toDigits 10 word.toNat).map Piece.plain :=
    List.map_congr_left fun c hc => ofChar_of_isDigit (Numeral.isDigit_of_mem_toDigits hc)
  have hdigits : Token.integer? (Nat.toDigits 10 word.toNat)
      = some (Nat.toDigits 10 word.toNat, []) := by
    have hend : Token.EndsNumber [] := fun c hc => by cases hc
    have hinteger := Token.integer?_toDigits hend word.toNat
    rwa [List.append_nil] at hinteger
  have hvalue : Numeral.Base.decimal.value (Nat.toDigits 10 word.toNat) = some word.toNat :=
    Numeral.Base.value_toDigits .decimal _
  unfold key?
  rw [hplain]
  refine Option.bind_eq_some_iff.mpr ⟨_, mapM_map_eq_self fun c _ => rfl, ?_⟩
  refine Option.bind_eq_some_iff.mpr ⟨_, hdigits, ?_⟩
  exact Option.bind_eq_some_iff.mpr ⟨_, hvalue, faithful_ofWord.reads word⟩

/-- Between the elements of an array there are commas only. -/
theorem proper_itemTokens {items : List Json} (h : ∀ item ∈ items, item.Proper) :
    ∀ t ∈ itemTokens items, t.Proper := by
  match items with
  | [] => exact fun t ht => by cases ht
  | [item] => exact h item List.mem_cons_self
  | item :: next :: items =>
      obtain ⟨hitem, hitems⟩ := List.forall_mem_cons.mp h
      rw [itemTokens_cons_cons]
      intro t ht
      rcases List.mem_append.mp ht with hfirst | hrest
      · exact hitem t hfirst
      · rcases List.mem_cons.mp hrest with rfl | hlater
        · trivial
        · exact proper_itemTokens hitems t hlater

theorem proper_array {items : List Json} (h : ∀ item ∈ items, item.Proper) :
    (Json.array items).Proper := by
  intro t ht
  rw [tokens, List.cons_append] at ht
  rcases List.mem_cons.mp ht with rfl | hinside
  · trivial
  · rcases List.mem_append.mp hinside with hitem | hclosing
    · exact proper_itemTokens h t hitem
    · rw [List.mem_singleton.mp hclosing]
      trivial

theorem proper_memberToken {member : List Piece × Json} (hkey : ∀ p ∈ member.1, p.Proper)
    (hvalue : member.2.Proper) : ∀ t ∈ memberToken member, t.Proper := by
  intro t ht
  rw [memberToken] at ht
  rcases List.mem_cons.mp ht with rfl | hrest
  · exact hkey
  · rcases List.mem_cons.mp hrest with rfl | hlater
    · trivial
    · exact hvalue t hlater

theorem proper_memberTokens {members : List (List Piece × Json)}
    (h : ∀ member ∈ members, (∀ p ∈ member.1, p.Proper) ∧ member.2.Proper) :
    ∀ t ∈ memberTokens members, t.Proper := by
  match members with
  | [] => exact fun t ht => by cases ht
  | [member] =>
      obtain ⟨hkey, hvalue⟩ := h member List.mem_cons_self
      exact proper_memberToken hkey hvalue
  | member :: next :: members =>
      obtain ⟨⟨hkey, hvalue⟩, hmembers⟩ := List.forall_mem_cons.mp h
      rw [memberTokens_cons_cons]
      intro t ht
      rcases List.mem_append.mp ht with hfirst | hrest
      · exact proper_memberToken hkey hvalue t hfirst
      · rcases List.mem_cons.mp hrest with rfl | hlater
        · trivial
        · exact proper_memberTokens hmembers t hlater

theorem proper_object {members : List (List Piece × Json)}
    (h : ∀ member ∈ members, (∀ p ∈ member.1, p.Proper) ∧ member.2.Proper) :
    (Json.object members).Proper := by
  intro t ht
  rw [tokens, List.cons_append] at ht
  rcases List.mem_cons.mp ht with rfl | hinside
  · trivial
  · rcases List.mem_append.mp hinside with hmember | hclosing
    · exact proper_memberTokens h t hmember
    · rw [List.mem_singleton.mp hclosing]
      trivial

/-- A list of values, as an array. -/
theorem Faithful.list {α : Type} {write : α → Json} {item? : Json → Option α}
    (h : Faithful write item?) : Faithful (fun as => .array (as.map write)) (list? item?) where
  proper as := by
    refine proper_array fun item hitem => ?_
    obtain ⟨a, -, rfl⟩ := List.mem_map.mp hitem
    exact h.proper a
  reads _ := mapM_map_eq_self fun a _ => h.reads a

/-- Numbered values, as an object. -/
theorem Faithful.entries {α : Type} {write : α → Json} {item? : Json → Option α}
    (h : Faithful write item?) : Faithful (ofEntries write) (entries? item?) where
  proper entries := by
    refine proper_object fun member hmember => ?_
    obtain ⟨entry, -, rfl⟩ := List.mem_map.mp hmember
    exact ⟨fun p => Piece.proper_of_mem_encode, h.proper entry.2⟩
  reads entries := by
    refine mapM_map_eq_self fun entry _ => ?_
    rw [key?_toDigits, h.reads]
    rfl

/-! ## §3. Records. -/

namespace Slot

variable {α : Type} {item? : Json → Option α} {d : Json}

@[simp] theorem required?_given : (given d).required? item? = item? d := rfl

@[simp] theorem required?_omitted : omitted.required? item? = none := rfl

@[simp] theorem optional?_given : (given d).optional? item? = d.option? item? := rfl

@[simp] theorem orElse?_given (default : α) : (given d).orElse? default item? = item? d := rfl

end Slot

/-- A field is the only one of its name. -/
theorem named_of_mem {fields : List (String × Json)} {field : String × Json}
    (hnames : (fields.map (·.1)).Nodup) (hmem : field ∈ fields) :
    named field.1 fields = [field.2] := by
  induction fields with
  | nil => cases hmem
  | cons first fields ih =>
      rw [List.map_cons, List.nodup_cons] at hnames
      obtain ⟨hfresh, hothers⟩ := hnames
      unfold named
      rw [List.filterMap_cons]
      -- the field is the first one, and no other has its name, or it is among the others
      rcases List.mem_cons.mp hmem with rfl | hmem
      · have hnone : named field.1 fields = [] := by
          refine List.filterMap_eq_nil_iff.mpr fun other hother => if_neg fun heq => ?_
          exact hfresh (List.mem_map.mpr ⟨other, hother, heq⟩)
        rw [if_pos rfl]
        exact congrArg (field.2 :: ·) hnone
      · have hne : first.1 ≠ field.1 := fun heq => hfresh (List.mem_map.mpr ⟨field, hmem, heq.symm⟩)
        rw [if_neg hne]
        exact ih hothers hmem

/-- A record says about each of its fields what it was given. -/
theorem record?_ofFields {names : List String} {fields : List (String × Json)}
    (hnames : names.Nodup) (hfields : fields.map (·.1) = names) :
    (ofFields fields).record? names = some (fields.map fun field => .given field.2) := by
  subst hfields
  have hmembers : members? (fields.map fun field => (Piece.encode field.1.toList, field.2))
      = some fields := by
    refine mapM_map_eq_self fun field _ => ?_
    rw [Piece.decode_encode, Option.map_some, String.ofList_toList]
  show (members? _).bind _ = _
  rw [hmembers]
  refine mapM_map_eq_some fun field hmem => ?_
  unfold Slot.ofMembers?
  rw [named_of_mem hnames hmem]

theorem proper_ofFields {fields : List (String × Json)} (h : ∀ field ∈ fields, field.2.Proper) :
    (ofFields fields).Proper := by
  refine proper_object fun member hmember => ?_
  obtain ⟨field, hmem, rfl⟩ := List.mem_map.mp hmember
  exact ⟨fun p => Piece.proper_of_mem_encode, h field hmem⟩

end FlowProcessor.Json
