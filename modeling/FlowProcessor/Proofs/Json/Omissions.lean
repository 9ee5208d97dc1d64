/-
  FlowProcessor.Proofs.Json.Omissions — DOCUMENTS WITH MEMBERS LEFT OUT.

  A part of a document is told by the path that leads to it.  Any set of members may be left out of
  a document at once, at any depth; with a member goes all that is inside of it.  What a reader
  makes of the rest is judged part by part: a list or a table can be read if all its parts can, and
  each field of a record is there, with members of its own left out, or it is omitted.

    • `Path`, `Omission`              — parts of a document, and sets of members to leave out
    • `without`                       — the document without these members
    • `Omittable`                     — writers and readers that stand what is left out
    • `Omittable.list`                — lists of other values
    • `reads_entries`, `refuses_entries` — tables of them
    • `record?_without`               — records
-/
import FlowProcessor.Proofs.Json.Fields
import FlowProcessor.Table

namespace FlowProcessor.Json

/-! ## §1. Parts. -/

/-- A step from a document into one of its parts. -/
inductive Branch
  /-- To the member with that key. -/
  | member (key : List Piece)
  /-- To the element in that place. -/
  | item (index : Nat)
  deriving DecidableEq, Repr

/-- The member of a record. -/
def Branch.named (name : String) : Branch := .member (Piece.encode name.toList)

/-- The member of a numbered table. -/
def Branch.entry (key : UInt32) : Branch := .member (Piece.encode (Nat.toDigits 10 key.toNat))

/-- A part of a document, by the steps that lead to it. -/
abbrev Path : Type := List Branch

@[simp] theorem Branch.named_inj {name other : String} :
    named name = named other ↔ name = other := by
  refine ⟨fun h => ?_, congrArg named⟩
  have hdecode := congrArg Piece.decode (Branch.member.inj h)
  rw [Piece.decode_encode, Piece.decode_encode] at hdecode
  exact String.toList_inj.mp (Option.some.inj hdecode)

theorem Branch.entry_inj {key other : UInt32} (h : entry key = entry other) : key = other := by
  have hkey := congrArg key? (Branch.member.inj h)
  rw [key?_toDigits, key?_toDigits] at hkey
  exact Option.some.inj hkey

/-! ## §2. Leaving members out. -/

/-- The members that are left out of a document.  Paths to anything else leave nothing out. -/
abbrev Omission : Type := Path → Bool

/-- What is left out of a part. -/
def Omission.below (left : Omission) (branch : Branch) : Omission :=
  fun path => left (branch :: path)

/-- A member is left out of what remains: it is left out, and nothing that it is inside of. -/
def Omission.Omits (left : Omission) (path : Path) : Prop :=
  left path = true ∧ ∀ above, above <+: path → left above = true → above = path

mutual

/-- A document without the members that are left out. -/
def without (left : Omission) : Json → Json
  | .array items => .array (itemsWithout left 0 items)
  | .object members => .object (membersWithout left members)
  | document => document

/-- The elements of an array from some place on. -/
def itemsWithout (left : Omission) (index : Nat) : List Json → List Json
  | [] => []
  | item :: items =>
      without (left.below (.item index)) item :: itemsWithout left (index + 1) items

/-- The members of an object that remain. -/
def membersWithout (left : Omission) : List (List Piece × Json) → List (List Piece × Json)
  | [] => []
  | (key, value) :: members =>
      if left [.member key] then membersWithout left members
      else (key, without (left.below (.member key)) value) :: membersWithout left members

end

section Without

variable {left : Omission} {branch : Branch} {path : Path}

/-- A part goes with what it is inside of, and else by itself. -/
theorem Omission.Omits.below (h : left.Omits (branch :: path)) (hpath : path ≠ []) :
    left [branch] = false ∧ (left.below branch).Omits path := by
  obtain ⟨hleft, houter⟩ := h
  refine ⟨Bool.eq_false_iff.mpr fun hbranch => ?_, hleft, fun above hprefix habove => ?_⟩
  · have heq := houter [branch] (List.prefix_append [branch] path) hbranch
    exact hpath (List.cons.inj heq).2.symm
  · have heq := houter (branch :: above) ((List.prefix_cons_inj branch).mpr hprefix) habove
    exact (List.cons.inj heq).2

mutual

/-- A document has all its members if none of them is left out. -/
theorem without_of_none (left : Omission) (d : Json) (h : ∀ path ≠ [], left path = false) :
    d.without left = d := by
  match d with
  | .null | .bool _ | .natural _ | .otherNumber | .string _ => rfl
  | .array items => rw [without, itemsWithout_of_none left 0 items h]
  | .object members => rw [without, membersWithout_of_none left members h]

theorem itemsWithout_of_none (left : Omission) (index : Nat) (items : List Json)
    (h : ∀ path ≠ [], left path = false) : itemsWithout left index items = items := by
  match items with
  | [] => rfl
  | item :: items =>
      have hitem := without_of_none (left.below (.item index)) item
        fun path _ => h (.item index :: path) (List.cons_ne_nil _ _)
      rw [itemsWithout, hitem, itemsWithout_of_none left (index + 1) items h]

theorem membersWithout_of_none (left : Omission) (members : List (List Piece × Json))
    (h : ∀ path ≠ [], left path = false) : membersWithout left members = members := by
  match members with
  | [] => rfl
  | (key, value) :: members =>
      have hvalue := without_of_none (left.below (.member key)) value
        fun path _ => h (.member key :: path) (List.cons_ne_nil _ _)
      have hkept : ¬ left [.member key] = true := by
        rw [h [.member key] (List.cons_ne_nil _ _)]
        exact Bool.false_ne_true
      rw [membersWithout, if_neg hkept, hvalue, membersWithout_of_none left members h]

end

/-- The members that remain of those made from other values. -/
theorem membersWithout_map {α : Type} (key : α → List Piece) (value : α → Json) (as : List α) :
    membersWithout left (as.map fun a => (key a, value a))
      = (as.filter fun a => !left [.member (key a)]).map fun a =>
        (key a, (value a).without (left.below (.member (key a)))) := by
  induction as with
  | nil => rfl
  | cons a as ih =>
      rw [List.map_cons, membersWithout, ih, List.filter_cons]
      by_cases ha : left [.member (key a)] = true
      · rw [if_pos ha, if_neg (by simp [ha])]
      · rw [if_neg ha, if_pos (by simpa using ha)]
        rfl

/-! ## §3. Texts. -/

/-- The tokens of an element are tokens of its array. -/
theorem mem_itemTokens {item : Json} {items : List Json} {t : Token} (hitem : item ∈ items)
    (ht : t ∈ item.tokens) : t ∈ itemTokens items := by
  induction items with
  | nil => cases hitem
  | cons first items ih =>
      cases items with
      | nil =>
          rw [List.mem_singleton] at hitem
          exact hitem ▸ ht
      | cons next items =>
          rw [itemTokens_cons_cons, List.mem_append]
          rcases List.mem_cons.mp hitem with rfl | hlater
          · exact .inl ht
          · exact .inr (List.mem_cons_of_mem _ (ih hlater))

theorem mem_memberTokens {member : List Piece × Json} {members : List (List Piece × Json)}
    {t : Token} (hmember : member ∈ members) (ht : t ∈ memberToken member) :
    t ∈ memberTokens members := by
  induction members with
  | nil => cases hmember
  | cons first members ih =>
      cases members with
      | nil =>
          rw [List.mem_singleton] at hmember
          exact hmember ▸ ht
      | cons next members =>
          rw [memberTokens_cons_cons, List.mem_append]
          rcases List.mem_cons.mp hmember with rfl | hlater
          · exact .inl ht
          · exact .inr (List.mem_cons_of_mem _ (ih hlater))

theorem Proper.items {items : List Json} (h : (Json.array items).Proper) :
    ∀ item ∈ items, item.Proper := by
  intro item hitem t ht
  refine h t ?_
  rw [tokens, List.cons_append]
  exact List.mem_cons_of_mem _ (List.mem_append_left _ (mem_itemTokens hitem ht))

theorem Proper.members {members : List (List Piece × Json)} (h : (Json.object members).Proper) :
    ∀ member ∈ members, (∀ p ∈ member.1, p.Proper) ∧ member.2.Proper := by
  have hmember : ∀ member ∈ members, ∀ t ∈ memberToken member, t.Proper := by
    intro member hmember t ht
    refine h t ?_
    rw [tokens, List.cons_append]
    exact List.mem_cons_of_mem _ (List.mem_append_left _ (mem_memberTokens hmember ht))
  rintro ⟨key, value⟩ hmem
  exact ⟨hmember _ hmem (.string key) List.mem_cons_self, fun t ht =>
    hmember _ hmem t (List.mem_cons_of_mem _ (List.mem_cons_of_mem _ ht))⟩

mutual

/-- What remains of a document that can be written can be written. -/
theorem Proper.without {d : Json} (h : d.Proper) (left : Omission) : (d.without left).Proper := by
  match d with
  | .null | .bool _ | .natural _ | .otherNumber | .string _ => exact h
  | .array items => exact proper_array (proper_itemsWithout h.items left 0)
  | .object members => exact proper_object (proper_membersWithout h.members left)

theorem proper_itemsWithout {items : List Json} (h : ∀ item ∈ items, item.Proper)
    (left : Omission) (index : Nat) : ∀ item ∈ itemsWithout left index items, item.Proper := by
  match items with
  | [] => exact fun item hitem => by cases hitem
  | item :: items =>
      obtain ⟨hitem, hitems⟩ := List.forall_mem_cons.mp h
      rw [itemsWithout]
      exact List.forall_mem_cons.mpr ⟨hitem.without _, proper_itemsWithout hitems left (index + 1)⟩

theorem proper_membersWithout {members : List (List Piece × Json)}
    (h : ∀ member ∈ members, (∀ p ∈ member.1, p.Proper) ∧ member.2.Proper) (left : Omission) :
    ∀ member ∈ membersWithout left members, (∀ p ∈ member.1, p.Proper) ∧ member.2.Proper := by
  match members with
  | [] => exact fun member hmember => by cases hmember
  | (key, value) :: members =>
      obtain ⟨⟨hkey, hvalue⟩, hmembers⟩ := List.forall_mem_cons.mp h
      rw [membersWithout]
      split
      · exact proper_membersWithout hmembers left
      · exact List.forall_mem_cons.mpr
          ⟨⟨hkey, hvalue.without _⟩, proper_membersWithout hmembers left⟩

end

/-- A text has the tokens of a document, with blanks anywhere between them. -/
def WrittenAs (d : Json) (text : String) : Prop :=
  ∃ ls : List Layout, ls.filterMap Layout.token? = d.tokens
    ∧ text = String.ofList (ls.flatMap Layout.chars)

theorem writtenAs_compact (d : Json) : d.WrittenAs d.compact := by
  refine ⟨d.tokens.map Layout.token, ?_, ?_⟩
  · rw [List.filterMap_map]
    exact List.filterMap_some
  · rw [List.flatMap_map]
    rfl

theorem writtenAs_pretty (d : Json) : d.WrittenAs d.pretty :=
  ⟨d.layout 0, tokens_of_layout 0 d, rfl⟩

theorem WrittenAs.read_eq {d : Json} {text : String} (h : d.WrittenAs text) (hproper : d.Proper) :
    read text = some d := by
  obtain ⟨ls, hlayout, rfl⟩ := h
  exact read_layout hproper hlayout

end Without

/-! ## §4. Values. -/

/-- A member with a name of some kind. -/
def Own (P : String → Prop) (path : Path) : Prop := ∃ name, P name ∧ path = [.named name]

/-- A part that is inside of the member of that name. -/
def Under (name : String) (P : Path → Prop) (path : Path) : Prop :=
  ∃ rest, rest ≠ [] ∧ P rest ∧ path = .named name :: rest

@[simp] theorem own_cons {P : String → Prop} {name : String} {path : Path} :
    Own P (.named name :: path) ↔ P name ∧ path = [] := by
  constructor
  · rintro ⟨other, hother, heq⟩
    obtain ⟨hbranch, hpath⟩ := List.cons.inj heq
    obtain rfl := Branch.named_inj.mp hbranch
    exact ⟨hother, hpath⟩
  · rintro ⟨hname, rfl⟩
    exact ⟨name, hname, rfl⟩

@[simp] theorem under_cons {P : Path → Prop} {name other : String} {path : Path} :
    Under name P (.named other :: path) ↔ name = other ∧ path ≠ [] ∧ P path := by
  constructor
  · rintro ⟨rest, hrest, hP, heq⟩
    obtain ⟨hbranch, rfl⟩ := List.cons.inj heq
    exact ⟨(Branch.named_inj.mp hbranch).symm, hrest, hP⟩
  · rintro ⟨rfl, hpath, hP⟩
    exact ⟨path, hpath, hP, rfl⟩

section Values

variable {α : Type} {write : α → Json} {item? : Json → Option α}
  {dispensable required : α → Path → Prop} {left : Omission}

/-- A part of an element. -/
def InItem (P : α → Path → Prop) (as : List α) (path : Path) : Prop :=
  ∃ i a rest, rest ≠ [] ∧ as[i]? = some a ∧ P a rest ∧ path = .item i :: rest

/-- A part of an entry. -/
def InEntry (P : α → Path → Prop) (t : Table α) (path : Path) : Prop :=
  ∃ key a rest, rest ≠ [] ∧ t.find? key = some a ∧ P a rest ∧ path = .entry key :: rest

/-- A value is read as it is when no members but those with defaults are left out, and not at all
when one of those is that have to be there. -/
structure Omittable (write : α → Json) (item? : Json → Option α)
    (dispensable required : α → Path → Prop) : Prop where
  reads : ∀ a (left : Omission), (∀ path ≠ [], left path = true → dispensable a path) →
    item? ((write a).without left) = some a
  refuses : ∀ a (left : Omission) path, required a path → left.Omits path →
    item? ((write a).without left) = none

/-- Nothing is left out of a value without members that may be. -/
theorem Faithful.reads_without (h : Faithful write item?) (a : α)
    (hleft : ∀ path ≠ [], ¬ left path = true) : item? ((write a).without left) = some a := by
  rw [without_of_none _ _ fun path hpath => Bool.eq_false_iff.mpr (hleft path hpath), h.reads]

/-- A value without members that are told apart. -/
theorem Faithful.omittable (h : Faithful write item?) :
    Omittable write item? (fun _ _ => False) fun _ _ => False where
  reads a _ := h.reads_without a
  refuses _ _ _ := False.elim

theorem mapM_eq_none {β γ : Type} {f : β → Option γ} {bs : List β} {b : β} (hb : b ∈ bs)
    (h : f b = none) : bs.mapM f = none := by
  induction bs with
  | nil => cases hb
  | cons first bs ih =>
      rw [List.mapM_cons]
      rcases List.mem_cons.mp hb with rfl | hlater
      · rw [h]
        rfl
      · rw [ih hlater]
        cases f first with
        | none => rfl
        | some c => rfl

/-- Elements that are read each for itself. -/
theorem mapM_itemsWithout {as : List α} {index : Nat}
    (h : ∀ j a, as[j]? = some a →
      item? ((write a).without (left.below (.item (index + j)))) = some a) :
    (itemsWithout left index (as.map write)).mapM item? = some as := by
  induction as generalizing index with
  | nil => rfl
  | cons a as ih =>
      have hrest : (itemsWithout left (index + 1) (as.map write)).mapM item? = some as := by
        refine ih fun j b hb => ?_
        have hread := h (j + 1) b hb
        rwa [Nat.add_comm j 1, ← Nat.add_assoc] at hread
      have hfirst := h 0 a rfl
      rw [Nat.add_zero] at hfirst
      rw [List.map_cons, itemsWithout, List.mapM_cons, hfirst, hrest]
      rfl

theorem mem_itemsWithout {as : List α} {j : Nat} {a : α} (index : Nat) (ha : as[j]? = some a) :
    (write a).without (left.below (.item (index + j)))
      ∈ itemsWithout left index (as.map write) := by
  induction as generalizing index j with
  | nil => cases ha
  | cons first as ih =>
      rw [List.map_cons, itemsWithout]
      cases j with
      | zero =>
          obtain rfl := Option.some.inj ha
          exact List.mem_cons_self
      | succ j =>
          have hmem := ih (index + 1) ha
          rw [Nat.add_assoc, Nat.add_comm 1 j] at hmem
          exact List.mem_cons_of_mem _ hmem

/-- A list is read if its elements are. -/
theorem Omittable.list (h : Omittable write item? dispensable required) :
    Omittable (fun as => .array (as.map write)) (list? item?) (InItem dispensable)
      (InItem required) where
  reads as left hleft := by
    refine mapM_itemsWithout fun i a ha => h.reads a _ fun path hpath hpresent => ?_
    rw [Nat.zero_add] at hpresent
    obtain ⟨j, b, rest, -, hb, hdispensable, heq⟩ := hleft _ (List.cons_ne_nil _ _) hpresent
    obtain ⟨hitem, rfl⟩ := List.cons.inj heq
    obtain rfl := Branch.item.inj hitem
    obtain rfl := Option.some.inj (ha.symm.trans hb)
    exact hdispensable
  refuses as left path := by
    rintro ⟨i, a, rest, hrest, ha, hrequired, rfl⟩ homits
    have hnone := h.refuses a _ rest hrequired (homits.below hrest).2
    refine mapM_eq_none (mem_itemsWithout 0 ha) ?_
    rwa [Nat.zero_add]

/-- The entries of a table that remain. -/
theorem without_ofEntries (entries : List (UInt32 × α)) :
    (ofEntries write entries).without left
      = .object ((entries.filter fun entry => !left [.entry entry.1]).map fun entry =>
        (Piece.encode (Nat.toDigits 10 entry.1.toNat),
          (write entry.2).without (left.below (.entry entry.1)))) := by
  rw [ofEntries, without, membersWithout_map]
  rfl

/-- The entries of a table are read if each of their values is. -/
theorem Omittable.reads_entries (h : Omittable write item? dispensable required) (t : Table α)
    (left : Omission) (hleft : ∀ path ≠ [], left path = true → InEntry dispensable t path) :
    entries? item? ((ofEntries write t.entries).without left) = some t.entries := by
  have hentry : ∀ entry ∈ t.entries, left [.entry entry.1] = false := by
    intro entry _
    refine Bool.eq_false_iff.mpr fun hpresent => ?_
    obtain ⟨key, a, rest, hrest, -, -, heq⟩ := hleft _ (List.cons_ne_nil _ _) hpresent
    exact hrest (List.cons.inj heq).2.symm
  rw [without_ofEntries, List.filter_eq_self.mpr fun entry hmem => by rw [hentry entry hmem]; rfl]
  refine mapM_map_eq_self fun entry hmem => ?_
  have hfind : t.find? entry.1 = some entry.2 := Table.mem_entries_iff.mp hmem
  have hread := h.reads entry.2 (left.below (.entry entry.1)) fun path hpath hpresent => by
    obtain ⟨key, a, rest, -, ha, hdispensable, heq⟩ := hleft _ (List.cons_ne_nil _ _) hpresent
    obtain ⟨hkey, rfl⟩ := List.cons.inj heq
    obtain rfl := Branch.entry_inj hkey
    obtain rfl := Option.some.inj (hfind.symm.trans ha)
    exact hdispensable
  rw [key?_toDigits, hread]
  rfl

theorem Omittable.refuses_entries (h : Omittable write item? dispensable required) {t : Table α}
    {path : Path} (hpath : InEntry required t path) (homits : left.Omits path) :
    entries? item? ((ofEntries write t.entries).without left) = none := by
  obtain ⟨key, a, rest, hrest, ha, hrequired, rfl⟩ := hpath
  obtain ⟨hkept, hinside⟩ := homits.below hrest
  have hmem : (key, a) ∈ t.entries.filter fun entry => !left [.entry entry.1] :=
    List.mem_filter.mpr ⟨Table.mem_entries_iff.mpr ha, by rw [hkept]; rfl⟩
  rw [without_ofEntries]
  refine mapM_eq_none (List.mem_map_of_mem hmem) ?_
  rw [h.refuses a _ rest hrequired hinside]
  cases key? (Piece.encode (Nat.toDigits 10 key.toNat)) with
  | none => rfl
  | some key => rfl

end Values

/-! ## §5. Records. -/

section Records

variable {left : Omission} {name : String} {d : Json}

/-- What is said of a field when members are left out. -/
def Slot.kept (left : Omission) (field : String × Json) : Slot :=
  if left [.named field.1] then .omitted
  else .given (field.2.without (left.below (.named field.1)))

theorem Slot.kept_of_left (h : left [.named name] = true) : kept left (name, d) = .omitted :=
  if_pos h

theorem Slot.kept_of_not_left (h : left [.named name] = false) :
    kept left (name, d) = .given (d.without (left.below (.named name))) := by
  unfold kept
  rw [if_neg (by simp [h])]

section Fields

variable {α : Type} {item? : Json → Option α}

/-- An optional value is one whose default is to be absent. -/
theorem Slot.optional?_kept (field : String × Json) :
    (kept left field).optional? item? = (kept left field).orElse? none (option? item?) := by
  unfold kept
  split
  · rfl
  · rfl

variable {write : α → Json} {dispensable required : α → Path → Prop} {a : α}

/-- A field with a default is left out if it has this value. -/
theorem Omittable.orElse?_kept (h : Omittable write item? dispensable required) (default : α)
    (hdefault : left [.named name] = true → a = default)
    (hinside : ∀ path ≠ [], left (.named name :: path) = true → dispensable a path) :
    (Slot.kept left (name, write a)).orElse? default item? = some a := by
  cases hleft : left [.named name] with
  | true =>
      rw [Slot.kept_of_left hleft, hdefault hleft]
      rfl
  | false =>
      rw [Slot.kept_of_not_left hleft]
      exact h.reads a _ hinside

/-- A field that has to be there is. -/
theorem Omittable.required?_kept (h : Omittable write item? dispensable required)
    (hkept : ¬ left [.named name] = true)
    (hinside : ∀ path ≠ [], left (.named name :: path) = true → dispensable a path) :
    (Slot.kept left (name, write a)).required? item? = some a := by
  rw [Slot.kept_of_not_left (Bool.eq_false_iff.mpr hkept)]
  exact h.reads a _ hinside

end Fields

/-- A record says about each of its fields that it is omitted, or what remains of it. -/
theorem record?_without {names : List String} {fields : List (String × Json)}
    (hnames : names.Nodup) (hfields : fields.map (·.1) = names) :
    ((ofFields fields).without left).record? names = some (fields.map (Slot.kept left)) := by
  subst hfields
  obtain ⟨kept, hkept⟩ : ∃ kept, kept = (fields.filter fun field => !left [.named field.1]).map
      fun field => (field.1, field.2.without (left.below (.named field.1))) := ⟨_, rfl⟩
  have hwithout : (ofFields fields).without left = ofFields kept := by
    rw [ofFields, without, membersWithout_map, hkept, ofFields, List.map_map]
    rfl
  have hmembers : members? (kept.map fun field => (Piece.encode field.1.toList, field.2))
      = some kept := by
    refine mapM_map_eq_self fun field _ => ?_
    rw [Piece.decode_encode, Option.map_some, String.ofList_toList]
  have hdistinct : (kept.map (·.1)).Nodup := by
    rw [hkept, List.map_map]
    exact hnames.sublist (List.filter_sublist.map _)
  rw [hwithout]
  show (members? _).bind _ = _
  rw [hmembers]
  refine mapM_map_eq_some fun field hmem => ?_
  unfold Slot.ofMembers?
  cases hleft : left [.named field.1] with
  | true =>
      -- no field of this name is among those that remain
      have hnone : named field.1 kept = [] := by
        refine List.filterMap_eq_nil_iff.mpr fun other hother => if_neg fun heq => ?_
        rw [hkept] at hother
        obtain ⟨source, hsource, rfl⟩ := List.mem_map.mp hother
        have hnot := (List.mem_filter.mp hsource).2
        rw [show source.1 = field.1 from heq, hleft] at hnot
        cases hnot
      rw [hnone, show field = (field.1, field.2) from rfl, Slot.kept_of_left hleft]
  | false =>
      have hmem' : (field.1, field.2.without (left.below (.named field.1))) ∈ kept := by
        rw [hkept]
        exact List.mem_map.mpr ⟨field, List.mem_filter.mpr ⟨hmem, by rw [hleft]; rfl⟩, rfl⟩
      rw [named_of_mem hdistinct hmem', show field = (field.1, field.2) from rfl,
        Slot.kept_of_not_left hleft]

end Records

end FlowProcessor.Json
