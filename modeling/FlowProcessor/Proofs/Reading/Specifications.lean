/-
  FlowProcessor.Proofs.Reading.Specifications — WHICH INTERFACES ARE READ.

  An interface has two fields, or three with a tag in the middle.  It is read exactly if its port
  and its own number are words and its tag, if it has one, is at most 4094.  Of several fields that
  are refused the tag counts before the port and the port before the interface's own number.

    • `TagFault`                — why a tag is refused
    • `LifSpec.Parts`           — the fields of an interface
    • `LifFault`                — why an interface is refused
    • `LifSpec.spells_text`     — an interface is spelled by its numbers
    • `interface_reads_exactly` — the interfaces that texts are read as, and the errors of others
-/
import FlowProcessor.Proofs.Reading.Bitmasks
import FlowProcessor.Proofs.Reading.Interfaces

namespace FlowProcessor

open Numeral (Denotes)

/-! ## §1. Fields. -/

section Fields

variable {text : String} {error : InputError}

/-- Identifiers that are words are read like these. -/
theorem read_map_exactly {α : Type} {mk : UInt32 → α} {word : α → UInt32}
    (hmk : ∀ a, mk (word a) = a) (hword : ∀ w, word (mk w) = w) (text : String) :
    (∀ a, (Numeral.read text).map mk = .ok a ↔ Denotes text.toList (word a).toNat)
      ∧ ∀ error, (Numeral.read text).map mk = .error error ↔ NumberFault text error := by
  refine exactly_of_cases (fun a h => ?_) (fun error h => ?_) ?_
  · rw [Numeral.read_eq_ok_iff.mpr h]
    exact congrArg Except.ok (hmk a)
  · rw [read_of_fault h]
    rfl
  · exact (word_or_fault text).imp_left fun ⟨w, h⟩ => ⟨mk w, by rwa [hword]⟩

theorem PortId.read_exactly (text : String) :
    (∀ port, PortId.read text = .ok port ↔ Denotes text.toList port.word.toNat)
      ∧ ∀ error, PortId.read text = .error error ↔ NumberFault text error :=
  read_map_exactly (fun _ => rfl) (fun _ => rfl) text

theorem LifId.read_exactly (text : String) :
    (∀ lif, LifId.read text = .ok lif ↔ Denotes text.toList lif.word.toNat)
      ∧ ∀ error, LifId.read text = .error error ↔ NumberFault text error :=
  read_map_exactly (fun _ => rfl) (fun _ => rfl) text

/-- Why a tag is refused. -/
inductive TagFault (text : String) : InputError → Prop
  /-- It is no number, or one that does not fit in a word. -/
  | number {error : InputError} : NumberFault text error → TagFault text error
  /-- The number is beyond the tags. -/
  | noTag {n : Nat} : Denotes text.toList n → 4094 < n → n < 2 ^ 32 →
      TagFault text (.outOfRange .vlan n.repr)

namespace VlanTag

/-- The tags have the numbers up to 4094. -/
theorem exists_number {n : Nat} (h : n ≤ 4094) : ∃ tag : VlanTag, tag.number = n := by
  by_cases hzero : n = 0
  · exact ⟨.untagged, hzero.symm⟩
  · exact ⟨.tagged ⟨n, Nat.pos_of_ne_zero hzero, h⟩, rfl⟩

theorem number_le (tag : VlanTag) : tag.number ≤ 4094 := by
  cases tag with
  | untagged => decide
  | tagged vlan => exact vlan.le_limit

theorem ofNat_of_large {n : Nat} (h : 4094 < n) :
    ofNat n = .error (.outOfRange .vlan n.repr) := by
  unfold ofNat VlanId.ofNat
  rw [if_neg (by omega), dif_neg (by omega)]
  rfl

theorem read_of_fault (h : TagFault text error) : read text = .error error := by
  cases h with
  | number hfault =>
      rw [read, FlowProcessor.read_of_fault hfault]
      rfl
  | noTag hn hlarge hword =>
      rw [read, Numeral.read_of_denotes hn hword]
      refine Eq.trans ?_ (ofNat_of_large hlarge)
      exact congrArg ofNat (UInt32.toNat_ofNatLT ..)

/-- What a tag is read as, and why it is refused. -/
theorem read_exactly (text : String) :
    (∀ tag, read text = .ok tag ↔ Denotes text.toList tag.number)
      ∧ ∀ error, read text = .error error ↔ TagFault text error := by
  refine exactly_of_cases (fun _ => read_of_denotes) (fun _ => read_of_fault) ?_
  rcases word_or_fault text with ⟨word, hword⟩ | ⟨error, hfault⟩
  · by_cases hsmall : word.toNat ≤ 4094
    · obtain ⟨tag, htag⟩ := exists_number hsmall
      exact .inl ⟨tag, htag ▸ hword⟩
    · exact .inr ⟨_, .noTag hword (Nat.not_le.mp hsmall) word.toNat_lt⟩
  · exact .inr ⟨error, .number hfault⟩

end VlanTag

end Fields

/-! ## §2. Interfaces. -/

/-- The fields of an interface: its port, its tag if there is one, and its own number. -/
def LifSpec.Parts (text port : List Char) (tag : Option (List Char)) (lif : List Char) : Prop :=
  Cut ':' text (port :: (tag.toList ++ [lif]))

/-- Why an interface is refused. -/
inductive LifFault (text : String) : InputError → Prop
  /-- There are neither two fields nor three. -/
  | fields {fields : List (List Char)} : Cut ':' text.toList fields → fields.length ≠ 2 →
      fields.length ≠ 3 → LifFault text (.malformed text .notInterface)
  /-- The tag is refused. -/
  | tag {port tag lif : List Char} {error : InputError} :
      LifSpec.Parts text.toList port (some tag) lif → TagFault (String.ofList tag) error →
      LifFault text error
  /-- The port is refused, and the tag is not. -/
  | port {port lif : List Char} {tag : Option (List Char)} {error : InputError} :
      LifSpec.Parts text.toList port tag lif → (∀ field ∈ tag, ∃ n ≤ 4094, Denotes field n) →
      NumberFault (String.ofList port) error → LifFault text error
  /-- Only the number of the interface itself is refused. -/
  | lif {port lif : List Char} {tag : Option (List Char)} {error : InputError} :
      LifSpec.Parts text.toList port tag lif → (∀ field ∈ tag, ∃ n ≤ 4094, Denotes field n) →
      (∃ n ≤ 4294967295, Denotes port n) → NumberFault (String.ofList lif) error →
      LifFault text error

namespace LifSpec

variable {text : String} {port lif : List Char} {tag : Option (List Char)} {error : InputError}

/-- Reads the tag of an interface; without a field for it there is none. -/
def readTag : Option (List Char) → Except InputError VlanTag
  | none => .ok .untagged
  | some field => VlanTag.read (String.ofList field)

/-- The fields are read in an order of their own. -/
theorem read_of_parts (h : Parts text.toList port tag lif) :
    read text = (do
      let vlan ← readTag tag
      let port ← PortId.read (String.ofList port)
      let lif ← LifId.read (String.ofList lif)
      return ⟨port, vlan, lif⟩) := by
  unfold read
  rw [splitAt_eq_iff.mpr h]
  cases tag with
  | none => rfl
  | some field => rfl

/-- Tags up to 4094 are read, and so is the lack of one. -/
theorem exists_readTag (h : ∀ field ∈ tag, ∃ n ≤ 4094, Denotes field n) :
    ∃ vlan, readTag tag = .ok vlan := by
  cases tag with
  | none => exact ⟨.untagged, rfl⟩
  | some field =>
      obtain ⟨n, hn, hdenotes⟩ := h field rfl
      obtain ⟨vlan, rfl⟩ := VlanTag.exists_number hn
      exact ⟨vlan, VlanTag.read_of_denotes (by rwa [String.toList_ofList])⟩

theorem read_of_fault (h : LifFault text error) : read text = .error error := by
  cases h with
  | fields hcut htwo hthree =>
      unfold read
      rw [splitAt_eq_iff.mpr hcut]
      split
      · rename_i hfields
        exact absurd (by simpa using congrArg List.length hfields) htwo
      · rename_i hfields
        exact absurd (by simpa using congrArg List.length hfields) hthree
      · rfl
  | tag hparts hfault =>
      rw [read_of_parts hparts, readTag, VlanTag.read_of_fault hfault]
      rfl
  | port hparts htag hfault =>
      obtain ⟨vlan, hvlan⟩ := exists_readTag htag
      rw [read_of_parts hparts, hvlan, (PortId.read_exactly _).2 _ |>.mpr hfault]
      rfl
  | lif hparts htag hport hfault =>
      obtain ⟨vlan, hvlan⟩ := exists_readTag htag
      obtain ⟨n, hn, hdenotes⟩ := hport
      have hread := Numeral.read_of_denotes (by rwa [String.toList_ofList])
        (Nat.lt_succ_of_le hn)
      rw [read_of_parts hparts, hvlan, PortId.read, hread,
        (LifId.read_exactly _).2 _ |>.mpr hfault]
      rfl

/-- A text with fields of an interface in their ranges spells one. -/
theorem exists_spells (hparts : Parts text.toList port tag lif)
    (hport : ∃ n ≤ 4294967295, Denotes port n) (htag : ∀ field ∈ tag, ∃ n ≤ 4094, Denotes field n)
    (hlif : ∃ n ≤ 4294967295, Denotes lif n) : ∃ spec, Spells text.toList spec := by
  have hword : ∀ field, (∃ n ≤ 4294967295, Denotes field n) →
      ∃ word : UInt32, Denotes field word.toNat := by
    rintro field ⟨n, hn, hdenotes⟩
    refine ⟨UInt32.ofNatLT n (Nat.lt_succ_of_le hn), ?_⟩
    rwa [UInt32.toNat_ofNatLT]
  obtain ⟨p, hp⟩ := hword port hport
  obtain ⟨l, hl⟩ := hword lif hlif
  cases tag with
  | none => exact ⟨⟨⟨p⟩, .untagged, ⟨l⟩⟩, _, hparts, .two hp rfl hl⟩
  | some field =>
      obtain ⟨n, hn, hfield⟩ := htag field rfl
      obtain ⟨vlan, rfl⟩ := VlanTag.exists_number hn
      exact ⟨⟨⟨p⟩, vlan, ⟨l⟩⟩, _, hparts, .three hp hfield hl⟩

/-- A text that spells an interface has fields in their ranges. -/
theorem Spells.parts {spec : LifSpec} (h : Spells text.toList spec) :
    ∃ port tag lif, Parts text.toList port tag lif ∧ (∃ n ≤ 4294967295, Denotes port n)
      ∧ (∀ field ∈ tag, ∃ n ≤ 4094, Denotes field n) ∧ ∃ n ≤ 4294967295, Denotes lif n := by
  obtain ⟨fields, hcut, hfields⟩ := h
  cases hfields with
  | @two port lif hport _ hlif =>
      exact ⟨port, none, lif, hcut, ⟨_, Nat.le_of_lt_succ spec.port.word.toNat_lt, hport⟩,
        fun _ hnone => absurd hnone (by simp),
        ⟨_, Nat.le_of_lt_succ spec.lif.word.toNat_lt, hlif⟩⟩
  | @three port tag lif hport htag hlif =>
      refine ⟨port, some tag, lif, hcut, ⟨_, Nat.le_of_lt_succ spec.port.word.toNat_lt, hport⟩,
        fun field hfield => ?_, ⟨_, Nat.le_of_lt_succ spec.lif.word.toNat_lt, hlif⟩⟩
      obtain rfl := Option.some.inj hfield
      exact ⟨_, spec.vlan.number_le, htag⟩

/-- A text spells an interface, or there is something wrong with it. -/
theorem spells_or_fault (text : String) :
    (∃ spec, Spells text.toList spec) ∨ ∃ error, LifFault text error := by
  -- the fields are judged in the order in which they are read
  have hparts : ∀ port tag lif, Parts text.toList port tag lif →
      (∃ spec, Spells text.toList spec) ∨ ∃ error, LifFault text error := by
    intro port tag lif hparts
    have hport := word_or_fault (String.ofList port)
    have hlif := word_or_fault (String.ofList lif)
    rw [String.toList_ofList] at hport hlif
    by_cases htag : ∀ field ∈ tag, ∃ n ≤ 4094, Denotes field n
    · rcases hport with ⟨p, hp⟩ | ⟨error, hfault⟩
      · have hword : ∃ n ≤ 4294967295, Denotes port n := ⟨_, Nat.le_of_lt_succ p.toNat_lt, hp⟩
        rcases hlif with ⟨l, hl⟩ | ⟨error, hfault⟩
        · exact .inl (exists_spells hparts hword htag ⟨_, Nat.le_of_lt_succ l.toNat_lt, hl⟩)
        · exact .inr ⟨error, .lif hparts htag hword hfault⟩
      · exact .inr ⟨error, .port hparts htag hfault⟩
    · simp only [not_forall] at htag
      obtain ⟨field, rfl, hfield⟩ := htag
      obtain ⟨hread, hrefused⟩ := VlanTag.read_exactly (String.ofList field)
      cases hvlan : VlanTag.read (String.ofList field) with
      | ok vlan =>
          refine absurd ⟨_, vlan.number_le, ?_⟩ hfield
          have hdenotes := (hread vlan).mp hvlan
          rwa [String.toList_ofList] at hdenotes
      | error error => exact .inr ⟨error, .tag hparts ((hrefused error).mp hvlan)⟩
  match hfields : splitAt ':' text.toList with
  | [port, lif] => exact hparts port none lif (splitAt_eq_iff.mp hfields)
  | [port, tag, lif] => exact hparts port (some tag) lif (splitAt_eq_iff.mp hfields)
  | [] | [_] | _ :: _ :: _ :: _ :: _ =>
      exact .inr ⟨_, .fields (splitAt_eq_iff.mp hfields) (by simp) (by simp)⟩

/-- Fields of an interface spell it with colons between them, which are in none of them. -/
theorem Fields.spells {spec : LifSpec} {fields : List (List Char)} (h : spec.Fields fields) :
    Spells ([':'].intercalate fields) spec := by
  refine ⟨fields, ⟨?_, fun field hfield => ?_, rfl⟩, h⟩
  · rintro rfl
    cases h
  · obtain ⟨n, hn⟩ := h.denotes field hfield
    exact hn.not_mem rfl

/-- An interface is spelled by its numbers, which leave out the tag if there is none. -/
theorem spells_text (spec : LifSpec) :
    Spells (spec.port.text ++ ":" ++ spec.vlan.number.repr ++ ":" ++ spec.lif.text).toList spec
      ∧ (spec.vlan = .untagged →
        Spells (spec.port.text ++ ":" ++ spec.lif.text).toList spec) := by
  have hport : Denotes spec.port.text.toList spec.port.word.toNat := Numeral.denotes_repr _
  have hlif : Denotes spec.lif.text.toList spec.lif.word.toNat := Numeral.denotes_repr _
  have htag : Denotes spec.vlan.number.repr.toList spec.vlan.number := Numeral.denotes_repr _
  refine ⟨?_, fun huntagged => ?_⟩
  · have hspells := (Fields.three hport htag hlif).spells
    simpa [String.toList_append, List.intercalate_cons_cons] using hspells
  · have hspells := (Fields.two hport huntagged hlif).spells
    simpa [String.toList_append, List.intercalate_cons_cons] using hspells

end LifSpec

/-- What is refused for its size has a field that is a number and too large for its place. -/
theorem LifFault.tooLarge {text value : String} {quantity : Quantity}
    (h : LifFault text (.outOfRange quantity value)) :
    ∃ fields field n, Cut ':' text.toList fields ∧ field ∈ fields ∧ Denotes field n
      ∧ (4294967295 < n ∨ 4094 < n ∧ ∃ port lif, fields = [port, field, lif]) := by
  have hnumber : ∀ field, NumberFault (String.ofList field) (.outOfRange quantity value) →
      ∃ n, Denotes field n ∧ 4294967295 < n := by
    intro field hfault
    cases hfault with
    | tooLarge hn hlarge => exact ⟨_, by rwa [String.toList_ofList] at hn, hlarge⟩
  cases h with
  | @tag port tag lif _ hparts hfault =>
      cases hfault with
      | number hfault =>
          obtain ⟨n, hn, hlarge⟩ := hnumber tag hfault
          exact ⟨_, tag, n, hparts, by simp, hn, .inl hlarge⟩
      | noTag hn hlarge _ =>
          rw [String.toList_ofList] at hn
          exact ⟨_, tag, _, hparts, by simp, hn, .inr ⟨hlarge, port, lif, rfl⟩⟩
  | @port port lif tag _ hparts _ hfault =>
      obtain ⟨n, hn, hlarge⟩ := hnumber port hfault
      exact ⟨_, port, n, hparts, by simp, hn, .inl hlarge⟩
  | @lif port lif tag _ hparts _ _ hfault =>
      obtain ⟨n, hn, hlarge⟩ := hnumber lif hfault
      exact ⟨_, lif, n, hparts, by simp, hn, .inl hlarge⟩

/-- **An interface is read exactly if its text has two fields, or three, that denote words, the one
in the middle being at most 4094, and it has the numbers denoted, with no tag for two fields or a
zero.  Each interface is read from its own numbers, with a zero for no tag or without it.  All other
texts are refused as input, for the size of a number only if there is a field with a number that is
too large.** -/
theorem interface_reads_exactly (text : String) :
    ((∃ spec, LifSpec.read text = .ok spec) ↔ ∃ port tag lif,
        LifSpec.Parts text.toList port tag lif ∧ (∃ n ≤ 4294967295, Denotes port n)
          ∧ (∀ field ∈ tag, ∃ n ≤ 4094, Denotes field n) ∧ ∃ n ≤ 4294967295, Denotes lif n)
      ∧ (∀ spec, LifSpec.read text = .ok spec ↔ LifSpec.Spells text.toList spec)
      ∧ (∀ spec : LifSpec,
        LifSpec.read (spec.port.text ++ ":" ++ spec.vlan.number.repr ++ ":" ++ spec.lif.text)
            = .ok spec
          ∧ (spec.vlan = .untagged →
            LifSpec.read (spec.port.text ++ ":" ++ spec.lif.text) = .ok spec))
      ∧ (∀ error, LifSpec.read text = .error error ↔ LifFault text error)
      ∧ ∀ error, LifSpec.read text = .error error → (ToolError.input error).isInput = true
        ∧ (error.kind = .outOfRange → ∃ fields field n,
          Cut ':' text.toList fields ∧ field ∈ fields ∧ Denotes field n
            ∧ (4294967295 < n ∨ 4094 < n ∧ ∃ port lif, fields = [port, field, lif])) := by
  obtain ⟨hread, hrefused⟩ := exactly_of_cases (fun _ => LifSpec.Spells.read_eq)
    (fun _ => LifSpec.read_of_fault) (LifSpec.spells_or_fault text)
  refine ⟨⟨?_, ?_⟩, hread, fun spec => ⟨spec.spells_text.1.read_eq, fun huntagged =>
    (spec.spells_text.2 huntagged).read_eq⟩, hrefused, fun error herror => ⟨rfl, fun hkind => ?_⟩⟩
  · rintro ⟨spec, h⟩
    exact ((hread spec).mp h).parts
  · rintro ⟨port, tag, lif, hparts, hport, htag, hlif⟩
    obtain ⟨spec, hspells⟩ := LifSpec.exists_spells hparts hport htag hlif
    exact ⟨spec, hspells.read_eq⟩
  · cases error with
    | malformed part defect => cases hkind
    | outOfRange quantity value => exact ((hrefused _).mp herror).tooLarge

/-- An interface without a tag is read from two numbers; the reserved tag is refused for its size,
although the number after it is none. -/
theorem interface_reads_exactly_of_reserved_tag :
    LifSpec.read "11:1" = .ok (.untagged 11 1)
      ∧ LifSpec.read "0x9:4095:x" = .error (.outOfRange .vlan "4095")
      ∧ ∃ fields field n, Cut ':' "0x9:4095:x".toList fields ∧ field ∈ fields ∧ Denotes field n
        ∧ (4294967295 < n ∨ 4094 < n ∧ ∃ port lif, fields = [port, field, lif]) := by
  have hrefused : LifSpec.read "0x9:4095:x" = .error (.outOfRange .vlan "4095") := by
    decide +kernel
  obtain ⟨-, -, hwritten, -⟩ := interface_reads_exactly ""
  obtain ⟨-, -, -, -, hlarge⟩ := interface_reads_exactly "0x9:4095:x"
  exact ⟨(hwritten (.untagged 11 1)).2 rfl, hrefused, (hlarge _ hrefused).2 rfl⟩

end FlowProcessor
