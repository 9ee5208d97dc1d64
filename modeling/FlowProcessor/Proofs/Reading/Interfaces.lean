/-
  FlowProcessor.Proofs.Reading.Interfaces — HOW INTERFACES MAY BE WRITTEN.

  An interface is written in two or three fields between colons: its port, its tag if there is a
  third, and its own number.  No tag is also written as the tag 0.

    • `LifSpec.Fields`  — the fields that an interface is written in
    • `LifSpec.Spells`  — a text is made of such fields
    • `LifSpec.Spells.read_eq` — and is read as the interface
-/
import FlowProcessor.ForwardingPlan
import FlowProcessor.Proofs.Reading.Numbers
import FlowProcessor.Proofs.Reading.Pieces

namespace FlowProcessor

open Numeral (Denotes)

/-! ## §1. Tags. -/

namespace VlanTag

/-- A tag is told by its number. -/
theorem ofNat_number (tag : VlanTag) : ofNat tag.number = .ok tag := by
  cases tag with
  | untagged => rfl
  | tagged vlan =>
      have hne : vlan.number ≠ 0 := Nat.ne_of_gt vlan.positive
      unfold ofNat number VlanId.ofNat
      rw [if_neg hne, dif_pos ⟨vlan.positive, vlan.le_limit⟩]
      rfl

theorem number_lt (tag : VlanTag) : tag.number < UInt32.size := by
  cases tag with
  | untagged => decide
  | tagged vlan => exact Nat.lt_of_le_of_lt vlan.le_limit (by decide)

theorem read_of_denotes {tag : VlanTag} {text : String} (h : Denotes text.toList tag.number) :
    read text = .ok tag := by
  unfold read
  rw [Numeral.read_of_denotes h tag.number_lt]
  refine Eq.trans ?_ tag.ofNat_number
  exact congrArg ofNat (UInt32.toNat_ofNatLT ..)

end VlanTag

/-! ## §2. Interfaces. -/

namespace LifSpec

/-- The fields that an interface is written in: without a tag there may be two. -/
inductive Fields (spec : LifSpec) : List (List Char) → Prop
  | two {port lif : List Char} : Denotes port spec.port.word.toNat → spec.vlan = .untagged →
      Denotes lif spec.lif.word.toNat → Fields spec [port, lif]
  | three {port vlan lif : List Char} : Denotes port spec.port.word.toNat →
      Denotes vlan spec.vlan.number → Denotes lif spec.lif.word.toNat →
      Fields spec [port, vlan, lif]

/-- A text spells an interface in its fields. -/
def Spells (text : List Char) (spec : LifSpec) : Prop :=
  ∃ fields, Cut ':' text fields ∧ spec.Fields fields

variable {spec : LifSpec} {text : String}

/-- A text that spells an interface is read as this interface. -/
theorem Spells.read_eq (h : Spells text.toList spec) : read text = .ok spec := by
  obtain ⟨port, vlan, lif⟩ := spec
  have hport : ∀ field, Denotes field port.word.toNat →
      PortId.read (String.ofList field) = .ok port := by
    intro field hfield
    unfold PortId.read
    rw [Numeral.read_eq_ok_iff.mpr (by rwa [String.toList_ofList])]
    rfl
  have hvlan : ∀ field, Denotes field vlan.number →
      VlanTag.read (String.ofList field) = .ok vlan :=
    fun field hfield => VlanTag.read_of_denotes (by rwa [String.toList_ofList])
  have hlif : ∀ field, Denotes field lif.word.toNat →
      LifId.read (String.ofList field) = .ok lif := by
    intro field hfield
    unfold LifId.read
    rw [Numeral.read_eq_ok_iff.mpr (by rwa [String.toList_ofList])]
    rfl
  obtain ⟨fields, hcut, hfields⟩ := h
  unfold read
  rw [splitAt_eq_iff.mpr hcut]
  cases hfields with
  | two hp huntagged hl =>
      obtain rfl : vlan = .untagged := huntagged
      simp only [List.map_cons, List.map_nil, hport _ hp, hlif _ hl]
      rfl
  | three hp hv hl =>
      simp only [List.map_cons, List.map_nil, hport _ hp, hvlan _ hv, hlif _ hl]
      rfl

/-- The fields of an interface are numbers. -/
theorem Fields.denotes {fields : List (List Char)} (h : spec.Fields fields) :
    ∀ field ∈ fields, ∃ n, Denotes field n := by
  cases h with
  | two hp _ hl =>
      simp only [List.forall_mem_cons]
      exact ⟨⟨_, hp⟩, ⟨_, hl⟩, fun _ hnone => absurd hnone List.not_mem_nil⟩
  | three hp hv hl =>
      simp only [List.forall_mem_cons]
      exact ⟨⟨_, hp⟩, ⟨_, hv⟩, ⟨_, hl⟩, fun _ hnone => absurd hnone List.not_mem_nil⟩

/-- Nothing but digits and colons is in the text of an interface. -/
theorem Spells.not_mem {text : List Char} {c : Char} (h : Spells text spec) (hcolon : c ≠ ':')
    (hc : isNumberChar c = false) : c ∉ text := by
  obtain ⟨fields, hcut, hfields⟩ := h
  rw [← hcut.whole]
  intro hmem
  rcases mem_intercalate hmem with rfl | ⟨field, hfield, hin⟩
  · exact hcolon rfl
  · obtain ⟨n, hn⟩ := hfields.denotes field hfield
    exact hn.not_mem hc hin

end LifSpec

end FlowProcessor
