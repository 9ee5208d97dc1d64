/-
  FlowProcessor.Vlan — VLAN TAGS.

  A logical interface carries either the untagged frames of its port or those of one customer
  VLAN.  VLAN numbers run from 1 to 4094; as a plain number, 0 stands for untagged.
-/
import FlowProcessor.Ident

namespace FlowProcessor

/-- A VLAN number: neither 0, which means untagged, nor the reserved 4095. -/
structure VlanId where
  number : Nat
  positive : 1 ≤ number
  le_limit : number ≤ 4094
  deriving DecidableEq, Repr

/-- The VLAN of that number. -/
def VlanId.ofNat (number : Nat) : Except InputError VlanId :=
  if h : 1 ≤ number ∧ number ≤ 4094 then .ok ⟨number, h.1, h.2⟩
  else .error (.outOfRange .vlan number.repr)

/-- Which frames of its port a logical interface carries. -/
inductive VlanTag
  | untagged
  | tagged (vlan : VlanId)
  deriving DecidableEq, Repr

namespace VlanTag

/-- The tag of a number, 0 standing for untagged. -/
def ofNat (number : Nat) : Except InputError VlanTag :=
  if number = 0 then .ok .untagged else (VlanId.ofNat number).map .tagged

/-- The number of a tag, 0 standing for untagged. -/
def number : VlanTag → Nat
  | .untagged => 0
  | .tagged vlan => vlan.number

/-- Whether the frames carry a tag. -/
def isTagged : VlanTag → Bool
  | .untagged => false
  | .tagged _ => true

/-- Reads the number of a tag. -/
def read (text : String) : Except InputError VlanTag :=
  Numeral.read text >>= fun word => ofNat word.toNat

/-- The tag in words. -/
def text : VlanTag → String
  | .untagged => "untagged"
  | .tagged vlan => "vlan " ++ vlan.number.repr

end VlanTag

end FlowProcessor
