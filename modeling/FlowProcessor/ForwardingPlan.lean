/-
  FlowProcessor.ForwardingPlan — WHAT A FORWARDING RUN IS TO ACHIEVE.

  A plan names a domain, the logical interfaces attached to it, and the tuning of all of them.
  `ForwardingPlan.steps` is the one sequence of steps that carries it out: everything structural
  before the commit, the tuning after it.
-/
import FlowProcessor.Destinations
import FlowProcessor.Platform.Forwarding
import FlowProcessor.ToolError

namespace FlowProcessor

/-! ## §1. Interfaces. -/

/-- A logical interface to create: `<phy>:[<vlan>:]<lif>` on the command line. -/
structure LifSpec where
  port : PortId
  vlan : VlanTag
  lif : LifId
  deriving DecidableEq, Repr

namespace LifSpec

/-- Reads an interface.  A bad tag counts before a bad port, a bad port before a bad interface. -/
def read (text : String) : Except InputError LifSpec :=
  match (splitAt ':' text.toList).map String.ofList with
  | [port, lif] => do
      let port ← PortId.read port
      let lif ← LifId.read lif
      return ⟨port, .untagged, lif⟩
  | [port, vlan, lif] => do
      let vlan ← VlanTag.read vlan
      let port ← PortId.read port
      let lif ← LifId.read lif
      return ⟨port, vlan, lif⟩
  | _ => .error (.malformed text .notInterface)

/-- The interface without a tag. -/
def untagged (port lif : UInt32) : LifSpec := ⟨⟨port⟩, .untagged, ⟨lif⟩⟩

end LifSpec

/-! ## §2. Plans. -/

/-- Everything a forwarding run applies. -/
structure ForwardingPlan where
  domain : DomainId
  mode : DomainMode
  /-- Whether existing domains and interfaces are removed first. -/
  clear : Bool
  /-- The interfaces in the order they are configured. -/
  interfaces : List LifSpec
  mtu : Option UInt32
  frameType : FrameType
  /-- The rate limit to set and verify. -/
  rateLimit : Option UInt32
  deriving DecidableEq, Repr

namespace ForwardingPlan

/-- The plan for some interfaces, of which there has to be one at least. -/
def ofInterfaces (domain : DomainId) (mode : DomainMode) (interfaces : List LifSpec) :
    Except ToolError ForwardingPlan :=
  if interfaces.isEmpty then .error (.usage .noInterfaces)
  else .ok ⟨domain, mode, true, interfaces, none, .ethernetII, none⟩

/-- The ports of the four-port card in slot B and the interfaces they become. -/
def slotBPorts : List LifSpec :=
  [.untagged 11 1, .untagged 10 2, .untagged 9 3, .untagged 8 4]

/-- The rate limit of the interfaces of the four-port card. -/
def slotBRateLimit : UInt32 := 20

/-- The plan for the four-port card in slot B. -/
def slotB (domain : DomainId) (mode : DomainMode) : ForwardingPlan :=
  ⟨domain, mode, true, slotBPorts, none, .ethernetII, some slotBRateLimit⟩

/-- The plan that keeps what exists. -/
def keeping (plan : ForwardingPlan) : ForwardingPlan := { plan with clear := false }

/-- The plan with an MTU; zero stands for none. -/
def withMtu (plan : ForwardingPlan) (mtu : UInt32) : ForwardingPlan :=
  { plan with mtu := if mtu = 0 then none else some mtu }

/-- The plan with a frame type. -/
def withFrameType (plan : ForwardingPlan) (frameType : FrameType) : ForwardingPlan :=
  { plan with frameType := frameType }

/-- Whether anything is applied after the commit. -/
def hasTuning (plan : ForwardingPlan) : Bool :=
  plan.mtu.isSome || !plan.frameType.isDefault || plan.rateLimit.isSome

end ForwardingPlan

/-! ## §3. Steps. -/

/-- One step of a forwarding run. -/
inductive Step
  | clear
  | createDomain
  | configure (spec : LifSpec)
  | assign (lif : LifId)
  | attach (lif : LifId)
  | commit
  | setMtu (lif : LifId) (mtu : UInt32)
  | setFrameType (lif : LifId) (frameType : FrameType)
  | setRateLimit (lif : LifId) (limit : UInt32)
  /-- Read a rate limit back and compare it with the one that was set. -/
  | checkRateLimit (lif : LifId) (limit : UInt32)
  /-- All tuning of an interface is done. -/
  | tuned (lif : LifId)
  deriving DecidableEq, Repr

namespace ForwardingPlan

/-- The steps that stage an interface. -/
def staging (spec : LifSpec) : List Step :=
  [.configure spec, .assign spec.lif, .attach spec.lif]

/-- The steps that tune an interface. -/
def tuning (plan : ForwardingPlan) (lif : LifId) : List Step :=
  (plan.mtu.toList.map (.setMtu lif))
    ++ (if plan.frameType.isDefault then [] else [.setFrameType lif plan.frameType])
    ++ (plan.rateLimit.toList.flatMap fun limit => [.setRateLimit lif limit, .checkRateLimit lif limit])
    ++ (if plan.hasTuning then [.tuned lif] else [])

/-- The steps that carry out a plan, in order. -/
def steps (plan : ForwardingPlan) : List Step :=
  (if plan.clear then [.clear] else [])
    ++ [.createDomain]
    ++ plan.interfaces.flatMap staging
    ++ [.commit]
    ++ plan.interfaces.flatMap fun spec => plan.tuning spec.lif

end ForwardingPlan

end FlowProcessor
