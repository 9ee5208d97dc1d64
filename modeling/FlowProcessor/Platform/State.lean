/-
  FlowProcessor.Platform.State — WHAT A PLATFORM HOLDS.

  Up to four devices, each with 24 load-balance groups and a rule table, and one forwarding
  configuration for all of them: the committed tables and a count of the commits.
-/
import FlowProcessor.IdSet
import FlowProcessor.Table
import FlowProcessor.Vlan

namespace FlowProcessor

/-! ## §1. Devices. -/

/-- The destination sets of all load-balance groups of a device. -/
abbrev GroupTable : Type := Vector DestSet groupCount

/-- The group table in which every group is empty. -/
def GroupTable.empty : GroupTable := Vector.replicate groupCount IdSet.empty

/-- The interface a rule matches on. -/
structure Binding where
  interface : InterfaceId
  /-- False when the rule matches every interface. -/
  care : Bool
  deriving DecidableEq, Repr

/-- A forwarding rule. -/
structure Rule where
  name : String
  priority : UInt32
  /-- The load-balance groups the rule feeds. -/
  groups : GroupSet
  binding : Binding
  deriving DecidableEq, Repr

/-- A device: an absent one keeps its tables but refuses every call. -/
structure DeviceState where
  present : Bool
  groups : GroupTable
  /-- The rules in the order they were added. -/
  rules : List Rule
  deriving DecidableEq, Repr

/-- An installed device with empty tables. -/
def DeviceState.installed : DeviceState := ⟨true, .empty, []⟩

/-- A device that is not installed. -/
def DeviceState.absent : DeviceState := ⟨false, .empty, []⟩

/-! ## §2. Forwarding. -/

/-- The configuration of a logical interface. -/
structure LifState where
  port : PortId
  vlan : VlanTag
  addressSpace : Option UInt32
  domain : Option DomainId
  mtu : Option UInt32
  frameType : FrameType
  /-- The rate limit of the L3 exception path. -/
  rateLimit : Option UInt32
  deriving DecidableEq, Repr

/-- A logical interface that carries the given frames of a port and is otherwise unconfigured. -/
def LifState.bare (port : PortId) (vlan : VlanTag) : LifState :=
  ⟨port, vlan, none, none, none, .ethernetII, none⟩

/-- Domains and logical interfaces by number. -/
structure ForwardingTables where
  domains : Table DomainMode
  lifs : Table LifState
  deriving DecidableEq

namespace ForwardingTables

/-- Tables without domains and interfaces. -/
def empty : ForwardingTables := ⟨.empty, .empty⟩

/-- The configuration of an interface. -/
def lif? (t : ForwardingTables) (lif : LifId) : Option LifState := t.lifs.find? lif.word

/-- The interfaces attached to a domain, by ascending number. -/
def members (t : ForwardingTables) (domain : DomainId) : List LifId :=
  (t.lifs.entries.filter fun entry => entry.2.domain == some domain).map fun entry => ⟨entry.1⟩

end ForwardingTables

/-- The committed tables and how often there was a commit. -/
structure ForwardingState where
  active : ForwardingTables
  commits : UInt32
  deriving DecidableEq

/-- Empty tables, never committed. -/
def ForwardingState.initial : ForwardingState := ⟨.empty, 0⟩

/-! ## §3. The platform. -/

/-- Everything a platform holds. -/
structure PlatformState where
  devices : List DeviceState
  forwarding : ForwardingState
  deriving DecidableEq

namespace PlatformState

/-- Four installed devices with empty tables. -/
def initial : PlatformState := ⟨List.replicate deviceCount .installed, .initial⟩

/-- The device in a slot, if it is listed and installed. -/
def device? (s : PlatformState) (device : DeviceId) : Option DeviceState :=
  s.devices[device.val]?.filter (·.present)

/-- Changes the device in a slot, if it is listed. -/
def modifyDevice (s : PlatformState) (device : DeviceId) (f : DeviceState → DeviceState) :
    PlatformState :=
  { s with devices := s.devices.modify device.val f }

/-- Lists installed devices up to a slot, so that there is something in it. -/
def extendTo (s : PlatformState) (device : DeviceId) : PlatformState :=
  { s with devices := s.devices.rightpad (device.val + 1) .installed }

/-- The group table in a slot, installed or not; all groups are empty where nothing is listed. -/
def groupsOf (s : PlatformState) (device : DeviceId) : GroupTable :=
  match s.devices[device.val]? with
  | some d => d.groups
  | none => .empty

/-- Marks a device as installed or absent. -/
def setPresent (s : PlatformState) (device : DeviceId) (present : Bool) : PlatformState :=
  (s.extendTo device).modifyDevice device fun d => { d with present := present }

/-- Appends a rule to the rule table of a device. -/
def addRule (s : PlatformState) (device : DeviceId) (rule : Rule) : PlatformState :=
  (s.extendTo device).modifyDevice device fun d => { d with rules := d.rules ++ [rule] }

end PlatformState

end FlowProcessor
