/-
  FlowProcessor.Ident — THE IDENTIFIERS OF A PLATFORM.

  Devices, groups and host destinations are small: their identifiers are bounded numbers and index
  the tables directly.  Domains, logical interfaces, ports and rule interfaces are numbered by the
  caller with arbitrary words; each has a type of its own, so that a port is never taken for a
  logical interface.
-/
import FlowProcessor.Numeral

namespace FlowProcessor

/-! ## §1. Bounded identifiers. -/

/-- How many devices a platform has at most. -/
abbrev deviceCount : Nat := 4

/-- How many load-balance groups a device has. -/
abbrev groupCount : Nat := 24

/-- How many host destinations a mask can name. -/
abbrev destCount : Nat := 32

/-- A flow processor card of the platform. -/
abbrev DeviceId : Type := Fin deviceCount

/-- The device that actions address unless they select another one. -/
def DeviceId.first : DeviceId := ⟨0, by decide⟩

/-- The device after the first. -/
def DeviceId.second : DeviceId := ⟨1, by decide⟩

/-- A load-balance group of a device. -/
abbrev GroupId : Type := Fin groupCount

/-- A receive destination (queue or core) of the host. -/
abbrev DestId : Type := Fin destCount

/-- The word as an identifier below `n`, refused in the name of its quantity when too large. -/
def bounded (quantity : Quantity) (n : Nat) (word : UInt32) : Except InputError (Fin n) :=
  if h : word.toNat < n then .ok ⟨word.toNat, h⟩
  else .error (.outOfRange quantity (Numeral.decimal word))

/-- The device of that number. -/
def DeviceId.ofWord (word : UInt32) : Except InputError DeviceId :=
  bounded .device deviceCount word

/-- The group of that number. -/
def GroupId.ofWord (word : UInt32) : Except InputError GroupId :=
  bounded .group groupCount word

/-- The host destination of that number. -/
def DestId.ofWord (word : UInt32) : Except InputError DestId :=
  bounded .destination destCount word

/-- Reads a device number. -/
def DeviceId.read (text : String) : Except InputError DeviceId :=
  Numeral.read text >>= DeviceId.ofWord

/-- Reads a group number. -/
def GroupId.read (text : String) : Except InputError GroupId :=
  Numeral.read text >>= GroupId.ofWord

/-- Reads a destination number. -/
def DestId.read (text : String) : Except InputError DestId :=
  Numeral.read text >>= DestId.ofWord

/-- A bounded identifier in decimal. -/
def idText {n : Nat} (i : Fin n) : String := i.val.repr

/-! ## §2. Identifiers chosen by the caller. -/

/-- A forwarding domain, a bridge or a router. -/
structure DomainId where
  word : UInt32
  deriving DecidableEq, Repr, Hashable

/-- A logical interface. -/
structure LifId where
  word : UInt32
  deriving DecidableEq, Repr, Hashable

/-- A physical port. -/
structure PortId where
  word : UInt32
  deriving DecidableEq, Repr, Hashable

/-- The interface a forwarding rule is bound to. -/
structure InterfaceId where
  word : UInt32
  deriving DecidableEq, Repr, Hashable

/-- The frame type of an interface, as a platform code. -/
structure FrameType where
  code : UInt32
  deriving DecidableEq, Repr, Hashable

/-- Ethernet II framing, which every interface starts with. -/
def FrameType.ethernetII : FrameType := ⟨0⟩

/-- Whether this is the framing every interface starts with. -/
def FrameType.isDefault (f : FrameType) : Bool := f == .ethernetII

/-- A domain in decimal. -/
def DomainId.text (d : DomainId) : String := Numeral.decimal d.word

/-- A logical interface in decimal. -/
def LifId.text (l : LifId) : String := Numeral.decimal l.word

/-- A port in decimal. -/
def PortId.text (p : PortId) : String := Numeral.decimal p.word

/-- A rule interface in decimal. -/
def InterfaceId.text (i : InterfaceId) : String := Numeral.decimal i.word

/-- A frame type in decimal. -/
def FrameType.text (f : FrameType) : String := Numeral.decimal f.code

/-- Reads a domain number. -/
def DomainId.read (text : String) : Except InputError DomainId :=
  (Numeral.read text).map DomainId.mk

/-- Reads a logical interface number. -/
def LifId.read (text : String) : Except InputError LifId := (Numeral.read text).map LifId.mk

/-- Reads a port number. -/
def PortId.read (text : String) : Except InputError PortId := (Numeral.read text).map PortId.mk

/-- Reads a rule interface number. -/
def InterfaceId.read (text : String) : Except InputError InterfaceId :=
  (Numeral.read text).map InterfaceId.mk

/-- Reads a frame type code. -/
def FrameType.read (text : String) : Except InputError FrameType :=
  (Numeral.read text).map FrameType.mk

/-! ## §3. Modes and kinds. -/

/-- How a domain forwards. -/
inductive DomainMode
  /-- Bridging. -/
  | l2
  /-- Routing. -/
  | l3
  deriving DecidableEq, Repr

/-- The mode as a progress line shows it. -/
def DomainMode.text : DomainMode → String
  | .l2 => "L2"
  | .l3 => "L3"

/-- The kind of interface a setting addresses. -/
inductive InterfaceKind
  | logical
  | physical
  deriving DecidableEq, Repr

end FlowProcessor
