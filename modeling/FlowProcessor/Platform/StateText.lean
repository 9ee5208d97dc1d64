/-
  FlowProcessor.Platform.StateText — THE STATE OF A PLATFORM AS A DOCUMENT.

  For every type of the state a writer `toJson` and a reader `ofJson?`.  The writers give every
  field; the readers also take documents that leave out what has a default: the rules of a device,
  the forwarding configuration, the frame type of an interface and everything optional.
-/
import FlowProcessor.Json.Field
import FlowProcessor.Platform.State

namespace FlowProcessor

/-! ## §1. Identifiers and sets. -/

/-- A bounded identifier as an integer. -/
def idToJson {n : Nat} (i : Fin n) : Json := .natural i.val

/-- A set as the integer of its flags. -/
def IdSet.toJson {n : Nat} (s : IdSet n) : Json := .ofWord s.bits

/-- A set from the integer of its flags. -/
def IdSet.ofJson? {n : Nat} (document : Json) : Option (IdSet n) := document.word?.map IdSet.mk

/-- A VLAN as its number. -/
def VlanId.toJson (vlan : VlanId) : Json := .natural vlan.number

/-- A VLAN from its number. -/
def VlanId.ofJson? (document : Json) : Option VlanId :=
  (document.below? 65536).bind fun number => (VlanId.ofNat number.val).toOption

/-- A tag as a name, or as an object with its VLAN. -/
def VlanTag.toJson : VlanTag → Json
  | .untagged => .ofText "untagged"
  | .tagged vlan => .ofFields [("c_vlan", vlan.toJson)]

/-- A tag from its name or from an object with its VLAN. -/
def VlanTag.ofJson? (document : Json) : Option VlanTag :=
  ((document.unit? "untagged").map fun _ => .untagged)
    <|> ((document.content? "c_vlan").bind VlanId.ofJson?).map .tagged

/-- A mode as its name. -/
def DomainMode.toJson : DomainMode → Json
  | .l2 => .ofText "l2"
  | .l3 => .ofText "l3"

/-- A mode from its name. -/
def DomainMode.ofJson? (document : Json) : Option DomainMode :=
  ((document.unit? "l2").map fun _ => .l2) <|> (document.unit? "l3").map fun _ => .l3

/-- An interface kind as its name. -/
def InterfaceKind.toJson : InterfaceKind → Json
  | .logical => .ofText "logical"
  | .physical => .ofText "physical"

/-- An interface kind from its name. -/
def InterfaceKind.ofJson? (document : Json) : Option InterfaceKind :=
  ((document.unit? "logical").map fun _ => .logical)
    <|> (document.unit? "physical").map fun _ => .physical

/-! ## §2. Devices. -/

/-- A binding as a record. -/
def Binding.toJson (b : Binding) : Json :=
  .ofFields [("id", .ofWord b.interface.word), ("care", .bool b.care)]

/-- A binding from a record. -/
def Binding.ofJson? (document : Json) : Option Binding := do
  match ← document.record? ["id", "care"] with
  | [id, care] => some ⟨⟨← id.required? Json.word?⟩, ← care.required? Json.bool?⟩
  | _ => none

/-- A rule as a record. -/
def Rule.toJson (r : Rule) : Json :=
  .ofFields [("name", .ofText r.name), ("priority", .ofWord r.priority),
    ("lgids", r.groups.toJson), ("addr_space", r.binding.toJson)]

/-- A rule from a record. -/
def Rule.ofJson? (document : Json) : Option Rule := do
  match ← document.record? ["name", "priority", "lgids", "addr_space"] with
  | [name, priority, groups, binding] =>
      some ⟨← name.required? Json.text?, ← priority.required? Json.word?,
        ← groups.required? IdSet.ofJson?, ← binding.required? Binding.ofJson?⟩
  | _ => none

/-- A group table as the array of its masks. -/
def GroupTable.toJson (t : GroupTable) : Json := .array (t.toList.map IdSet.toJson)

/-- A group table from the array of all its masks. -/
def GroupTable.ofJson? (document : Json) : Option GroupTable := do
  let masks ← document.list? IdSet.ofJson?
  if h : masks.length = groupCount then some ⟨masks.toArray, by simpa using h⟩ else none

/-- A device as a record. -/
def DeviceState.toJson (d : DeviceState) : Json :=
  .ofFields [("present", .bool d.present), ("groups", GroupTable.toJson d.groups),
    ("rules", .array (d.rules.map Rule.toJson))]

/-- A device from a record. -/
def DeviceState.ofJson? (document : Json) : Option DeviceState := do
  match ← document.record? ["present", "groups", "rules"] with
  | [present, groups, rules] =>
      some ⟨← present.required? Json.bool?, ← groups.required? GroupTable.ofJson?,
        ← rules.orElse? [] (Json.list? Rule.ofJson?)⟩
  | _ => none

/-! ## §3. Forwarding. -/

/-- An interface as a record. -/
def LifState.toJson (l : LifState) : Json :=
  .ofFields [("port", .ofWord l.port.word), ("vlan", l.vlan.toJson),
    ("addr_space", .ofOption .ofWord l.addressSpace),
    ("domain", .ofOption (fun domain => .ofWord domain.word) l.domain),
    ("mtu", .ofOption .ofWord l.mtu), ("frame_type", .ofWord l.frameType.code),
    ("l3ex_ratelim", .ofOption .ofWord l.rateLimit)]

/-- An interface from a record. -/
def LifState.ofJson? (document : Json) : Option LifState := do
  match ← document.record?
    ["port", "vlan", "addr_space", "domain", "mtu", "frame_type", "l3ex_ratelim"] with
  | [port, vlan, addressSpace, domain, mtu, frameType, rateLimit] =>
      some ⟨⟨← port.required? Json.word?⟩, ← vlan.required? VlanTag.ofJson?,
        ← addressSpace.optional? Json.word?,
        (← domain.optional? Json.word?).map DomainId.mk,
        ← mtu.optional? Json.word?,
        ⟨← frameType.orElse? FrameType.ethernetII.code Json.word?⟩,
        ← rateLimit.optional? Json.word?⟩
  | _ => none

/-- Forwarding tables as a record. -/
def ForwardingTables.toJson (t : ForwardingTables) : Json :=
  .ofFields [("domains", .ofEntries DomainMode.toJson t.domains.entries),
    ("lifs", .ofEntries LifState.toJson t.lifs.entries)]

/-- Forwarding tables from a record. -/
def ForwardingTables.ofJson? (document : Json) : Option ForwardingTables := do
  match ← document.record? ["domains", "lifs"] with
  | [domains, lifs] =>
      some ⟨Table.ofList (← domains.required? (Json.entries? DomainMode.ofJson?)),
        Table.ofList (← lifs.required? (Json.entries? LifState.ofJson?))⟩
  | _ => none

/-- A forwarding configuration as a record. -/
def ForwardingState.toJson (f : ForwardingState) : Json :=
  .ofFields [("active", f.active.toJson), ("commits", .ofWord f.commits)]

/-- A forwarding configuration from a record. -/
def ForwardingState.ofJson? (document : Json) : Option ForwardingState := do
  match ← document.record? ["active", "commits"] with
  | [active, commits] =>
      some ⟨← active.required? ForwardingTables.ofJson?, ← commits.required? Json.word?⟩
  | _ => none

/-! ## §4. The platform. -/

/-- A platform state as a record. -/
def PlatformState.toJson (s : PlatformState) : Json :=
  .ofFields [("devices", .array (s.devices.map DeviceState.toJson)),
    ("forwarding", s.forwarding.toJson)]

/-- A platform state from a record. -/
def PlatformState.ofJson? (document : Json) : Option PlatformState := do
  match ← document.record? ["devices", "forwarding"] with
  | [devices, forwarding] =>
      some ⟨← devices.required? (Json.list? DeviceState.ofJson?),
        ← forwarding.orElse? .initial ForwardingState.ofJson?⟩
  | _ => none

/-- The text of a state as it is kept in a file. -/
def PlatformState.text (s : PlatformState) : String := s.toJson.pretty

/-- The state a text describes. -/
def PlatformState.read (text : String) : Option PlatformState :=
  (Json.read text).bind PlatformState.ofJson?

end FlowProcessor
