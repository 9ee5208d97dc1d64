/-
  FlowProcessor.Settings — THE SETTINGS OF THE TOOLS.

  A settings file may give the file of the platform state, the rules queue, the devices searched
  by default and the log level; what it does not give has a default.  Any other key is refused.
-/
import FlowProcessor.Ident
import FlowProcessor.Toml

namespace FlowProcessor

/-- The settings shared by the tools. -/
structure Settings where
  /-- The file that holds the state of the platform. -/
  statePath : String
  /-- The rules queue to open. -/
  rulesQueue : String
  /-- The devices to search where none are asked for. -/
  searchDevices : List DeviceId
  logLevel : String
  deriving DecidableEq, Repr

namespace Settings

/-- The settings without a file. -/
def default : Settings := ⟨"nfm-platform.json", "/sample_external_ports", [.first, .second], "info"⟩

/-- An integer as a device. -/
def device? (n : Int) : Option DeviceId :=
  match n with
  | .ofNat m => if h : m < deviceCount then some ⟨m, h⟩ else none
  | .negSucc _ => none

/-- The settings with one of them given. -/
def set? (s : Settings) : String × TomlValue → Option Settings
  | ("platform_state", .text path) => some { s with statePath := path }
  | ("rules_queue", .text queue) => some { s with rulesQueue := queue }
  | ("search_devices", .integers items) =>
      (items.mapM device?).map fun devices => { s with searchDevices := devices }
  | ("log_level", .text level) => some { s with logLevel := level }
  | _ => none

/-- The settings that a file gives. -/
def read (text : String) : Option Settings := do
  let entries ← Toml.read text
  entries.foldlM set? default

end Settings

end FlowProcessor
