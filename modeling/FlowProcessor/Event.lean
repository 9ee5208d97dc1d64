/-
  FlowProcessor.Event — WHAT THE TOOLS LOG.

  An event is a fact that is worth a line of a log.  Its severity decides whether the line is
  shown, its origin is the name by which a log filter addresses the part of the program it comes
  from, and its text is the line.

  A span is a stretch of a run.  A log filter addresses the events inside of it by its name, its
  origin and the texts of its details.  No span lies inside of another.
-/
import FlowProcessor.GroupCommand
import FlowProcessor.Platform.Call
import FlowProcessor.ToolError

namespace FlowProcessor

/-! ## §1. Severities. -/

/-- How grave an event is, gravest first. -/
inductive Severity
  | error
  | warn
  | info
  | debug
  | trace
  deriving DecidableEq, Repr

namespace Severity

/-- The verbosity from which on an event is shown. -/
def rank : Severity → Nat
  | .error => 1
  | .warn => 2
  | .info => 3
  | .debug => 4
  | .trace => 5

/-- The word that marks a line of a log. -/
def label : Severity → String
  | .error => "ERROR"
  | .warn => "WARN"
  | .info => "INFO"
  | .debug => "DEBUG"
  | .trace => "TRACE"

end Severity

/-! ## §2. Events. -/

/-- A fact worth a line of a log. -/
inductive Event
  /-- There is no state file yet. -/
  | stateMissing (path : String)
  | stateLoaded (path : String)
  | stateSaved (path : String)
  | platformOpened (path : String)
  | platformSaved (path : String)
  /-- The state could not be saved after a run that had failed already. -/
  | saveFailed (error : ToolError)
  | called (call : Call)
  | rulesOpened (device : DeviceId) (queue : String)
  | selected (device : DeviceId)
  | groupsCleared (device : DeviceId)
  | groupSet (device : DeviceId) (group : GroupId) (dests : DestSet)
  /-- An action failed after others had changed a device. -/
  | stopped (position count : Nat) (command : GroupCommand)
  | applied (count : Nat)
  | notHeld (device : DeviceId) (dest : DestId)
  /-- A destination is in several groups of a device. -/
  | heldTwice (device : DeviceId) (dest : DestId) (group : GroupId) (others : List GroupId)
  | ruleFeeds (rule : String) (group : GroupId) (interface : InterfaceId)
  | fed (dest : DestId) (interfaces : Nat)
  | abandoning
  | closeFailed (error : PlatformError)
  | configured (domain : DomainId) (interfaces : Nat)
  /-- A rate limit reads back differently from what was set. -/
  | limitDiffers (lif : LifId) (actual expected : UInt32)
  | searching (dest : DestId) (devices : List DeviceId)
  | finished (count : Nat)
  deriving DecidableEq, Repr

namespace Event

/-- How grave an event is. -/
def severity : Event → Severity
  | .saveFailed _ => .error
  | .stopped _ _ _ | .heldTwice _ _ _ _ | .closeFailed _ | .limitDiffers _ _ _ => .warn
  | .stateMissing _ | .groupsCleared _ | .groupSet _ _ _ | .fed _ _ | .configured _ _
  | .finished _ => .info
  | .stateLoaded _ | .stateSaved _ | .platformOpened _ | .platformSaved _ | .called _
  | .rulesOpened _ _ | .selected _ | .applied _ | .notHeld _ _ | .ruleFeeds _ _ _ | .abandoning
  | .searching _ _ => .debug

/-- The name by which a log filter addresses the origin of an event. -/
def origin : Event → String
  | .stateMissing _ | .stateLoaded _ | .stateSaved _ => "nfm_api::sim::persist"
  | .platformOpened _ | .platformSaved _ | .saveFailed _ => "nfm_tool_common::state"
  | .called _ => "nfm_api::sim"
  | .rulesOpened _ _ => "nfm_api::sim::rules"
  | .selected _ | .groupsCleared _ | .groupSet _ _ _ | .stopped _ _ _ | .applied _ =>
      "nfm_lbmgr::group_mgr"
  | .notHeld _ _ | .heldTwice _ _ _ _ | .ruleFeeds _ _ _ | .fed _ _ => "nfm_lbmgr::xref"
  | .abandoning | .closeFailed _ | .configured _ _ | .limitDiffers _ _ _ => "nfm_fwdmgr::fwd_mgr"
  | .searching _ _ => "nfm_get_ports"
  | .finished _ => "nfm_lb"

/-- Groups in the form of a log line. -/
def groupList (groups : List GroupId) : String :=
  "[" ++ ", ".intercalate (groups.map fun g => "GroupId(" ++ idText g ++ ")") ++ "]"

/-- Devices in the form of a log line. -/
def deviceList (devices : List DeviceId) : String :=
  "[" ++ ", ".intercalate (devices.map fun d => "DeviceId(" ++ idText d ++ ")") ++ "]"

/-- The names of the details that an event carries. -/
def details : Event → List String
  | .called _ => ["message", "op"]
  | .rulesOpened _ _ => ["message", "device", "queue_name"]
  | _ => ["message"]

/-- The line of an event. -/
def text : Event → String
  | .stateMissing path => "No platform state at " ++ path ++ ", starting empty"
  | .stateLoaded path => "Loaded platform state from " ++ path
  | .stateSaved path => "Saved platform state to " ++ path
  | .platformOpened path => "Platform state loaded from " ++ path
  | .platformSaved path => "Platform state saved to " ++ path
  | .saveFailed error => error.message
  | .called _ => "platform call"
  | .rulesOpened _ _ => "rules session opened"
  | .selected device => "Selecting NFE " ++ idText device
  | .groupsCleared device => "Cleared all load balance groups on NFE " ++ idText device
  | .groupSet device group dests =>
      "Set load balance group " ++ idText group ++ " to " ++ dests.text ++ " on NFE "
        ++ idText device
  | .stopped position count command =>
      "Stopped at action " ++ position.repr ++ " of " ++ count.repr ++ " (" ++ command.text
        ++ "); earlier changes remain in effect"
  | .applied count => "Applied " ++ count.repr ++ " actions"
  | .notHeld device dest =>
      "Host dest " ++ idText dest ++ " is in no load balance group on NFE " ++ idText device
  | .heldTwice device dest group others =>
      "Host dest " ++ idText dest ++ " is in several load balance groups on NFE "
        ++ idText device ++ "; using group " ++ idText group ++ ", ignoring " ++ groupList others
  | .ruleFeeds rule group interface =>
      "Rule " ++ rule ++ " feeds group " ++ idText group ++ " from interface " ++ interface.text
  | .fed dest interfaces =>
      "Host dest " ++ idText dest ++ " is fed by " ++ interfaces.repr ++ " interfaces"
  | .abandoning => "Closing forwarding configuration subsystem after error"
  | .closeFailed error =>
      "Error " ++ error.wordText ++ " closing forwarding: " ++ error.message
  | .configured domain interfaces =>
      "Domain " ++ domain.text ++ " configured with " ++ interfaces.repr ++ " interfaces"
  | .limitDiffers lif actual expected =>
      "lif" ++ lif.text ++ " rate limit reads back as " ++ Numeral.decimal actual
        ++ ", expected " ++ Numeral.decimal expected
  | .searching dest devices =>
      "Searching devices " ++ deviceList devices ++ " for host dest " ++ idText dest
  | .finished count => "nfm-lb applied " ++ count.repr ++ " actions"

end Event

/-! ## §3. Spans. -/

/-- A stretch of a run. -/
inductive Span
  /-- The search for a destination on a device. -/
  | searchDevice (dest : DestId) (device : DeviceId)
  | clearAll (device : DeviceId)
  | setGroup (device : DeviceId) (group : GroupId) (dests : DestSet)
  /-- A whole forwarding run. -/
  | apply (domain : DomainId) (mode : DomainMode)
  deriving DecidableEq, Repr

namespace Span

/-- The name by which a log filter addresses a span. -/
def name : Span → String
  | .searchDevice _ _ => "search_device"
  | .clearAll _ => "clear_all"
  | .setGroup _ _ _ => "set_group"
  | .apply _ _ => "apply"

/-- The name by which a log filter addresses the origin of a span. -/
def origin : Span → String
  | .searchDevice _ _ => "nfm_lbmgr::xref"
  | .clearAll _ | .setGroup _ _ _ => "nfm_lbmgr::group_mgr"
  | .apply _ _ => "nfm_fwdmgr::fwd_mgr"

/-- The details of a span, each with its text. -/
def details : Span → List (String × String)
  | .searchDevice dest device =>
      [("host_dest", "HostDestId(" ++ idText dest ++ ")"),
        ("device", "DeviceId(" ++ idText device ++ ")")]
  | .clearAll device => [("device", "DeviceId(" ++ idText device ++ ")")]
  | .setGroup device group dests =>
      [("device", "DeviceId(" ++ idText device ++ ")"),
        ("group", "GroupId(" ++ idText group ++ ")"), ("dests", dests.wordText)]
  | .apply domain mode => [("domain", domain.text), ("mode", mode.text)]

/-- How grave a span is; a log that does not reach so far takes no notice of it. -/
def severity (_ : Span) : Severity := .info

end Span

/-- An event with the span it is in. -/
structure LogEntry where
  span : Option Span
  event : Event
  deriving DecidableEq, Repr

/-- An event outside of every span. -/
def LogEntry.plain (event : Event) : LogEntry := ⟨none, event⟩

end FlowProcessor
