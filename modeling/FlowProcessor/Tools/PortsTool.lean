/-
  FlowProcessor.Tools.PortsTool — THE CROSS-REFERENCE TOOL.

  Reads the platform and prints which interfaces feed a host destination.  It writes no file, and
  prints nothing unless the whole search succeeds.
-/
import FlowProcessor.CommandLine.PortsTool
import FlowProcessor.CrossReference
import FlowProcessor.StateFile
import FlowProcessor.Tools.Session

namespace FlowProcessor.PortsTool

/-- The warning about a destination in several groups of a device. -/
def warning (r : CrossReference) : String :=
  if r.isAmbiguous then
    "Warning: host dest " ++ idText r.dest ++ " is in more than one load balance group\n"
  else ""

/-- The report of a search. -/
def report (filter : Filter) (before : List Event) :
    Except ToolError CrossReference × World → ToolReport
  | (.ok r, w) =>
      ⟨.succeeded, r.text, warning r, filter.shown (before.map .plain ++ w.log)⟩
  | (.error error, w) => .failed error (filter.shown (before.map .plain ++ w.log))

/-- Searches the platform of a state file. -/
def runOn (filter : Filter) (path queue : String) (dest : DestId) (devices : List DeviceId) :
    Interaction ToolReport := do
  let searching : List Event := [.searching dest devices]
  match ← StateFile.open path with
  | .error error => return .failed error (filter.shown (searching.map .plain))
  | .ok (platform, opening) =>
      return report filter (searching ++ opening)
        (CrossReference.search queue dest devices (World.start platform .unlimited))

/-- Runs the tool. -/
def run (invocation : Invocation) : Interaction ToolReport := do
  match PortsArguments.read invocation.args with
  | .error rejection => return .rejected rejection
  | .ok a =>
      match ← Settings.resolve a.settingsPath invocation.settingsPath with
      | .error error => return .failed error []
      | .ok settings =>
          let devices := if a.devices.isEmpty then settings.searchDevices else a.devices
          runOn (.choose invocation.logFilter (a.logLevel.getD settings.logLevel))
            (a.statePath.getD settings.statePath) settings.rulesQueue a.dest devices

end FlowProcessor.PortsTool
