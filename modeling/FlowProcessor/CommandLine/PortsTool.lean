/-
  FlowProcessor.CommandLine.PortsTool — THE COMMAND LINE OF THE CROSS-REFERENCE TOOL.

  A host destination has to be given; devices to search may be, any number of them.
-/
import FlowProcessor.CommandLine.Value
import FlowProcessor.Ident

namespace FlowProcessor

/-- A setting of the cross-reference tool. -/
inductive PortsSetting
  | dest (dest : DestId)
  | logLevel (text : String)
  | device (device : DeviceId)
  | settingsPath (path : String)
  | statePath (path : String)
  deriving DecidableEq, Repr

/-- The options of the cross-reference tool. -/
def portsGrammar : CommandLine.Grammar PortsSetting :=
  [CommandLine.readOption "host_dest" 'i' false DestId.read InputError.message .dest,
    CommandLine.textOption "loglevel" 'l' .logLevel,
    CommandLine.readOption "device" 'D' true DeviceId.read InputError.message .device,
    CommandLine.pathOption "config" .settingsPath,
    CommandLine.pathOption "platform" .statePath]

/-- What the command line of the cross-reference tool asks for. -/
structure PortsArguments where
  dest : DestId
  logLevel : Option String
  devices : List DeviceId
  settingsPath : Option String
  statePath : Option String
  deriving DecidableEq, Repr

namespace PortsArguments

/-- Sorts the settings of a command line; refused without a destination. -/
def ofSettings (settings : List PortsSetting) : Except CommandLine.Rejection PortsArguments :=
  let dest? := settings.findSome? fun
    | .dest dest => some dest
    | _ => none
  match dest? with
  | none => .error .missingArgument
  | some dest => .ok {
      dest := dest
      logLevel := settings.findSome? fun
        | .logLevel text => some text
        | _ => none
      devices := settings.filterMap fun
        | .device device => some device
        | _ => none
      settingsPath := settings.findSome? fun
        | .settingsPath path => some path
        | _ => none
      statePath := settings.findSome? fun
        | .statePath path => some path
        | _ => none }

/-- Reads a command line. -/
def read (args : List String) : Except CommandLine.Rejection PortsArguments :=
  CommandLine.scan portsGrammar args >>= ofSettings

end PortsArguments

end FlowProcessor
